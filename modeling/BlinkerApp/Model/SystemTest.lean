import BlinkerApp.Model.Commands
import BlinkerApp.Model.Dispatch

/-!
# The system test (`scripts/test_blinker.sh`)

The script sends commands to a running system and sleeps between them; what the app reports is
left to be read by the operator. The arguments of a command stand behind its header, in the byte
order of the target.
-/

namespace BlinkerApp

variable {p : Platform} (s : Sender p)

/-- `send_blink_noargs` -/
def sendBlinkNoargs (cmdcode : UInt16) : SbBuffer := s.noArgs cmdcode

/-- `send_blink_specblinker` -/
def sendBlinkSpecblinker (cmdcode n : UInt16) : SbBuffer := s.specBlinker cmdcode n 99

/-- `send_blink_swapblinkers` -/
def sendBlinkSwapblinkers (n1 n2 : UInt16) : SbBuffer := s.swapBlinkers 11 n1 n2

/-- The commands of the script (`test_blinker.sh:37-57`), where `n1` is 5 and `n2` is 3. -/
def testBlinker (n1 n2 : UInt16) : List SbBuffer :=
  [sendBlinkNoargs s 0, sendBlinkNoargs s 10, sendBlinkNoargs s 4,
   sendBlinkSpecblinker s 6 n1,
   -- let blinker `n1` count some
   sendBlinkSpecblinker s 7 n1, sendBlinkSpecblinker s 8 n1, sendBlinkSpecblinker s 6 n1,
   -- let blinker `n2` count some
   sendBlinkSpecblinker s 7 n2, sendBlinkSpecblinker s 8 n2, sendBlinkSpecblinker s 6 n2,
   sendBlinkSwapblinkers s n1 n2,
   sendBlinkSpecblinker s 6 n1, sendBlinkSpecblinker s 6 n2]

/-- Commands that reach the app one after another, with the messages `others n` of other senders
between command `n` and the next one. -/
def underWay (replies : Nat → CfeReplies p) (others : Nat → List (Input p))
    (commands : List SbBuffer) : List (Input p) :=
  commands.zipIdx.flatMap fun (m, n) => ⟨replies n, m⟩ :: others n

end BlinkerApp
