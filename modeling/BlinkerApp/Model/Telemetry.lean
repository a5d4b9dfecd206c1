import BlinkerApp.Misc.CObject
import BlinkerApp.Model.Data

/-!
# The bytes of the housekeeping packet

The payload is described twice: by `BLINKER_APP_HkTlm_Payload_t`, in which the app fills
it in (`default_blinker_app_msgstruct.h`), and by the container `HkTlm_Payload` of the data
sheet (`blinker_app.xml`), by which the ground reads it.
-/

namespace BlinkerApp

open CLayout CType

variable {N : Nat}

/-- The fields of `BLINKER_APP_HkTlm_Payload_t` with their values. -/
def HkTlmPayload.fields (order : ByteOrder) (payload : HkTlmPayload N) : List Field :=
  [.int order uint16 payload.commandErrorCounter.toNat,
   .int order uint16 payload.commandCounter.toNat,
   .array order uint8 (payload.blinkerStatus.toList.map UInt8.toNat),
   .array order uint32 (payload.blinkerCount.toList.map UInt32.toNat)]

/-- The bytes of the payload, from its first one on, in a memory that held `memory`. -/
def HkTlmPayload.bytes (order : ByteOrder) (memory : Nat → UInt8) (payload : HkTlmPayload N) :
    Nat → UInt8 :=
  storeFields memory 0 (payload.fields order)

/-- The entries of the container `HkTlm_Payload` -/
inductive EdsHkTlmEntry where
  | commandCounter | commandErrorCounter
  deriving DecidableEq, Repr

/-- The `EntryList` of the container, both of type `BASE_TYPES/uint8`. -/
def edsHkTlmPayload : List (EdsHkTlmEntry × CType) :=
  [(.commandCounter, uint8), (.commandErrorCounter, uint8)]

end BlinkerApp
