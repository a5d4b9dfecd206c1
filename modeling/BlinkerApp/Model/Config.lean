import BlinkerApp.Misc.CLayout

/-!
# Configuration of the app

The constants of the app's own headers, and what the app takes from the cFE
headers. The cFE is not part of this repository, so its side of the configuration
is a parameter: a `Platform`.
-/

namespace BlinkerApp

open CLayout

/-- `CFE_Status_t`: zero is success, negative values are errors. -/
abbrev CfeStatus := Int32

/-- `CFE_SUCCESS` -/
abbrev cfeSuccess : CfeStatus := 0

/-- `CFE_SB_PipeId_t` -/
abbrev PipeId := UInt32

/-- `CFE_TBL_Handle_t` -/
abbrev TblHandle := Int16

/-! ## Topic ids (`default_blinker_app_topicids.h`) -/

def cmdTopicid : UInt16 := 0x82

def sendHkTopicid : UInt16 := 0x83

def hkTlmTopicid : UInt16 := 0x83

def blinkCmdTopicid : UInt16 := 0x99

/-- What the app takes from the cFE and the target: the byte order, the two message
headers, the mission configuration, the numbering of topics, the options of the table
services, and the status and run-status codes it tests for. -/
structure Platform where
  byteOrder : ByteOrder
  /-- `CFE_MSG_CommandHeader_t` -/
  commandHeader : CType
  /-- `CFE_MSG_TelemetryHeader_t` -/
  telemetryHeader : CType
  /-- `CFE_PLATFORM_CMD_TOPICID_TO_MIDV` -/
  cmdTopicidToMidv : UInt16 → UInt32
  /-- `CFE_PLATFORM_TLM_TOPICID_TO_MIDV` -/
  tlmTopicidToMidv : UInt16 → UInt32
  /-- The `switch` of `BLINKER_APP_TaskPipe` compiles: its case labels differ. -/
  caseLabels : [cmdTopicidToMidv cmdTopicid, cmdTopicidToMidv sendHkTopicid,
    tlmTopicidToMidv blinkCmdTopicid].Nodup
  /-- `CFE_MISSION_MAX_API_LEN` -/
  maxApiLen : Nat
  /-- `CFE_TBL_OPT_DEFAULT` -/
  tblOptDefault : UInt16
  /-- `CFE_TBL_SRC_FILE` -/
  tblSrcFile : UInt32
  /-- `CFE_ES_RunStatus_APP_RUN` -/
  appRun : UInt32
  /-- `CFE_ES_RunStatus_APP_ERROR` -/
  appError : UInt32
  /-- `CFE_STATUS_UNKNOWN_MSG_ID` -/
  unknownMsgId : CfeStatus
  /-- `CFE_STATUS_WRONG_MSG_LENGTH` -/
  wrongMsgLength : CfeStatus
  /-- The two error codes are not the success code. -/
  errorCodes : unknownMsgId ≠ cfeSuccess ∧ wrongMsgLength ≠ cfeSuccess

/-- The values of a default cFE build on a little-endian machine. -/
def defaultPlatform : Platform where
  byteOrder := .little
  commandHeader := ⟨8, 0, by decide⟩
  telemetryHeader := ⟨16, 0, by decide⟩
  cmdTopicidToMidv topic := 0x1800 ||| topic.toUInt32
  tlmTopicidToMidv topic := 0x0800 ||| topic.toUInt32
  caseLabels := by decide
  maxApiLen := 20
  tblOptDefault := 0
  tblSrcFile := 0
  appRun := 1
  appError := 3
  unknownMsgId := -0x37FFFFFD
  wrongMsgLength := -0x37FFFFFE
  errorCodes := by decide

/-! ## Message ids (`default_blinker_app_msgids.h`) -/

def cmdMid (p : Platform) : UInt32 := p.cmdTopicidToMidv cmdTopicid

def sendHkMid (p : Platform) : UInt32 := p.cmdTopicidToMidv sendHkTopicid

def hkTlmMid (p : Platform) : UInt32 := p.tlmTopicidToMidv hkTlmTopicid

def blinkCmdMid (p : Platform) : UInt32 := p.tlmTopicidToMidv blinkCmdTopicid

theorem cmdMid_ne_sendHkMid (p : Platform) : cmdMid p ≠ sendHkMid p := by
  have labels := p.caseLabels
  simp only [List.nodup_cons, List.mem_cons] at labels
  exact fun equal => labels.1 (.inl equal)

theorem cmdMid_ne_blinkCmdMid (p : Platform) : cmdMid p ≠ blinkCmdMid p := by
  have labels := p.caseLabels
  simp only [List.nodup_cons, List.mem_cons] at labels
  exact fun equal => labels.1 (.inr (.inl equal))

theorem sendHkMid_ne_blinkCmdMid (p : Platform) : sendHkMid p ≠ blinkCmdMid p := by
  have labels := p.caseLabels
  simp only [List.nodup_cons, List.mem_cons] at labels
  exact fun equal => labels.2.1 (.inl equal)

/-! ## Function codes (`default_blinker_app_fcncodes.h`) -/

@[match_pattern] abbrev noopCc : UInt16 := 0
@[match_pattern] abbrev resetCountersCc : UInt16 := 1
@[match_pattern] abbrev processCc : UInt16 := 2
@[match_pattern] abbrev displayParamCc : UInt16 := 3
@[match_pattern] abbrev resetAllBlinkersCc : UInt16 := 4
@[match_pattern] abbrev resetSpecBlinkerCc : UInt16 := 5
@[match_pattern] abbrev reportSpecBlinkerCc : UInt16 := 6
@[match_pattern] abbrev enableSpecBlinkerCc : UInt16 := 7
@[match_pattern] abbrev disableSpecBlinkerCc : UInt16 := 8
@[match_pattern] abbrev enableAllBlinkersCc : UInt16 := 9
@[match_pattern] abbrev disableAllBlinkersCc : UInt16 := 10
@[match_pattern] abbrev swapTwoBlinkersCc : UInt16 := 11

/-! ## Event ids the code emits (`blinker_app_eventids.h`) -/

def initInfEid : UInt16 := 1
def ccErrEid : UInt16 := 2
def noopInfEid : UInt16 := 3
def resetInfEid : UInt16 := 4
def midErrEid : UInt16 := 5
def cmdLenErrEid : UInt16 := 6
def pipeErrEid : UInt16 := 7
def valueInfEid : UInt16 := 8
def crPipeErrEid : UInt16 := 9
def subHkErrEid : UInt16 := 10
def subCmdErrEid : UInt16 := 11
def tableRegErrEid : UInt16 := 12
def reportSpecBlinkerInfEid : UInt16 := 16

/-! ## Other constants -/

/-- `BLINKER_APP_STRING_VAL_LEN` (`default_blinker_app_interface_cfg.h`) -/
def stringValLen : Nat := 10

/-- `BLINKER_APP_PIPE_DEPTH` (`default_blinker_app_internal_cfg.h`) -/
def pipeDepth : UInt16 := 32

/-- `BLINKER_APP_NUMBER_OF_TABLES` (`default_blinker_app_internal_cfg.h`) -/
abbrev numberOfTables : Nat := 1

/-- The index of the only table, `TblHandles[0]` -/
def exampleTable : Fin numberOfTables := ⟨0, Nat.one_pos⟩

/-- `BLINKER_APP_PERF_ID` (`default_blinker_app_perfids.h`) -/
def perfId : Nat := 91

/-- `BLINKER_APP_TABLE_FILE` (`default_blinker_app_tbl.h`) -/
def tableFile : String := "/cf/blinker_app_tbl.tbl"

/-- `BLINKER_APP_VERSION` (`blinker_app_version.h`) -/
def version : String := "equuleus-rc1+dev46"

/-- `BLINKER_APP_BUILD_CODENAME` (`blinker_app_version.h`) -/
def buildCodename : String := "Equuleus"

/-- `BLINKER_APP_LAST_OFFICIAL` (`blinker_app_version.h`) -/
def lastOfficial : String := "v1.1.0"

/-- `BLINKER_APP_CFG_MAX_VERSION_STR_LEN` (`blinker_app_version.h`) -/
def maxVersionStrLen : Nat := 256

end BlinkerApp
