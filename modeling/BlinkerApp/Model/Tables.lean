import BlinkerApp.Misc.CObject
import BlinkerApp.Model.Messages

/-!
# The example table (`blinker_app_utils.c`, `blinker_app_tbl.c`)

The image of the table as its file holds it, and the function the table services call on an
image before they use it.
-/

namespace BlinkerApp

open CLayout CType

/-- `BLINKER_APP_TBL_ELEMENT_1_MAX` (`default_blinker_app_internal_cfg.h`) -/
def tblElement1Max : UInt16 := 10

/-- `BLINKER_APP_TABLE_OUT_OF_RANGE_ERR_CODE` (`default_blinker_app_internal_cfg.h`) -/
def tableOutOfRangeErrCode : CfeStatus := -1

/-- `BLINKER_APP_ExampleTable_t` (`default_blinker_app_tbldefs.h`) -/
structure ExampleTable where
  int1 : UInt16
  int2 : UInt16
  deriving DecidableEq

/-- The fields of the struct with their values. -/
def ExampleTable.fields (order : ByteOrder) (t : ExampleTable) : List Field :=
  [.int order uint16 t.int1.toNat, .int order uint16 t.int2.toNat]

/-- The image of the table in a memory that held `memory`. -/
def ExampleTable.image (order : ByteOrder) (memory : Nat → UInt8) (t : ExampleTable) :
    Nat → UInt8 :=
  storeFields memory 0 (t.fields order)

/-- The table at `tblData`, as the app reads it through the struct. -/
def ExampleTable.load (order : ByteOrder) (tblData : Nat → UInt8) : ExampleTable where
  int1 := UInt16.ofNat (CLayout.load order tblData (offsetof [uint16, uint16] 0) 2)
  int2 := UInt16.ofNat (CLayout.load order tblData (offsetof [uint16, uint16] 1) 2)

/-- `ExampleTable` (`blinker_app_tbl.c:27`) -/
def exampleTableContents : ExampleTable := ⟨1, 2⟩

/-- `BLINKER_APP_TblValidationFunc` (`blinker_app_utils.c:37-52`) -/
def tblValidationFunc (order : ByteOrder) (tblData : Nat → UInt8) : CfeStatus :=
  if (ExampleTable.load order tblData).int1 > tblElement1Max then tableOutOfRangeErrCode
  else cfeSuccess

end BlinkerApp
