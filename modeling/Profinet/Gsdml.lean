/-
  GSDML: the slot list an application relation is built from.

  Of the catalog parser only its product is needed here: one `IoSlot` per submodule, with the
  lengths of its input and output data.  Both the Connect blocks and the runtime IOCR layout
  are computed from a list of these.
-/
import Mathlib.Data.List.Basic

namespace Profinet.Gsdml

/-- Single IO slot/subslot for cyclic data exchange (`IoSlot`). -/
structure IoSlot where
  slot : UInt16
  subslot : UInt16
  moduleIdent : UInt32
  submoduleIdent : UInt32
  /-- Input data length in bytes (device -> controller).  0 = no input. -/
  inputLength : Nat
  /-- Output data length in bytes (controller -> device).  0 = no output. -/
  outputLength : Nat
  deriving DecidableEq, Repr

/-- What identifies a submodule on the wire. -/
def IoSlot.key (s : IoSlot) : UInt16 × UInt16 := (s.slot, s.subslot)

end Profinet.Gsdml
