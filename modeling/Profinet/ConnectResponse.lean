/-
  CONNECT RESPONSE: what the device answers to a Connect.

  The response body is an NRD header and a list of blocks, each with its type and its length.  Two
  walkers go over the list.  `parseIocrBlockRes` looks for the frame ID the device assigned to an
  IOCR; `parseModuleDiffBlock` collects every submodule the device lists with the state it gives
  it.  A submodule that is not `isOurs` makes the connect fail, although the device accepted the
  AR.

  A walker stands at an offset of the source's buffer; here it holds the bytes from there on.
-/
import Profinet.Transport
import Profinet.Lib.Counted

namespace Profinet.Transport

open Wire Errors Counted

/-- IOCRBlockRes block type. -/
def iocrBlockRes : UInt16 := 0x8102

/-- ModuleDiffBlock block type: what the device really has in each slot, and who owns it. -/
def moduleDiffBlock : UInt16 := 0x8104

/-- Walk the blocks for an IOCRBlockRes of the given type (1=input, 2=output) and return its frame
    ID, 0 if there is none. -/
def parseIocrBlockRes (responseData : List UInt8) (iocrType : UInt16) : UInt16 :=
  if 6 ≤ responseData.length then
    let blockType := rdU16 responseData 0 false
    let blockLength := rdU16 responseData 2 false
    if blockType = iocrBlockRes ∧ 12 ≤ responseData.length
        ∧ rdU16 responseData 6 false = iocrType then
      rdU16 responseData 10 false
    else parseIocrBlockRes (responseData.drop (4 + blockLength.toNat)) iocrType
  else 0
  termination_by responseData.length
  decreasing_by
    rw [List.length_drop]
    omega

/-! ## Submodule states -/

-- `SubmoduleState.ARInfo`.
/-- Owned by this AR. -/
def arInfoOk : UInt16 := 0
/-- Owned by this AR, its application not ready. -/
def arInfoApplicationReadyPending : UInt16 := 1
/-- Locked by a superordinated relationship. -/
def arInfoLockedSuperordinated : UInt16 := 2
/-- Locked by another IO-controller. -/
def arInfoLockedByIoc : UInt16 := 3
/-- Locked by an IO-supervisor. -/
def arInfoLockedByIos : UInt16 := 4

-- `SubmoduleState.IdentInfo`.
/-- The submodule that was asked for. -/
def identInfoOk : UInt16 := 0
/-- A substitute. -/
def identInfoSubstitute : UInt16 := 1
/-- The wrong submodule. -/
def identInfoWrong : UInt16 := 2
/-- Nothing plugged. -/
def identInfoNoSubmodule : UInt16 := 3

/-- `SubmoduleState` bit 15: the word is made of named fields. -/
def submoduleStateHasFields : UInt16 := 0x8000

/-- One submodule as the device reported it (`SubmoduleDiff`). -/
structure SubmoduleDiff where
  slot : UInt16
  subslot : UInt16
  submoduleIdent : UInt32
  state : UInt16
  deriving DecidableEq, Repr

namespace SubmoduleDiff

/-- Is the state made of named fields? -/
def hasFields (d : SubmoduleDiff) : Bool := d.state &&& submoduleStateHasFields ≠ 0

/-- `IdentInfo`, bits 14..11. -/
def identInfo (d : SubmoduleDiff) : Option UInt16 :=
  if d.hasFields then some ((d.state >>> 11) &&& 0xF) else none

/-- `ARInfo`, bits 10..7. -/
def arInfo (d : SubmoduleDiff) : Option UInt16 :=
  if d.hasFields then some ((d.state >>> 7) &&& 0xF) else none

/-- Is the submodule held for someone else? -/
def isLocked (d : SubmoduleDiff) : Bool :=
  match d.arInfo with
  | some arInfo =>
    arInfo = arInfoLockedSuperordinated || arInfo = arInfoLockedByIoc || arInfo = arInfoLockedByIos
  | none => false

/-- Will this AR be given the submodule's data?  Owned, also while the application is not ready,
    and the submodule that was asked for.  A state word in the other format withholds nothing. -/
def isOurs (d : SubmoduleDiff) : Bool :=
  match d.arInfo, d.identInfo with
  | some arInfo, some identInfo =>
    (arInfo = arInfoOk || arInfo = arInfoApplicationReadyPending) && identInfo = identInfoOk
  | _, _ => true

/-- Why not, in words. -/
def reason (d : SubmoduleDiff) : String :=
  match d.arInfo, d.identInfo with
  | some arInfo, some identInfo =>
    let owner :=
      if arInfo = arInfoOk then "owned by this AR"
      else if arInfo = arInfoApplicationReadyPending then
        "owned by this AR, application not ready yet"
      else if arInfo = arInfoLockedSuperordinated then "locked by a superordinated relationship"
      else if arInfo = arInfoLockedByIoc then "locked by another IO-controller"
      else if arInfo = arInfoLockedByIos then "locked by an IO-supervisor"
      else "ARInfo 0x" ++ hex 1 arInfo.toNat ++ ", a value this code does not know"
    if identInfo = identInfoOk then owner
    else
      let identity :=
        if identInfo = identInfoSubstitute then "a substitute is plugged"
        else if identInfo = identInfoWrong then "the wrong submodule is plugged"
        else if identInfo = identInfoNoSubmodule then "nothing is plugged there"
        else "IdentInfo is a value this code does not know"
      owner ++ ", but " ++ identity
  | _, _ => "SubmoduleState 0x" ++ hex 4 d.state.toNat ++ ", not in the field format"

end SubmoduleDiff

/-! ## The ModuleDiffBlock

  Its nesting is APIs, modules, submodules, each level counted by a `u16`.  What the loops hold is
  the bytes from where they stand to the end of the block. -/

/-- One round of the loop over the submodules of a module; `none` is its `break`. -/
def readSubmodule (slot : UInt16) (p : List UInt8) : Option (List SubmoduleDiff × List UInt8) :=
  if p.length < 8 then none
  else
    some
      ([{ slot := slot
          subslot := rdU16 p 0 false
          submoduleIdent := rdU32 p 2 false
          state := rdU16 p 6 false }], p.drop 8)

/-- One round of the loop over modules: slot, ident and state, then the submodules. -/
def readModule (p : List UInt8) : Option (List SubmoduleDiff × List UInt8) :=
  if p.length < 10 then none
  else
    let slot := rdU16 p 0 false
    let submodules := rdU16 p 8 false
    some (counted (readSubmodule slot) submodules.toNat (p.drop 10))

/-- One round of the loop over APIs: the API number is not needed to name a submodule. -/
def readApi (p : List UInt8) : Option (List SubmoduleDiff × List UInt8) :=
  if p.length < 6 then none
  else
    let modules := rdU16 p 4 false
    some (counted readModule modules.toNat (p.drop 6))

/-- The submodules of one ModuleDiffBlock, of the bytes up to its end. -/
def readModuleDiff (block : List UInt8) : List SubmoduleDiff :=
  let p := block.drop 6
  if 2 ≤ p.length then (counted readApi (rdU16 p 0 false).toNat (p.drop 2)).1 else []

/-- Walk the blocks for ModuleDiffBlocks and return every submodule they list. -/
def parseModuleDiffBlock (responseData : List UInt8) : List SubmoduleDiff :=
  if 6 ≤ responseData.length then
    let blockType := rdU16 responseData 0 false
    let blockLength := rdU16 responseData 2 false
    let found :=
      if blockType = moduleDiffBlock then
        readModuleDiff (responseData.take (4 + blockLength.toNat))
      else []
    found ++ parseModuleDiffBlock (responseData.drop (4 + blockLength.toNat))
  else []
  termination_by responseData.length
  decreasing_by
    rw [List.length_drop]
    omega

/-! ## The verdict -/

/-- Result of a connect (`ConnectResult`): frame IDs, 0 = not established. -/
structure ConnectResult where
  inputFrameId : UInt16
  outputFrameId : UInt16
  hasCyclic : Bool
  deriving DecidableEq, Repr

/-- How the refusal names one withheld submodule. -/
def withheldDetail (d : SubmoduleDiff) : String :=
  "slot " ++ toString d.slot.toNat ++ "/subslot 0x" ++ hex 1 d.subslot.toNat ++ " ident 0x"
    ++ hex 4 d.submoduleIdent.toNat ++ ": " ++ d.reason

/-- The refusal of an AR whose submodules are withheld: where to release the device depends on
    whether any of them is held for someone else. -/
def withheldMessage (withheld : List SubmoduleDiff) : String :=
  let detail := String.intercalate "; " (withheld.map withheldDetail)
  let advice :=
    if withheld.any SubmoduleDiff.isLocked then "Release the device at whoever owns it first"
    else "Check the configuration against what the device really has plugged"
  "the device accepted the AR but withheld " ++ toString withheld.length
    ++ " submodule(s), so its cyclic frames would carry substitute data with IOPS bad: " ++ detail
    ++ ". " ++ advice

/-- A connect-response body: status check, then the submodules, then the frame IDs. -/
def parseConnectResponse (rpcPayload : List UInt8) (littleEndian : Bool) :
    Except String ConnectResult := do
  let nrd ← parseNrd rpcPayload littleEndian
  if nrd.argsStatus ≠ 0 then
    throw ("Connect rejected by device: PNIO status " ++ pnioStatusStr nrd.argsStatus)
  let diffs := parseModuleDiffBlock nrd.payload
  let withheld := diffs.filter fun d => !d.isOurs
  if withheld ≠ [] then
    throw (withheldMessage withheld)
  let inputFrameId := parseIocrBlockRes nrd.payload 1
  let outputFrameId := parseIocrBlockRes nrd.payload 2
  pure
    { inputFrameId := inputFrameId
      outputFrameId := outputFrameId
      hasCyclic := inputFrameId ≠ 0 || outputFrameId ≠ 0 }

end Profinet.Transport
