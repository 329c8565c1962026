/-
  GSDML PARSER: from the XML document of a device to its catalog.

  The XML itself is read by a library; what it hands on is a tree of elements with their attributes
  (`Node`).  Every list of the catalog is a walk over elements of one name, and the first element
  that cannot be read fails the whole document.  The sizes that are read are capped
  (`parseIoDataSize_le`), one direction of one submodule at a time.
-/
import Profinet.Catalog
import Profinet.Lib.Checked
import Profinet.Lib.Text

namespace Profinet.Gsdml

open Checked Text Walk

/-! ## Documents -/

/-- A node of a parsed document; `other` is text, a comment or a processing instruction.  Names are
    local names, attributes those without a namespace. -/
inductive Node where
  | element (name : String) (attributes : List (String × String)) (children : List Node)
  | other

namespace Node

/-- The node is an element of that name. -/
def hasName (localName : String) : Node → Bool
  | element name _ _ => name = localName
  | other => false

/-- The value of the first attribute of that local name; text has none. -/
def attr (localName : String) : Node → Option String
  | element _ attributes _ => (attributes.find? fun a => a.1 = localName).map Prod.snd
  | other => none

/-- The children of an element. -/
def children : Node → List Node
  | element _ _ children => children
  | other => []

mutual

/-- The node and everything below it, in document order. -/
def descendants : Node → List Node
  | element name attributes children =>
    element name attributes children :: descendantsOf children
  | other => [other]

/-- The descendants of a list of nodes, in document order. -/
def descendantsOf : List Node → List Node
  | [] => []
  | node :: nodes => descendants node ++ descendantsOf nodes

end

/-- First direct child element by local name. -/
def find (elem : Node) (localName : String) : Option Node :=
  elem.children.find? (hasName localName)

/-- All direct child elements by local name. -/
def findall (elem : Node) (localName : String) : List Node :=
  elem.children.filter (hasName localName)

/-- First descendant element by local name. -/
def findDeep (elem : Node) (localName : String) : Option Node :=
  elem.descendants.find? (hasName localName)

/-- All descendant elements by local name. -/
def findallDeep (elem : Node) (localName : String) : List Node :=
  elem.descendants.filter (hasName localName)

end Node

/-! ## Numbers -/

/-- Why a document is refused; the source prints the text it could not read. -/
inductive GsdmlError where
  | invalidInteger (value : String) (e : ParseIntError)
  | invalidLength (lengthAttr : String) (e : ParseIntError)
  | ioDataTooLong (direction : String)
  | slotSpecTooLong
  | slotSpecPartTooLong (part : String)
  | invalidSlotSpecPart (part : String) (e : ParseIntError)
  deriving DecidableEq, Repr

/-- Byte sizes of the data types; the others need a `Length`. -/
def gsdmlTypeSizes : List (String × Nat) :=
  [("Boolean", 1), ("Integer8", 1), ("Integer16", 2), ("Integer32", 4), ("Integer64", 8),
   ("Unsigned8", 1), ("Unsigned16", 2), ("Unsigned32", 4), ("Unsigned64", 8), ("Float32", 4),
   ("Float64", 8), ("TimeStamp", 8)]

/-- `gsdml_type_size`: the bytes of a data type of fixed size. -/
def gsdmlTypeSize (dataType : String) : Option Nat :=
  (gsdmlTypeSizes.find? fun e => e.1 = dataType).map Prod.snd

/-- An integer attribute, decimal or hexadecimal; 0 where it is missing. -/
def parseInt (value : Option String) : Except GsdmlError UInt32 :=
  match value with
  | none => .ok 0
  | some value =>
    let value := trim value.toList
    let parsed := match value with
      | '0' :: 'x' :: hex => parseUint (2 ^ 32) 16 hex
      | '0' :: 'X' :: hex => parseUint (2 ^ 32) 16 hex
      | _ => parseUint (2 ^ 32) 10 value
    match parsed with
    | .ok n => .ok (UInt32.ofNat n)
    | .error e => .error (.invalidInteger (String.ofList value) e)

/-! ## Lengths -/

/-- `MAX_IO_DATA_LEN`. -/
def maxIoDataLen : Nat := 0x10000

/-- The size a DataItem adds: its `Length`, or that of its `DataType`. -/
def dataItemSize (dataItem : Node) : Except GsdmlError Nat :=
  match dataItem.attr "Length" with
  | some lengthAttr =>
    match parseUint (2 ^ 64) 10 lengthAttr.toList with
    | .ok n => .ok n
    | .error e => .error (.invalidLength lengthAttr e)
  | none => .ok ((gsdmlTypeSize ((dataItem.attr "DataType").getD "")).getD 0)

/-- One more DataItem. -/
def addDataItem (direction : String) (total : Nat) (dataItem : Node) : Except GsdmlError Nat := do
  let size ← dataItemSize dataItem
  match (checkedAdd total size).filter (· ≤ maxIoDataLen) with
  | some total => .ok total
  | none => .error (.ioDataTooLong direction)

/-- The data of one direction ("Input" or "Output") in bytes. -/
def parseIoDataSize (submoduleElem : Node) (direction : String) : Except GsdmlError Nat :=
  match (submoduleElem.find "IOData").bind fun ioData => ioData.find direction with
  | none => .ok 0
  | some dirElem => (dirElem.findall "DataItem").foldlM (addDataItem direction) 0

/-! ## Slot specs -/

/-- `MAX_SLOTS`: how many slots a spec may name. -/
def maxSlots : Nat := 4096

/-- One bound of a slot range, with the text of its error. -/
def parseSlotNumber (part s : List Char) : Except GsdmlError UInt16 :=
  match parseUint (2 ^ 16) 10 s with
  | .ok n => .ok (UInt16.ofNat n)
  | .error e => .error (.invalidSlotSpecPart (String.ofList part) e)

/-- `start..=end`, empty where it descends. -/
def slotRange (start stop : UInt16) : List UInt16 :=
  (List.range' start.toNat (stop.toNat + 1 - start.toNat)).map UInt16.ofNat

/-- One more part of a spec: a number, or a range. -/
def addSlotSpecPart (result : List UInt16) (part : List Char) :
    Except GsdmlError (List UInt16) := do
  match splitOnce ['.', '.'] part with
  | some (start, stop) =>
    let start ← parseSlotNumber part start
    let stop ← parseSlotNumber part stop
    let span := stop.toNat - start.toNat + 1
    if start ≤ stop ∧ maxSlots < result.length + span then
      .error (.slotSpecPartTooLong (String.ofList part))
    else .ok (result ++ slotRange start stop)
  | none =>
    if maxSlots ≤ result.length then .error .slotSpecTooLong
    else return result ++ [← parseSlotNumber part part]

/-- A spec like "1..3" or "1 2 5"; commas count as spaces. -/
def parseSlotSpec (spec : Option String) : Except GsdmlError (List UInt16) :=
  match spec with
  | none => .ok []
  | some spec =>
    (words (spec.toList.map fun c => if c = ',' then ' ' else c)).foldlM addSlotSpecPart []

/-! ## Elements -/

/-- `parse_submodule`: the ident number and both data lengths. -/
def parseSubmodule (elem : Node) : Except GsdmlError GsdmlSubmodule := do
  let submoduleIdent ← parseInt (elem.attr "SubmoduleIdentNumber")
  let inputLength ← parseIoDataSize elem "Input"
  let outputLength ← parseIoDataSize elem "Output"
  return { id := (elem.attr "ID").getD "", submoduleIdent, inputLength, outputLength }

/-- The submodules of the `VirtualSubmoduleList` of an access point or a module. -/
def parseVirtualSubmodules (parent : Node) : Except GsdmlError (List GsdmlSubmodule) :=
  match parent.find "VirtualSubmoduleList" with
  | none => .ok []
  | some vsl => (vsl.findall "VirtualSubmoduleItem").mapM parseSubmodule

/-- `parse_int(..)? as u16`: the subslot number is cut to 16 bits. -/
def parseSystemSubmodule (item : Node) : Except GsdmlError GsdmlSystemSubmodule := do
  let subslotNumber ← parseInt (item.attr "SubslotNumber")
  let submoduleIdent ← parseInt (item.attr "SubmoduleIdentNumber")
  return { subslotNumber := subslotNumber.toUInt16, submoduleIdent }

/-- The interface first, then the ports. -/
def parseSystemSubmodules (dapElem : Node) : Except GsdmlError (List GsdmlSystemSubmodule) :=
  match dapElem.find "SystemDefinedSubmoduleList" with
  | none => .ok []
  | some sdsl =>
    (sdsl.findall "InterfaceSubmoduleItem" ++ sdsl.findall "PortSubmoduleItem").mapM
      parseSystemSubmodule

/-- One item reference: its target, and the slots it is fixed in and allowed in. -/
def parseItemRef (targetAttr fixedAttr allowedAttr : String) (item : Node) :
    Except GsdmlError ItemRef := do
  let fixed ← parseSlotSpec (item.attr fixedAttr)
  let allowed ← parseSlotSpec (item.attr allowedAttr)
  return { target := (item.attr targetAttr).getD "", fixed, allowed }

/-- The references under one list element. -/
def parseItemRefs (parent : Node) (listTag refTag targetAttr fixedAttr allowedAttr : String) :
    Except GsdmlError (List ItemRef) :=
  match parent.find listTag with
  | none => .ok []
  | some list => (list.findall refTag).mapM (parseItemRef targetAttr fixedAttr allowedAttr)

/-- `parse_dap`. -/
def parseDap (dapElem : Node) : Except GsdmlError GsdmlDap := do
  let moduleIdent ← parseInt (dapElem.attr "ModuleIdentNumber")
  let submodules ← parseVirtualSubmodules dapElem
  let systemSubmodules ← parseSystemSubmodules dapElem
  let useableModules ← parseItemRefs dapElem "UseableModules" "ModuleItemRef" "ModuleItemTarget"
    "FixedInSlots" "AllowedInSlots"
  return { id := (dapElem.attr "ID").getD "", moduleIdent, submodules, systemSubmodules,
           useableModules }

/-- `parse_module`. -/
def parseModule (modElem : Node) : Except GsdmlError GsdmlModule := do
  let moduleIdent ← parseInt (modElem.attr "ModuleIdentNumber")
  let submodules ← parseVirtualSubmodules modElem
  let useableSubmodules ← parseItemRefs modElem "UseableSubmodules" "SubmoduleItemRef"
    "SubmoduleItemTarget" "FixedInSubslots" "AllowedInSubslots"
  return { id := (modElem.attr "ID").getD "", moduleIdent, submodules, useableSubmodules }

/-- Vendor and device, cut to 16 bits; 0 without a DeviceIdentity. -/
def parseIdentity (root : Node) : Except GsdmlError (UInt16 × UInt16) := do
  match root.findDeep "DeviceIdentity" with
  | none => .ok (0, 0)
  | some devIdent =>
    let vendorId ← parseInt (devIdent.attr "VendorID")
    let deviceId ← parseInt (devIdent.attr "DeviceID")
    return (vendorId.toUInt16, deviceId.toUInt16)

/-- `parse_gsdml_root`: the access points, the modules and the submodule catalog. -/
def parseGsdmlRoot (root : Node) : Except GsdmlError GsdmlDevice := do
  let (vendorId, deviceId) ← parseIdentity root
  let submoduleCatalog ← (root.findallDeep "SubmoduleItem").mapM parseSubmodule
  let daps ← (root.findallDeep "DeviceAccessPointItem").mapM parseDap
  let modules ← (root.findallDeep "ModuleItem").mapM parseModule
  return { vendorId, deviceId, daps, modules, submoduleCatalog }

/-! ## What is accepted is capped -/

/-- A total that one more data item is added to is still within the cap. -/
theorem addDataItem_le {direction : String} {total n : Nat} {dataItem : Node}
    (h : addDataItem direction total dataItem = .ok n) : n ≤ maxIoDataLen := by
  obtain ⟨size, -, h⟩ := ok_of_bind h
  cases hsum : (checkedAdd total size).filter (· ≤ maxIoDataLen) with
  | none =>
    rw [hsum] at h
    nomatch h
  | some t =>
    rw [hsum] at h
    cases h
    have hcap := (Option.filter_eq_some_iff.mp hsum).2
    exact of_decide_eq_true hcap

/-- **A direction that is read is at most 65536 bytes long**: the cap is checked at every item. -/
theorem parseIoDataSize_le {submoduleElem : Node} {direction : String} {n : Nat}
    (h : parseIoDataSize submoduleElem direction = .ok n) : n ≤ maxIoDataLen := by
  unfold parseIoDataSize at h
  split at h
  · cases h
    exact Nat.zero_le _
  · exact invariant_of_foldlM (P := (· ≤ maxIoDataLen)) (fun _ _ _ _ hstep => addDataItem_le hstep)
      (Nat.zero_le _) h

/-- Both data lengths of a parsed submodule are sums of data items, so they stay within the cap. -/
theorem parseSubmodule_capped (elem : Node) (sub : GsdmlSubmodule)
    (h : parseSubmodule elem = .ok sub) : sub.Capped maxIoDataLen := by
  obtain ⟨ident, -, h⟩ := ok_of_bind h
  obtain ⟨inputLength, hinput, h⟩ := ok_of_bind h
  obtain ⟨outputLength, houtput, h⟩ := ok_of_bind h
  cases h
  exact ⟨parseIoDataSize_le hinput, parseIoDataSize_le houtput⟩

/-- The submodules of a list stay within the cap. -/
theorem parseVirtualSubmodules_capped {parent : Node} {submodules : List GsdmlSubmodule}
    (h : parseVirtualSubmodules parent = .ok submodules) :
    ∀ sub ∈ submodules, sub.Capped maxIoDataLen := by
  unfold parseVirtualSubmodules at h
  split at h
  · cases h
    exact fun sub hsub => nomatch hsub
  · exact forall_of_mapM parseSubmodule_capped h

/-- The submodules of an access point stay within the cap. -/
theorem parseDap_capped (dapElem : Node) (dap : GsdmlDap) (h : parseDap dapElem = .ok dap) :
    ∀ sub ∈ dap.submodules, sub.Capped maxIoDataLen := by
  obtain ⟨ident, -, h⟩ := ok_of_bind h
  obtain ⟨submodules, hsubmodules, h⟩ := ok_of_bind h
  obtain ⟨systemSubmodules, -, h⟩ := ok_of_bind h
  obtain ⟨useableModules, -, h⟩ := ok_of_bind h
  cases h
  exact parseVirtualSubmodules_capped hsubmodules

/-- The submodules of a module stay within the cap. -/
theorem parseModule_capped (modElem : Node) (module : GsdmlModule)
    (h : parseModule modElem = .ok module) :
    ∀ sub ∈ module.submodules, sub.Capped maxIoDataLen := by
  obtain ⟨ident, -, h⟩ := ok_of_bind h
  obtain ⟨submodules, hsubmodules, h⟩ := ok_of_bind h
  obtain ⟨useableSubmodules, -, h⟩ := ok_of_bind h
  cases h
  exact parseVirtualSubmodules_capped hsubmodules

/-- A file that parses never describes more data than `MAX_IO_DATA_LEN` in one direction of a
    submodule. -/
theorem parseGsdmlRoot_capped {root : Node} {device : GsdmlDevice}
    (h : parseGsdmlRoot root = .ok device) : device.Capped maxIoDataLen := by
  obtain ⟨identity, -, h⟩ := ok_of_bind h
  obtain ⟨submoduleCatalog, hcatalog, h⟩ := ok_of_bind h
  obtain ⟨daps, hdaps, h⟩ := ok_of_bind h
  obtain ⟨modules, hmodules, h⟩ := ok_of_bind h
  cases h
  exact
    { daps := forall_of_mapM parseDap_capped hdaps
      modules := forall_of_mapM parseModule_capped hmodules
      submoduleCatalog := forall_of_mapM parseSubmodule_capped hcatalog }

end Profinet.Gsdml
