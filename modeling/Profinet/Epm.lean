/-
  EPM: the endpoint mapper's answer, little-endian throughout.

  The body of the datagram holds a count of entries, each with an object UUID, an annotation text
  and a tower, aligned to four bytes.  A tower is a list of floors, each a protocol identifier (its
  left-hand side) and address data (its right-hand side), both with their length in front.  Either
  loop breaks off when the next item does not fit what is there; what was read before stays.
-/
import Profinet.Lib.Checked
import Profinet.Lib.Utf8

namespace Profinet.Epm

open Wire Checked Utf8

/-- A number in lower-case hexadecimal, at least `width` digits. -/
def lowerHex (width n : Nat) : String := String.ofList ((Nat.toDigits 16 n).leftpad width '0')

/-- A DCE/RPC UUID as text: its first three fields are little-endian. -/
def uuidBytesToString (data : List UInt8) : Comp String := do
  if data.length ≠ 16 then
    return ""
  let node ← slice data 10 16
  let timeLow ← u32At data 0 true
  let timeMid ← u16At data 4 true
  let timeHi ← u16At data 6 true
  let clockSeq ← u16At data 8 false
  return lowerHex 8 timeLow.toNat ++ "-" ++ lowerHex 4 timeMid.toNat ++ "-"
    ++ lowerHex 4 timeHi.toNat ++ "-" ++ lowerHex 4 clockSeq.toNat ++ "-"
    ++ String.join (node.val.map fun b => lowerHex 2 b.toNat)

/-- Parsed EPM endpoint entry (`EpmEndpoint`). -/
structure EpmEndpoint where
  interfaceUuid : String
  interfaceVersionMajor : UInt16
  interfaceVersionMinor : UInt16
  objectUuid : String
  protocol : String
  port : UInt16
  address : String
  /-- Device model/article number. -/
  annotation : String
  deriving DecidableEq, Repr

/-- An entry of which nothing is known. -/
def EpmEndpoint.empty : EpmEndpoint := ⟨"", 0, 0, "", "", 0, "", ""⟩

/-- What one floor says of the endpoint; only the first UUID floor is the interface. -/
def EpmEndpoint.withFloor (endpoint : EpmEndpoint) (floorIdx : Nat) (lhs rhs : List UInt8) :
    Comp EpmEndpoint := do
  if 1 ≤ lhs.length then
    let protocol ← index lhs 0
    if protocol = 0x0D ∧ 19 ≤ lhs.length then
      if floorIdx = 0 then
        let interfaceUuid ← uuidBytesToString (← slice lhs 1 17)
        let interfaceVersionMajor ← u16At lhs 17 true
        let endpoint := { endpoint with interfaceUuid, interfaceVersionMajor }
        if 2 ≤ rhs.length then
          return { endpoint with interfaceVersionMinor := ← u16At rhs 0 true }
        else return endpoint
      else return endpoint
    else if protocol = 0x0A then return { endpoint with protocol := "ncadg_ip_udp" }
    else if protocol = 0x08 ∧ 2 ≤ rhs.length then
      return { endpoint with port := ← u16At rhs 0 false }
    else if protocol = 0x09 ∧ 4 ≤ rhs.length then
      let a ← index rhs 0
      let b ← index rhs 1
      let c ← index rhs 2
      let d ← index rhs 3
      return { endpoint with
        address := toString a.toNat ++ "." ++ toString b.toNat ++ "." ++ toString c.toNat ++ "."
          ++ toString d.toNat }
    else return endpoint
  else return endpoint

/-- The next floors of a tower, from `offset` on. -/
def epmFloors (tower : List UInt8) (endpoint : EpmEndpoint) (offset floorIdx : Nat) :
    Nat → Comp EpmEndpoint
  | 0 => return endpoint
  | floors + 1 => do
    if tower.length < (← add offset 4) then
      return endpoint
    let lhsLen := (← u16At tower offset true).toNat
    let lhsOff ← add offset 2
    let lhsEnd ← add lhsOff lhsLen
    if tower.length < lhsEnd then
      return endpoint
    let lhs ← slice tower lhsOff lhsEnd
    let rhsOff ← add lhsEnd 2
    if tower.length < rhsOff then
      return endpoint
    let rhsLen := (← u16At tower lhsEnd true).toNat
    let rhsEnd ← add rhsOff rhsLen
    if tower.length < rhsEnd then
      return endpoint
    let rhs ← slice tower rhsOff rhsEnd
    let endpoint ← endpoint.withFloor floorIdx lhs rhs
    epmFloors tower endpoint rhsEnd (floorIdx + 1) floors

/-- The endpoint a tower describes; none without an interface UUID. -/
def parseEpmTower (tower : List UInt8) : Comp (Option EpmEndpoint) := do
  if tower.length < 4 then
    return none
  let floorCount ← u16At tower 0 true
  let endpoint ← epmFloors tower .empty 2 0 floorCount.toNat
  if endpoint.interfaceUuid = "" then return none else return some endpoint

/-- The annotation at `offset`, without its trailing zeros; empty if it overruns the body. -/
def annotationAt (body : List UInt8) (offset annotationLen : Nat) : Comp String := do
  if 0 < annotationLen then
    let stop ← add offset annotationLen
    if stop ≤ body.length then
      let raw ← slice body offset stop
      return fromUtf8Lossy (raw.val.reverse.dropWhile (· = 0)).reverse
    else return ""
  else return ""

/-- The next entries of a body, from `offset` on. -/
def epmEntries (body : List UInt8) (offset : Nat) : Nat → Comp (List EpmEndpoint)
  | 0 => return []
  | entries + 1 => do
    if body.length < (← add offset 4) then
      return []
    let uuidEnd ← add offset 16
    if body.length < uuidEnd then
      return []
    let objectUuid ← uuidBytesToString (← slice body offset uuidEnd)
    let pointerEnd ← add uuidEnd 4
    if body.length < pointerEnd then
      return []
    let textOff ← add pointerEnd 4
    if body.length < textOff then
      return []
    let annotationLen := (← u32At body pointerEnd true).toNat
    let annotation ← annotationAt body textOff annotationLen
    -- the offset advances even if the length overruns
    let towerOff ← align4 (← add textOff annotationLen)
    let towerData ← add towerOff 4
    if body.length < towerData then
      return []
    let towerLen := (← u32At body towerOff true).toNat
    let towerEnd ← add towerData towerLen
    if body.length < towerEnd then
      return []
    let tower ← slice body towerData towerEnd
    let next ← align4 towerEnd
    let found ← parseEpmTower tower
    let more ← epmEntries body next entries
    match found with
    | some endpoint => return { endpoint with objectUuid, annotation } :: more
    | none => return more

/-- The endpoints of a lookup response datagram; none unless it is a RESPONSE. -/
def parseEpmResponse (data : List UInt8) : Comp (List EpmEndpoint) := do
  if data.length < 80 then
    return []
  if (← index data 1) ≠ 0x02 then
    return []
  let bodyLen := (← u16At data 74 true).toNat
  let stop ← add 80 bodyLen
  let body ← slice data 80 (min stop data.length)
  if body.val.length < 12 then
    return []
  let numEnts ← u32At body 4 true
  -- entry handle, count and array metadata
  epmEntries body 20 numEnts.toNat

/-! ## They return for every datagram -/

theorem uuidBytesToString_safe {data : List UInt8} (hdata : data.length < 2 ^ 63) :
    Safe (uuidBytesToString data) := by
  refine .ite (fun _ => safe_ok _) fun hlen => ?_
  refine .slice (by omega) (by omega) fun _ _ => .u32At hdata (by omega) fun _ _ => ?_
  refine .u16At hdata (by omega) fun _ _ => .u16At hdata (by omega) fun _ _ => ?_
  exact .u16At hdata (by omega) fun _ _ => safe_ok _

theorem withFloor_safe (endpoint : EpmEndpoint) (floorIdx : Nat) {lhs rhs : List UInt8}
    (hlhs : lhs.length < 2 ^ 63) (hrhs : rhs.length < 2 ^ 63) :
    Safe (endpoint.withFloor floorIdx lhs rhs) := by
  refine .ite (fun hsome => .index (by omega) fun protocol => ?_) fun _ => safe_ok _
  refine .ite (fun huuid => ?_) fun _ => .ite (fun _ => safe_ok _) fun _ => ?_
  · refine .ite (fun _ => ?_) fun _ => safe_ok _
    have hlong := huuid.2
    refine .slice (by omega) (by omega) ?_
    intro uuid huuid
    refine (uuidBytesToString_safe (by omega)).bind ?_
    intro _ _
    refine .u16At hlhs (by omega) fun _ _ => .ite (fun hminor => ?_) fun _ => safe_ok _
    exact .u16At hrhs (by omega) fun _ _ => safe_ok _
  · refine .ite (fun hport => .u16At hrhs hport.2 fun _ _ => safe_ok _) fun _ => ?_
    refine .ite (fun hip => ?_) fun _ => safe_ok _
    have hlong := hip.2
    refine .index (by omega) fun _ => .index (by omega) fun _ => ?_
    exact .index (by omega) fun _ => .index (by omega) fun _ => safe_ok _

theorem epmFloors_safe {tower : List UInt8} (htower : tower.length < 2 ^ 63) (floors : Nat)
    (endpoint : EpmEndpoint) {offset : Nat} (hoff : offset ≤ tower.length) (floorIdx : Nat) :
    Safe (epmFloors tower endpoint offset floorIdx floors) := by
  induction floors generalizing endpoint offset floorIdx with
  | zero => exact safe_ok _
  | succ floors ih =>
    refine .add (by omega) fun head hhead => .ite (fun _ => safe_ok _) fun hfits => ?_
    refine .u16At htower (by omega) ?_
    intro lhsLen hlhsLen
    refine .add (by omega) fun lhsOff hlhsOff => .add (by omega) fun lhsEnd hlhsEnd => ?_
    refine .ite (fun _ => safe_ok _) fun hlhs => .slice (by omega) (by omega) fun lhs _ => ?_
    refine .add (by omega) fun rhsOff hrhsOff => .ite (fun _ => safe_ok _) fun hlen => ?_
    refine .u16At htower (by omega) ?_
    intro rhsLen hrhsLen
    refine .add (by omega) fun rhsEnd hrhsEnd => .ite (fun _ => safe_ok _) fun hrhs => ?_
    refine .slice (by omega) (by omega) ?_
    intro rhs _
    refine (withFloor_safe endpoint floorIdx (by omega) (by omega)).bind ?_
    intro endpoint' _
    exact ih endpoint' (by omega) (floorIdx + 1)

theorem parseEpmTower_safe {tower : List UInt8} (htower : tower.length < 2 ^ 63) :
    Safe (parseEpmTower tower) := by
  refine .ite (fun _ => safe_ok _) fun hlen => .u16At htower (by omega) fun _ _ => ?_
  refine (epmFloors_safe htower _ _ (by omega) 0).bind ?_
  intro _ _
  exact .ite (fun _ => safe_ok _) fun _ => safe_ok _

theorem annotationAt_safe {body : List UInt8} (hbody : body.length < 2 ^ 63) {offset : Nat}
    (hoff : offset ≤ body.length) {annotationLen : Nat} (hlen : annotationLen < 4294967296) :
    Safe (annotationAt body offset annotationLen) := by
  refine .ite (fun _ => .add (by omega) fun stop hstop => ?_) fun _ => safe_ok _
  refine .ite (fun hfits => ?_) fun _ => safe_ok _
  exact .slice (by omega) hfits fun _ _ => safe_ok _

/-- The offset of the next entry may lie behind the body, by what the alignment adds. -/
theorem epmEntries_safe {body : List UInt8} (hbody : body.length < 2 ^ 63) (entries : Nat)
    {offset : Nat} (hoff : offset ≤ body.length + 8) : Safe (epmEntries body offset entries) := by
  induction entries generalizing offset with
  | zero => exact safe_ok _
  | succ entries ih =>
    refine .add (by omega) fun head hhead => .ite (fun _ => safe_ok _) fun _ => ?_
    refine .add (by omega) fun uuidEnd huuidEnd => .ite (fun _ => safe_ok _) fun huuid => ?_
    refine .slice (by omega) (by omega) ?_
    intro uuid _
    refine (uuidBytesToString_safe (by omega)).bind ?_
    intro objectUuid _
    refine .add (by omega) fun pointerEnd _ => .ite (fun _ => safe_ok _) fun hpointer => ?_
    refine .add (by omega) fun textOff _ => .ite (fun _ => safe_ok _) fun htext => ?_
    refine .u32At hbody (by omega) ?_
    intro annotationLen hannotationLen
    refine (annotationAt_safe hbody (by omega) hannotationLen).bind ?_
    intro annotation _
    refine .add (by omega) fun textEnd _ => .align4 (by omega) fun towerOff _ => ?_
    refine .add (by omega) fun towerData _ => .ite (fun _ => safe_ok _) fun hdata => ?_
    refine .u32At hbody (by omega) ?_
    intro towerLen htowerLen
    refine .add (by omega) fun towerEnd _ => .ite (fun _ => safe_ok _) fun htower => ?_
    refine .slice (by omega) (by omega) fun tower _ => .align4 (by omega) fun next _ => ?_
    refine (parseEpmTower_safe (by omega)).bind ?_
    intro found _
    refine (ih (by omega)).bind ?_
    intro more _
    rcases found with _ | endpoint
    · exact safe_ok _
    · exact safe_ok _

theorem parseEpmResponse_safe {data : List UInt8} (hdata : data.length < 2 ^ 63) :
    Safe (parseEpmResponse data) := by
  refine .ite (fun _ => safe_ok _) fun hhead => .index (by omega) fun _ => ?_
  refine .ite (fun _ => safe_ok _) fun _ => .u16At hdata (by omega) fun bodyLen hbodyLen => ?_
  refine .add (by omega) fun stop hstop => .slice (by omega) (by omega) fun body hbody => ?_
  refine .ite (fun _ => safe_ok _) fun hlen => .u32At (by omega) (by omega) fun _ _ => ?_
  exact epmEntries_safe (by omega) _ (by omega)

end Profinet.Epm
