/-
  EPM LAYOUT: lookup responses as they are laid out, and the endpoints they describe.

      datagram   80-byte header (type RESPONSE, body length at 74)  body
      body       entry handle (4)  count (4)  array metadata (12)  entries
      entry      object UUID (16)  tower pointer (4)
                 length (4), annotation  up to a multiple of four
                 length (4), tower       up to a multiple of four
      tower      count (2)  floors
      floor      length (2), left-hand side  length (2), right-hand side

  Counts and lengths are little-endian; the port of a floor is big-endian.  The first floor of a
  tower names the interface.  Of the others, one may give the UDP port and one the IPv4 address; the
  rest are of any kind, shape and number.
-/
import Profinet.EpmUuid
import Profinet.Lib.LastWrite
import Profinet.Lib.Utf8Text

namespace Profinet.Epm

open Wire Checked Utf8 LastWrite

/-- Bytes with their length in front, in two bytes. -/
def counted16 (bs : List UInt8) : List UInt8 := wrU16 (UInt16.ofNat bs.length) true ++ bs

/-- Bytes with their length in front, in four bytes, filled up to a multiple of four with as many
    bytes of `fill` as it takes. -/
def counted32 (fill : Bytes 3) (bs : List UInt8) : List UInt8 :=
  wrU32 (UInt32.ofNat bs.length) true ++
    (bs ++ fill.val.take ((bs.length + 3) / 4 * 4 - bs.length))

/-- A count of two bytes, and what is counted. -/
@[simp] theorem counted16_length (bs : List UInt8) : (counted16 bs).length = 2 + bs.length := by
  rw [counted16, List.length_append, wrU16_length]

/-- A count of four bytes, and what is counted, filled up to a multiple of four. -/
@[simp] theorem counted32_length (fill : Bytes 3) (bs : List UInt8) :
    (counted32 fill bs).length = 4 + (bs.length + 3) / 4 * 4 := by
  rw [counted32, List.length_append, List.length_append, wrU32_length, List.length_take,
    fill.property]
  omega

/-! ## Floors -/

/-- A floor behind the first; `more` and `rest` are what follows the bytes that are read. -/
inductive Floor where
  | udpPort (port : UInt16) (more rest : List UInt8)
  | ipv4 (a b c d : UInt8) (more rest : List UInt8)
  | other (lhs rhs : List UInt8) (noPort : ¬ (lhs.head? = some 0x08 ∧ 2 ≤ rhs.length))
      (noAddress : ¬ (lhs.head? = some 0x09 ∧ 4 ≤ rhs.length))

namespace Floor

/-- The protocol identifier of a floor, and what may be behind it. -/
def lhs : Floor → List UInt8
  | udpPort _ more _ => 0x08 :: more
  | ipv4 _ _ _ _ more _ => 0x09 :: more
  | other lhs _ _ _ => lhs

/-- The data of a floor: the port and the address stand at its front. -/
def rhs : Floor → List UInt8
  | udpPort port _ rest => be16 port ++ rest
  | ipv4 a b c d _ rest => [a, b, c, d] ++ rest
  | other _ rhs _ _ => rhs

/-- The two halves of a floor, each behind its count. -/
def encode (f : Floor) : List UInt8 := counted16 f.lhs ++ counted16 f.rhs

/-- The floor that names a UDP port. -/
def isPort : Floor → Bool
  | udpPort .. => true
  | _ => false

/-- The floor that names an IPv4 address. -/
def isIpv4 : Floor → Bool
  | ipv4 .. => true
  | _ => false

/-- RPC connectionless. -/
def isRpc (f : Floor) : Bool := f.lhs.head? = some 0x0A

/-- The port of a floor, zero in every other. -/
def port : Floor → UInt16
  | udpPort port _ _ => port
  | _ => 0

/-- The address of a floor as text, empty in every other. -/
def address : Floor → String
  | ipv4 a b c d _ _ =>
    toString a.toNat ++ "." ++ toString b.toNat ++ "." ++ toString c.toNat ++ "."
      ++ toString d.toNat
  | _ => ""

end Floor

/-! ## Towers -/

/-- A tower; `more` and `rest` are what follows the interface and its version in the first floor. -/
structure Tower where
  interface : Uuid
  versionMajor : UInt16
  versionMinor : UInt16
  more : List UInt8
  rest : List UInt8
  floors : List Floor
  onePort : AtMostOne Floor.isPort floors
  oneAddress : AtMostOne Floor.isIpv4 floors

namespace Tower

/-- The first floor names the interface and its major version. -/
def interfaceLhs (t : Tower) : List UInt8 :=
  0x0D :: (t.interface.encode ++ (wrU16 t.versionMajor true ++ t.more))

/-- The other half of the first floor has the minor version. -/
def interfaceRhs (t : Tower) : List UInt8 := wrU16 t.versionMinor true ++ t.rest

/-- A tower: the count of its floors, the interface, and the floors behind it. -/
def encode (t : Tower) : List UInt8 :=
  wrU16 (UInt16.ofNat (t.floors.length + 1)) true ++
    (counted16 t.interfaceLhs ++ counted16 t.interfaceRhs ++ t.floors.flatMap Floor.encode)

/-- The endpoint without what stands beside the tower. -/
def endpoint (t : Tower) : EpmEndpoint where
  interfaceUuid := t.interface.text
  interfaceVersionMajor := t.versionMajor
  interfaceVersionMinor := t.versionMinor
  objectUuid := ""
  protocol := if t.floors.any Floor.isRpc then "ncadg_ip_udp" else ""
  port := ((t.floors.find? Floor.isPort).map Floor.port).getD 0
  address := ((t.floors.find? Floor.isIpv4).map Floor.address).getD ""
  annotation := ""

end Tower

/-! ## Responses -/

/-- One entry of a lookup response: an object, its annotation and its tower. -/
structure EpmEntry where
  objectUuid : Uuid
  towerPointer : Bytes 4
  annotation : List Char
  annotationFill : Bytes 3
  tower : Tower
  towerFill : Bytes 3

namespace EpmEntry

/-- The bytes of an entry, both variable parts filled up. -/
def encode (e : EpmEntry) : List UInt8 :=
  e.objectUuid.encode ++ e.towerPointer.val ++
    (counted32 e.annotationFill (utf8 e.annotation) ++ counted32 e.towerFill e.tower.encode)

/-- The annotation without its trailing NULs. -/
def text (e : EpmEntry) : String := String.ofList (e.annotation.rdropWhile (· = Char.ofNat 0))

/-- What is reported of an entry. -/
def endpoint (e : EpmEntry) : EpmEndpoint :=
  { e.tower.endpoint with objectUuid := e.objectUuid.text, annotation := e.text }

end EpmEntry

/-- A body: whatever may stand behind the entries is `tail`. -/
structure EpmBody where
  entryHandle : Bytes 4
  arrayMetadata : Bytes 12
  entries : List EpmEntry
  tail : List UInt8

/-- The body of a response: a handle, the counts of the array, and the entries. -/
def EpmBody.encode (b : EpmBody) : List UInt8 :=
  b.entryHandle.val ++ wrU32 (UInt32.ofNat b.entries.length) true ++ b.arrayMetadata.val ++
    (b.entries.flatMap EpmEntry.encode ++ b.tail)

/-- A response whose body is as long as its header says. -/
structure EpmResponse where
  version : UInt8
  header : Bytes 72
  header' : Bytes 4
  body : EpmBody
  fits : body.encode.length < 65536

/-- A whole response packet, in little endian as its header says. -/
def EpmResponse.encode (r : EpmResponse) : List UInt8 :=
  [r.version, 0x02] ++ r.header.val ++ wrU16 (UInt16.ofNat r.body.encode.length) true ++
    r.header'.val ++ r.body.encode

/-! ## Lengths -/

/-- A floor is its two counts and its two halves. -/
@[simp] theorem Floor.encode_length (f : Floor) :
    f.encode.length = 4 + f.lhs.length + f.rhs.length := by
  rw [Floor.encode, List.length_append, counted16_length, counted16_length]
  omega

/-- Every floor has its two lengths. -/
theorem floors_length_le (floors : List Floor) :
    4 * floors.length ≤ (floors.flatMap Floor.encode).length := by
  induction floors with
  | nil => exact Nat.le_refl 0
  | cons f floors ih =>
    rw [List.flatMap_cons, List.length_append, List.length_cons, Floor.encode_length]
    omega

/-- The size of an entry depends on the rounded sizes of its two variable parts. -/
theorem EpmEntry.encode_length (e : EpmEntry) :
    e.encode.length = 28 + ((utf8 e.annotation).length + 3) / 4 * 4 +
      (e.tower.encode.length + 3) / 4 * 4 := by
  rw [EpmEntry.encode, List.length_append, List.length_append, List.length_append,
    Uuid.encode_length, e.towerPointer.property, counted32_length, counted32_length]
  omega

end Profinet.Epm
