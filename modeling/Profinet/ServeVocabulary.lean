/-
  SERVE VOCABULARY: one line of stdin as a command.

  A line is a JSON object, but nothing parses it as one: a field is the text behind the first
  `"key"` of the line, and a value ends where it has to.  That is enough for the fixed vocabulary:

      acyclic requests     read  write  ping  quit     with an id, each answered with it
      control commands     set_level  pulse  keepalive  quit     without one

  Texts are lists of characters.  Decoding the hex digits of a `write` slices its text two bytes at
  a time, and may abort the thread.
-/
import Profinet.Control
import Profinet.Lib.Str
import Profinet.Lib.Text

namespace Profinet

open Checked Text

/-! ## Hex -/

/-- Why a line is refused; the source prints the text it could not read, and the bounds. -/
inductive ServeError where
  | oddLengthHex (s : List Char)
  | invalidHex (s : List Char)
  | missing (key : List Char)
  | needs (cmd key : List Char)
  | unknownCmd (cmd : List Char)
  deriving DecidableEq, Repr

/-- A text without its white space. -/
def cleaned (s : List Char) : List Char := s.filter fun c => !isWhitespace c

/-- The bytes whose two digits begin at these offsets; `s` is the text as it was given. -/
def hexBytes (s text : List Char) : List Nat → Comp (Except ServeError (List UInt8))
  | [] => .ok (.ok [])
  | i :: offsets =>
    match Str.slice text i (i + 2) with
    | .error p => .error p
    | .ok pair =>
      match parseUint 256 16 pair with
      | .error _ => .ok (.error (.invalidHex s))
      | .ok b =>
        match hexBytes s text offsets with
        | .error p => .error p
        | .ok (.error e) => .ok (.error e)
        | .ok (.ok bs) => .ok (.ok (UInt8.ofNat b :: bs))

/-- Decode a hex string, ignoring spaces. -/
def parseHex (s : List Char) : Comp (Except ServeError (List UInt8)) :=
  let text := cleaned s
  if Str.byteLen text % 2 ≠ 0 then .ok (.error (.oddLengthHex s))
  else hexBytes s text (List.range' 0 ((Str.byteLen text + 1) / 2) 2)

/-! ## Fields -/

/-- A text in quotes. -/
def quote (s : List Char) : List Char := '"' :: s ++ ['"']

/-- `trim_start`. -/
def trimStart (s : List Char) : List Char := s.dropWhile isWhitespace

/-- `strip_prefix` of one character. -/
def stripChar (c : Char) : List Char → Option (List Char)
  | d :: s => if d = c then some s else none
  | [] => none

/-- Locate the raw value after `"key":` in a one-line JSON object. -/
def jsonFieldRaw (line key : List Char) : Option (List Char) :=
  match splitOnce (quote key) line with
  | none => none
  | some (_, rest) => (stripChar ':' (trimStart rest)).map trimStart

/-- The text before the first quote, if there is one. -/
def untilQuote (s : List Char) : Option (List Char) :=
  (splitOnce ['"'] s).map Prod.fst

/-- Extract a JSON string field value. -/
def jsonFieldStr (line key : List Char) : Option (List Char) :=
  ((jsonFieldRaw line key).bind (stripChar '"')).bind untilQuote

/-- Extract a JSON boolean field value. -/
def jsonFieldBool (line key : List Char) : Option Bool :=
  match jsonFieldRaw line key with
  | none => none
  | some rest =>
    if "true".toList.isPrefixOf rest then some true
    else if "false".toList.isPrefixOf rest then some false
    else none

/-- `is_ascii_alphanumeric`. -/
def isAsciiAlphanumeric (c : Char) : Bool :=
  let n := c.toNat
  (48 ≤ n && n ≤ 57) || (65 ≤ n && n ≤ 90) || (97 ≤ n && n ≤ 122)

/-- A number in decimal, or behind `0x` in hexadecimal. -/
def parseMaybeHex (bound : Nat) (token : List Char) : Option Nat :=
  match token with
  | '0' :: 'x' :: hex => (parseUint bound 16 hex).toOption
  | '0' :: 'X' :: hex => (parseUint bound 16 hex).toOption
  | _ => (parseUint bound 10 token).toOption

/-- Parse an unsigned integer field below a bound, decimal or `0x`-prefixed hex, quoted or not: the
    value ends at the first character that cannot be part of such a literal. -/
def jsonFieldUint (bound : Nat) (line key : List Char) : Option Nat :=
  match jsonFieldRaw line key with
  | none => none
  | some raw =>
    let rest := trimStart raw
    let rest := (stripChar '"' rest).getD rest
    parseMaybeHex bound (rest.takeWhile isAsciiAlphanumeric)

/-- `json_field_u64`. -/
def jsonFieldU64 (line key : List Char) : Option UInt64 :=
  (jsonFieldUint (2 ^ 64) line key).map UInt64.ofNat

/-- `json_field_u8`. -/
def jsonFieldU8 (line key : List Char) : Option UInt8 :=
  (jsonFieldUint (2 ^ 8) line key).map UInt8.ofNat

/-! ## Acyclic requests -/

/-- One parsed request from the caller. -/
inductive ServeCmd where
  | read (id : UInt64) (index slot subslot : UInt16) (len : UInt32)
  | write (id : UInt64) (index slot subslot : UInt16) (data : List UInt8)
  | ping (id : UInt64)
  | quit (id : UInt64)
  deriving DecidableEq, Repr

/-- The id of a command. -/
def ServeCmd.id : ServeCmd → UInt64
  | .read id .. | .write id .. | .ping id | .quit id => id

/-- A field that must fit sixteen bits (`field_u16`). -/
def fieldU16 (line cmd key : List Char) : Except ServeError UInt16 :=
  match (jsonFieldU64 line key).filter (·.toNat < 2 ^ 16) with
  | some v => .ok v.toUInt16
  | none => .error (.needs cmd key)

/-- The `len` field of `read`: below 2^32. -/
def fieldLen (line : List Char) : Except ServeError UInt32 :=
  match (jsonFieldU64 line "len".toList).filter (·.toNat < 2 ^ 32) with
  | some v => .ok v.toUInt32
  | none => .error (.needs "read".toList "len".toList)

/-- The three fields that say which record is meant. -/
def fieldRecord (line cmd : List Char) : Except ServeError (UInt16 × UInt16 × UInt16) := do
  let index ← fieldU16 line cmd "index".toList
  let slot ← fieldU16 line cmd "slot".toList
  let subslot ← fieldU16 line cmd "subslot".toList
  return (index, slot, subslot)

/-- The fields of `read`. -/
def parseRead (line : List Char) (id : UInt64) : Except ServeError ServeCmd := do
  let (index, slot, subslot) ← fieldRecord line "read".toList
  let len ← fieldLen line
  return .read id index slot subslot len

/-- The fields of `write`. -/
def parseWrite (line : List Char) (id : UInt64) : Comp (Except ServeError ServeCmd) :=
  match jsonFieldStr line "hex".toList with
  | none => .ok (.error (.needs "write".toList "hex".toList))
  | some hex =>
    match fieldRecord line "write".toList with
    | .error e => .ok (.error e)
    | .ok (index, slot, subslot) =>
      match parseHex hex with
      | .error p => .error p
      | .ok (.error e) => .ok (.error e)
      | .ok (.ok data) => .ok (.ok (.write id index slot subslot data))

/-- Parse one request line. -/
def parseServeCmd (line : List Char) : Comp (Except ServeError ServeCmd) :=
  match jsonFieldU64 line "id".toList, jsonFieldStr line "cmd".toList with
  | none, _ => .ok (.error (.missing "id".toList))
  | some _, none => .ok (.error (.missing "cmd".toList))
  | some id, some cmd =>
    if cmd = "read".toList then .ok (parseRead line id)
    else if cmd = "write".toList then parseWrite line id
    else if cmd = "ping".toList then .ok (.ok (.ping id))
    else if cmd = "quit".toList then .ok (.ok (.quit id))
    else .ok (.error (.unknownCmd cmd))

/-! ## Control commands -/

/-- The mask of a command (`"mask":<byte>`). -/
def fieldMask (line cmd : List Char) : Except ServeError UInt8 :=
  match jsonFieldU8 line "mask".toList with
  | some mask => .ok mask
  | none => .error (.needs cmd "mask".toList)

/-- The fields of `set_level`. -/
def parseSetLevel (line : List Char) : Except ServeError ControlCmd := do
  let mask ← fieldMask line "set_level".toList
  match jsonFieldBool line "on".toList with
  | some on => return .setLevel mask on
  | none => .error (.needs "set_level".toList "on".toList)

/-- Parse one NDJSON stdin line into a command. -/
def parseControlCmd (line : List Char) : Except ServeError ControlCmd :=
  match jsonFieldStr line "cmd".toList with
  | none => .error (.missing "cmd".toList)
  | some cmd =>
    if cmd = "set_level".toList then parseSetLevel line
    else if cmd = "pulse".toList then (fieldMask line "pulse".toList).map .pulse
    else if cmd = "keepalive".toList then .ok .keepalive
    else if cmd = "quit".toList then .ok .quit
    else .error (.unknownCmd cmd)

/-! ## Lines -/

/-- One stdin line, in either of the two vocabularies `serve` accepts. -/
inductive ServeLine where
  | rpc (cmd : ServeCmd)
  | control (cmd : ControlCmd)
  deriving DecidableEq, Repr

/-- The id decides which `quit` it is: with one, the caller expects the response that carries it
    back. -/
def parseServeLine (line : List Char) : Comp (Except ServeError ServeLine) :=
  let cmd := jsonFieldStr line "cmd".toList
  if cmd = some "quit".toList ∧ jsonFieldU64 line "id".toList = none then .ok (.ok (.control .quit))
  else if cmd = some "set_level".toList ∨ cmd = some "pulse".toList ∨
      cmd = some "keepalive".toList then
    .ok ((parseControlCmd line).map .control)
  else
    match parseServeCmd line with
    | .error p => .error p
    | .ok r => .ok (r.map .rpc)

end Profinet
