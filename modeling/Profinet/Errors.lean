/-
  ERRORS: what a PNIO status says in words.

  A device answers a refused request with four bytes: error code, error decode and two codes that
  `ErrorDecode` says how to read.  `fromCodes` turns them into a message with three tables, and
  `display` puts the raw codes behind it.  The tables list each pair once
  (`lookup_of_mem` over `messages_nodup`), so no message of theirs is shadowed by an earlier one.
-/
import Mathlib.Data.List.Nodup
import Mathlib.Data.Nat.Digits.Defs

namespace Profinet.Errors

/-- One upper-case hexadecimal digit. -/
def hexDigit (n : Nat) : Char := if n < 10 then Char.ofNat (48 + n) else Char.ofNat (55 + n)

/-- A number in upper-case hexadecimal, at least `width` digits: `0WX` in a format string. -/
def hex (width n : Nat) : String :=
  let digits := (Nat.digits 16 n).reverse.map hexDigit
  let digits := if digits.isEmpty then ['0'] else digits
  String.ofList (List.replicate (width - digits.length) '0' ++ digits)

/-- PNIO application error with its four codes (`PnioError`). -/
structure PnioError where
  message : String
  errorCode : UInt8
  errorDecode : UInt8
  errorCode1 : UInt8
  errorCode2 : UInt8
  deriving DecidableEq, Repr

/-! ## Codes -/

/-- ErrorDecode: connection management errors. -/
def decodePnioCm : UInt8 := 0x40
/-- ErrorDecode: read/write errors. -/
def decodePniorw : UInt8 := 0x80
/-- ErrorDecode: general PNIO errors. -/
def decodePnio : UInt8 := 0x81

/-- ErrorCode1 of a read/write error: invalid index. -/
def ec1InvalidIndex : UInt8 := 0xB0
/-- Write length error. -/
def ec1WriteLength : UInt8 := 0xB1
/-- Slot and subslot errors. -/
def ec1Resource : UInt8 := 0xB2
/-- Access errors. -/
def ec1Access : UInt8 := 0xB3
/-- API errors. -/
def ec1Application : UInt8 := 0xB4
/-- ErrorCode1 of a connection management error names a block: the AR. -/
def cmEc1Ar : UInt8 := 0x01
/-- The IOCR. -/
def cmEc1Iocr : UInt8 := 0x02
/-- The alarm CR. -/
def cmEc1AlarmCr : UInt8 := 0x03
/-- The expected submodules. -/
def cmEc1ExpectedSubmod : UInt8 := 0x04
/-- The response block of the AR. -/
def cmEc1ArRes : UInt8 := 0x81
/-- The response block of an IOCR. -/
def cmEc1IocrRes : UInt8 := 0x82
/-- The response block of the alarm CR. -/
def cmEc1AlarmCrRes : UInt8 := 0x83
/-- The parameter server. -/
def cmEc1PrmServer : UInt8 := 0x3D
/-- CMDEV, the device's connection management. -/
def cmEc1Cmdev : UInt8 := 0x3F
/-- RMPM, the remote peripheral manager. -/
def cmEc1Rmpm : UInt8 := 0x40
/-- A faulty block. -/
def cmEc1FaultyBlock : UInt8 := 0xFF

/-! ## Messages, keyed by (ErrorCode1, ErrorCode2) -/

/-- Messages for PNIORW (ErrorDecode=0x80). -/
def pniorwErrorMessages : List ((UInt8 × UInt8) × String) :=
  [((ec1InvalidIndex, 0x00), "Index not supported"),
   ((ec1InvalidIndex, 0x05), "Index exists but not written"),
   ((ec1WriteLength, 0x00), "Write length error"),
   ((ec1WriteLength, 0x01), "Write data too short"),
   ((ec1WriteLength, 0x02), "Write data too long"),
   ((ec1WriteLength, 0x03), "Write access denied (write protected)"),
   ((ec1Resource, 0x00), "Resource not available"),
   ((ec1Resource, 0x07), "Invalid slot number"),
   ((ec1Resource, 0x08), "Invalid subslot number"),
   ((ec1Resource, 0x09), "Module has no data"),
   ((ec1Access, 0x00), "Access denied (invalid area)"),
   ((ec1Access, 0x03), "Access denied"),
   ((ec1Access, 0x04), "Access denied (invalid range)"),
   ((ec1Access, 0x05), "Access denied (invalid state for access)"),
   ((ec1Access, 0x06), "Access denied (local control)"),
   ((ec1Application, 0x00), "Read error"),
   ((ec1Application, 0x01), "Write error"),
   ((ec1Application, 0x02), "Module failure"),
   ((ec1Application, 0x04), "Resource busy"),
   ((ec1Application, 0x05), "Version conflict"),
   ((ec1Application, 0x06), "Invalid API number"),
   ((ec1Application, 0x07), "Backup not allowed"),
   ((ec1Application, 0x08), "Alarm pending")]

/-- Messages for PNIO (ErrorDecode=0x81), with those of the remote protocol machine. -/
def pnioErrorMessages : List ((UInt8 × UInt8) × String) :=
  [((cmEc1Rmpm, 0x00), "Invalid arguments length"),
   ((cmEc1Rmpm, 0x01), "Unknown blocks in request"),
   ((cmEc1Rmpm, 0x02), "Required IOCR block missing"),
   ((cmEc1Rmpm, 0x03), "Wrong AlarmCR block count"),
   ((cmEc1Rmpm, 0x04), "Out of AR resources"),
   ((cmEc1Rmpm, 0x05), "AR UUID unknown"),
   ((cmEc1Rmpm, 0x06), "State conflict"),
   ((cmEc1Rmpm, 0x07), "Out of provider, consumer or alarm resources"),
   ((cmEc1Rmpm, 0x08), "Out of memory"),
   ((cmEc1Rmpm, 0x09), "Physical device already owned by another AR"),
   ((cmEc1Rmpm, 0x0A), "AR set state conflict during connect"),
   ((cmEc1Rmpm, 0x0B), "AR set parameter conflict during connect"),
   ((cmEc1Rmpm, 0xFF), "Unspecific RMPM error"),
   ((cmEc1PrmServer, 0x00), "Parameter server state conflict")]

/-- Messages for PNIO-CM (ErrorDecode=0x40). -/
def pniocmErrorMessages : List ((UInt8 × UInt8) × String) :=
  [((cmEc1Ar, 0x00), "Invalid AR type"),
   ((cmEc1Ar, 0x01), "AR already active"),
   ((cmEc1Ar, 0x02), "Out of AR resources"),
   ((cmEc1Ar, 0x03), "Out of provider resources"),
   ((cmEc1Ar, 0x04), "Out of consumer resources"),
   ((cmEc1Ar, 0x05), "Out of alarm resources"),
   ((cmEc1Ar, 0x06), "Out of memory"),
   ((cmEc1Ar, 0x07), "Invalid session key"),
   ((cmEc1Ar, 0x08), "AR UUID conflict"),
   ((cmEc1ArRes, 0x00), "Invalid AR type (in response)"),
   ((cmEc1ArRes, 0x01), "AR already active"),
   ((cmEc1ArRes, 0x02), "Out of AR resources"),
   ((cmEc1ArRes, 0x03), "Out of provider resources"),
   ((cmEc1ArRes, 0x04), "Out of consumer resources"),
   ((cmEc1ArRes, 0x05), "Out of alarm resources"),
   ((cmEc1ArRes, 0x06), "Out of memory"),
   ((cmEc1ArRes, 0x07), "Invalid session key"),
   ((cmEc1ArRes, 0x08), "AR UUID conflict"),
   ((cmEc1Iocr, 0x00), "Invalid IOCR type"),
   ((cmEc1Iocr, 0x01), "Out of IOCR resources"),
   ((cmEc1Iocr, 0x02), "Invalid frame ID"),
   ((cmEc1Iocr, 0x03), "Invalid RT class"),
   ((cmEc1Iocr, 0x04), "Invalid IO data length"),
   ((cmEc1Iocr, 0x05), "Cycle time conflict"),
   ((cmEc1Iocr, 0x06), "Watchdog configuration error"),
   ((cmEc1IocrRes, 0x00), "Invalid IOCR type (in response)"),
   ((cmEc1IocrRes, 0x01), "Out of IOCR resources"),
   ((cmEc1IocrRes, 0x02), "Invalid frame ID"),
   ((cmEc1IocrRes, 0x03), "Invalid RT class"),
   ((cmEc1IocrRes, 0x04), "Invalid IO data length"),
   ((cmEc1IocrRes, 0x05), "Cycle time conflict"),
   ((cmEc1IocrRes, 0x06), "Watchdog configuration error"),
   ((cmEc1AlarmCr, 0x00), "Invalid AlarmCR type"),
   ((cmEc1AlarmCr, 0x01), "Out of AlarmCR resources"),
   ((cmEc1AlarmCrRes, 0x00), "Invalid AlarmCR type (in response)"),
   ((cmEc1AlarmCrRes, 0x01), "Out of AlarmCR resources"),
   ((cmEc1ExpectedSubmod, 0x00), "Invalid slot in ExpectedSubmodule"),
   ((cmEc1ExpectedSubmod, 0x01), "Invalid subslot in ExpectedSubmodule"),
   ((cmEc1ExpectedSubmod, 0x02), "Wrong module ident number"),
   ((cmEc1ExpectedSubmod, 0x03), "Wrong submodule ident number"),
   ((cmEc1ExpectedSubmod, 0x04), "IO data length mismatch"),
   ((cmEc1Cmdev, 0x00), "Device state conflict (AR may be active)"),
   ((cmEc1Cmdev, 0x01), "Connect resource unavailable"),
   ((cmEc1Cmdev, 0x02), "Device already owned by another controller"),
   ((cmEc1Cmdev, 0x03), "AR set aborted"),
   ((cmEc1FaultyBlock, 0x00), "Faulty block structure")]

/-- Block type names for PNIO-CM. -/
def cmBlockNames : List (UInt8 × String) :=
  [(0x01, "ARBlockReq"),
   (0x02, "IOCRBlockReq"),
   (0x03, "AlarmCRBlockReq"),
   (0x04, "ExpectedSubmoduleBlockReq"),
   (0x05, "ModuleDiffBlock"),
   (0x06, "ARRPCBlock"),
   (0x07, "IRInfoBlock"),
   (0x08, "SRInfoBlock"),
   (0x09, "ARFSUBlock"),
   (0x10, "IODControlReq"),
   (0x11, "IODControlRes"),
   (0x81, "ARBlockRes"),
   (0x82, "IOCRBlockRes"),
   (0x83, "AlarmCRBlockRes"),
   (0x84, "ModuleDiffBlockRes"),
   (0x85, "ARServerBlockRes"),
   (0x3D, "PrmServer"),
   (0x3E, "CMCTL"),
   (0x3F, "CMDEV"),
   (0x40, "CMRPC"),
   (0xFD, "FaultyRecord"),
   (0xFE, "FaultyAR"),
   (0xFF, "FaultyBlock")]

/-! ## From codes to words -/

variable {κ : Type} [DecidableEq κ]

/-- `lookup` and `cm_block_name`: the first entry of a key. -/
def lookup (table : List (κ × String)) (key : κ) : Option String :=
  (table.find? fun e => e.1 = key).map Prod.snd

/-- The name of the block that a CM error is about. -/
def cmBlockName (errorCode1 : UInt8) : Option String := lookup cmBlockNames errorCode1

/-- The message of four codes (`from_codes`). -/
def fromCodes (errorCode errorDecode errorCode1 errorCode2 : UInt8) : PnioError :=
  let key := (errorCode1, errorCode2)
  let msg :=
    if errorDecode = decodePnioCm then
      match lookup pniocmErrorMessages key with
      | some m => m
      | none =>
        let blockName := (cmBlockName errorCode1).getD ("block 0x" ++ hex 2 errorCode1.toNat)
        "Unknown CM error in " ++ blockName
    else if errorDecode = decodePnio then
      match lookup pnioErrorMessages key with
      | some m => m
      | none => (lookup pniorwErrorMessages key).getD "Unknown PNIO error"
    else if errorDecode = decodePniorw then
      (lookup pniorwErrorMessages key).getD "Unknown PNIORW error"
    else "Unknown error (Decode=0x" ++ hex 2 errorDecode.toNat ++ ")"
  ⟨msg, errorCode, errorDecode, errorCode1, errorCode2⟩

/-- `from_bytes`. -/
def fromBytes : List UInt8 → PnioError
  | a :: b :: c :: d :: _ => fromCodes a b c d
  | _ => ⟨"Incomplete error data", 0, 0, 0, 0⟩

/-- The error comes from the connection management, and not from a record. -/
def PnioError.isCmError (e : PnioError) : Bool := e.errorDecode = decodePnioCm

/-- The block of a CM error, by name or by number. -/
def PnioError.blockName (e : PnioError) : String :=
  if e.isCmError then
    (cmBlockName e.errorCode1).getD ("Unknown(0x" ++ hex 2 e.errorCode1.toNat ++ ")")
  else ""

/-- The `Display` of an error: its message, then the codes. -/
def PnioError.display (e : PnioError) : String :=
  if e.isCmError then
    e.message ++ " [CM:" ++ e.blockName ++ ", EC2=0x" ++ hex 2 e.errorCode2.toNat ++ "]"
  else
    e.message ++ " [ErrorCode1=0x" ++ hex 2 e.errorCode1.toNat ++ ", ErrorCode2=0x"
      ++ hex 2 e.errorCode2.toNat ++ "]"

/-! ## The tables -/

/-- An entry whose key is listed once is the one found. -/
theorem lookup_of_mem {table : List (κ × String)} (hkeys : (table.map Prod.fst).Nodup)
    {e : κ × String} (he : e ∈ table) : lookup table e.1 = some e.2 := by
  induction table with
  | nil => nomatch he
  | cons c table ih =>
    rw [List.map_cons, List.nodup_cons] at hkeys
    rcases List.mem_cons.mp he with rfl | he
    · simp only [lookup, List.find?_cons, decide_true, Option.map_some]
    · have hne : c.1 ≠ e.1 := by
        intro heq
        exact hkeys.1 (heq ▸ List.mem_map_of_mem he)
      simp only [lookup, List.find?_cons, decide_eq_false hne]
      exact ih hkeys.2 he

/-- No key is listed twice in a message table, nor a block in the block names. -/
theorem messages_nodup :
    (pniorwErrorMessages.map Prod.fst).Nodup ∧ (pnioErrorMessages.map Prod.fst).Nodup
      ∧ (pniocmErrorMessages.map Prod.fst).Nodup ∧ (cmBlockNames.map Prod.fst).Nodup := by
  refine ⟨?_, ?_, ?_, ?_⟩ <;> decide

/-- **Every connection management message is said**: the codes it is listed under yield it. -/
theorem fromCodes_cm {e : (UInt8 × UInt8) × String} (he : e ∈ pniocmErrorMessages) (code : UInt8) :
    (fromCodes code decodePnioCm e.1.1 e.1.2).message = e.2 := by
  have hfound := lookup_of_mem messages_nodup.2.2.1 he
  show (match lookup pniocmErrorMessages (e.1.1, e.1.2) with
    | some m => m
    | none => _) = e.2
  rw [hfound]

/-- **Every read/write message is said.** -/
theorem fromCodes_rw {e : (UInt8 × UInt8) × String} (he : e ∈ pniorwErrorMessages) (code : UInt8) :
    (fromCodes code decodePniorw e.1.1 e.1.2).message = e.2 := by
  have hfound := lookup_of_mem messages_nodup.1 he
  show (lookup pniorwErrorMessages (e.1.1, e.1.2)).getD _ = e.2
  rw [hfound]
  rfl

end Profinet.Errors
