/-
  DCP COMMANDS: naming, addressing, signalling and resetting a station.

  A command builds one SET request, sends it, and waits for the answer; whatever else arrives in
  the window is skipped: its own request, frames for others, answers to others.

      dcp_set_roundtrip   the exchange
      report_set          the answer as text and exit code, or as a result line
      perform             a command as `main` runs it

  The wait is `Await.wait` for the first frame that is an answer (`answerFrom_awaited`).  A command
  reports success exactly if that frame says so, and what it sent reads as what was asked for
  (`set_commands_confirmed`).
-/
import Profinet.Address
import Profinet.DcpRequests
import Profinet.Lib.Await
import Profinet.Lib.Walk

namespace Profinet.Dcp

open Wire Checked Util Utf8 Await

/-! ## The exchange

  One SET request and the wait for its answer, with the timeout's text as the outcome where none
  comes. -/

/-- What became of a SET request once it was on the wire. -/
inductive SetAnswer where
  | done
  /-- a block error code, or a response that rejects the service as a whole -/
  | refused (code : Option UInt8) (text : String)
  | timeout
  deriving DecidableEq, Repr

/-- The text of the error that a device reports for a block. -/
def blockErrorName (code : UInt8) : String :=
  if code = 0x00 then "OK"
  else if code = 0x01 then "Option not supported"
  else if code = 0x02 then "Suboption not supported or no dataset available"
  else if code = 0x03 then "Suboption not set"
  else if code = 0x04 then "Resource error"
  else if code = 0x05 then "SET not possible by local reasons"
  else if code = 0x06 then "In operation, SET not possible"
  else "Unknown error (0x" ++ Errors.hex 2 code.toNat ++ ")"

/-- A block error as an answer. -/
def setCodeAnswer (code : UInt8) : SetAnswer :=
  if code = dcpBlockErrorOk then .done else .refused (some code) (blockErrorName code)

/-- What one call of `recv` gives before the deadline. -/
abbrev Heard := Receipt Slice String

/-- The socket of one exchange, as it will behave. -/
structure DcpSocket where
  opened : Except String Unit
  send : List UInt8 → Except String Unit
  /-- what is heard, up to the deadline -/
  received : List Heard

/-- The frames until one that is addressed to us says something. -/
def answerFrom {ρ : Type} (myMac : Mac) (judge : List UInt8 → Comp (Option ρ)) (timeout : ρ) :
    List Heard → Comp (Except String ρ)
  | [] => return .ok timeout
  | .expired :: _ => return .ok timeout
  | .failed e :: _ => return .error e
  | .item frame :: received => do
    if frame.val.length < 14 then
      answerFrom myMac judge timeout received
    else if (← slice frame.val 0 6).val ≠ myMac.val then
      answerFrom myMac judge timeout received
    else
      match ← judge frame.val with
      | some answer => return .ok answer
      | none => answerFrom myMac judge timeout received

/-- A parsed frame as the answer to a SET: nothing if it is none of ours. -/
def setParsed : Except String (Option UInt8) → Option SetAnswer
  | .ok (some code) => some (setCodeAnswer code)
  | .ok none => none
  | .error text => some (.refused none text)

/-- What a frame says of a Set request: the result of our transaction, or nothing. -/
def setJudge (xid : UInt32) (frame : List UInt8) : Comp (Option SetAnswer) := do
  return setParsed (← parseSetResponse frame xid)

/-- An exchange: the request, if it went out, and what became of it. -/
structure Exchange where
  sent : Option (List UInt8)
  answer : Except String SetAnswer

/-- Send a request and wait for its answer (`dcp_set_roundtrip`). -/
def dcpSetRoundtrip (socket : DcpSocket) (myMac : Mac) (request : List UInt8) : Comp Exchange := do
  match ← parseDcpXid request with
  | none => return ⟨none, .error "malformed DCP request"⟩
  | some xid =>
    match socket.opened with
    | .error e => return ⟨none, .error e⟩
    | .ok () =>
      match socket.send request with
      | .error e => return ⟨none, .error e⟩
      | .ok () => return ⟨some request, ← answerFrom myMac (setJudge xid) .timeout socket.received⟩

/-! ## Reports

  The answer as it is reported: a line of text and an exit code, or one JSON object. -/

/-- What was done, as the result line names it. -/
inductive DcpAction where
  | setName
  | setIp
  | signal
  | reset
  /-- the legacy Control/FactoryReset -/
  | factoryReset
  deriving DecidableEq, Repr

/-- The result line of a command. -/
structure DcpResult where
  action : DcpAction
  mac : String
  ok : Bool
  error : Option String
  dcpError : Option UInt8
  detail : Option String
  deriving DecidableEq, Repr

/-- The line of a result: the action, the address and how it went. -/
def resultLine (action : DcpAction) (mac : Mac) (answer : SetAnswer) : DcpResult :=
  let (error, dcpError, detail) : Option String × Option UInt8 × Option String :=
    match answer with
    | .done => (none, none, none)
    | .refused code text => (some "refused", code, some text)
    | .timeout => (some "timeout", none, none)
  { action, mac := mac2s mac, ok := answer = .done, error, dcpError, detail }

/-- What is printed: the result, or a text. -/
inductive Line where
  | text (s : String)
  | result (r : DcpResult)
  deriving DecidableEq, Repr

/-- Why a command ends without an answer. -/
inductive CmdError where
  | address (e : AddressError)
  | text (s : String)
  deriving DecidableEq, Repr

/-- What a command sent, printed and returned. -/
structure CmdOutcome where
  sent : Option (List UInt8)
  printed : List Line
  code : Except CmdError Int

/-- The answer as lines and exit code. -/
def reportSet (json : Bool) (action : DcpAction) (mac : Mac) (answer : SetAnswer)
    (done failed : String) : List Line × Except CmdError Int :=
  if json then ([.result (resultLine action mac answer)], .ok 0)
  else
    match answer with
    | .done => ([.text done], .ok 0)
    | .refused _ text => ([], .error (.text (failed ++ ": " ++ text)))
    | .timeout => ([.text (failed ++ " (timeout)")], .ok 1)

/-- What every command needs besides its request. -/
structure DcpSet where
  socket : DcpSocket
  myMac : Mac
  json : Bool

/-- A progress line, in text mode. -/
def DcpSet.banner (set : DcpSet) (text : String) : List Line :=
  if set.json then [] else [.text text]

/-- Send a request and report its answer, behind the lines printed so far. -/
def DcpSet.send (set : DcpSet) (printed : List Line) (action : DcpAction) (dst : Mac)
    (request : List UInt8) (done failed : String) : Comp CmdOutcome := do
  let exchange ← dcpSetRoundtrip set.socket set.myMac request
  match exchange.answer with
  | .error e => return ⟨exchange.sent, printed, .error (.text (failed ++ ": " ++ e))⟩
  | .ok answer =>
    let (lines, code) := reportSet set.json action dst answer done failed
    return ⟨exchange.sent, printed ++ lines, code⟩

/-! ## Commands

  Each command asks for the interface, checks its arguments, and then sends at most one
  request. -/

/-- A command that ends before it sends anything. -/
def refusing : Except CmdError (Comp CmdOutcome) → Comp CmdOutcome
  | .ok run => run
  | .error e => return ⟨none, [], .error e⟩

/-- The target of a command is a MAC address. -/
def s2macOf (target : String) : Except CmdError Mac := (s2mac target).mapError .address

/-- `parse_ipv4`. -/
def parseIpv4 (s : String) : Except CmdError (Bytes 4) := (ip2s s).mapError .address

/-- A transaction id, or why there is none. -/
abbrev GenXid := Except String UInt32

/-- The name of a station is set, and the answer waited for. -/
def cmdSetParam (set : DcpSet) (genXid : GenXid) (target value : String) (permanent : Bool) :
    Comp CmdOutcome :=
  refusing do
    let dst ← s2macOf target
    let len := (utf8 value.toList).length
    if dcpMaxNameLength < len then
      throw (.text ("Station name exceeds maximum length: " ++ toString len ++ " > "
        ++ toString dcpMaxNameLength))
    let xid ← genXid.mapError .text
    let request := setNameRequestQualified set.myMac dst xid value permanent
    return set.send [] .setName dst request ("Set name = " ++ value) "Failed to set name"

/-- The address, the netmask and the gateway are set. -/
def cmdSetIp (set : DcpSet) (genXid : GenXid) (target ip netmask gateway : String)
    (permanent : Bool) : Comp CmdOutcome :=
  refusing do
    let dst ← s2macOf target
    let xid ← genXid.mapError .text
    let request := setIpRequestQualified set.myMac dst xid (← parseIpv4 ip) (← parseIpv4 netmask)
      (← parseIpv4 gateway) permanent
    let printed := set.banner ("Setting IP " ++ ip ++ " on " ++ target ++ "...")
    return set.send printed .setIp dst request
      ("Set IP=" ++ ip ++ " netmask=" ++ netmask ++ " gateway=" ++ gateway) "Failed to set IP"

/-- The station is made to flash. -/
def cmdSignal (set : DcpSet) (genXid : GenXid) (target : String) : Comp CmdOutcome :=
  refusing do
    let dst ← s2macOf target
    let request := signalRequest set.myMac dst (← genXid.mapError .text) 3000
    let printed := set.banner ("Signalling device " ++ target ++ "...")
    return set.send printed .signal dst request "Device LED flash triggered"
      "Failed to signal device"

/-- Reset modes of ResetToFactory, and the older FactoryReset. -/
inductive ResetMode where
  | application
  | communication
  | engineering
  | allData
  | factory
  | restore
  | legacyFactory
  deriving DecidableEq, Repr

/-- The BlockQualifier of a mode; none for the service without modes. -/
def ResetMode.qualifier : ResetMode → Option UInt16
  | .application => some 0x0002
  | .communication => some 0x0004
  | .engineering => some 0x0006
  | .allData => some 0x0008
  | .factory => some 0x0010
  | .restore => some 0x0012
  | .legacyFactory => none

/-- A reset mode as the command line spells it. -/
def ResetMode.asStr : ResetMode → String
  | .application => "application"
  | .communication => "communication"
  | .engineering => "engineering"
  | .allData => "all-data"
  | .factory => "factory"
  | .restore => "restore"
  | .legacyFactory => "legacy-factory"

/-- A legacy reset has an action of its own. -/
def ResetMode.action : ResetMode → DcpAction
  | .legacyFactory => .factoryReset
  | _ => .reset

/-- The request of a reset: the service without modes, or the newer one with its qualifier. -/
def ResetMode.request (mode : ResetMode) (srcMac dstMac : Mac) (xid : UInt32) : List UInt8 :=
  match mode.qualifier with
  | some qualifier => resetRequest srcMac dstMac xid qualifier
  | none => factoryResetRequest srcMac dstMac xid

/-- The station is reset. -/
def cmdReset (set : DcpSet) (genXid : GenXid) (target : String) (mode : ResetMode) :
    Comp CmdOutcome :=
  refusing do
    let dst ← s2macOf target
    let request := mode.request set.myMac dst (← genXid.mapError .text)
    let printed := set.banner ("Resetting device " ++ target ++ " (mode: " ++ mode.asStr ++ ")...")
    return set.send printed mode.action dst request "Reset command acknowledged"
      "Failed to reset device"

/-- What can be asked for: the name or the address. -/
inductive Param where
  | name
  | ip
  deriving DecidableEq, Repr

/-- A parameter as the command line spells it. -/
def paramName : Param → String
  | .name => "name"
  | .ip => "ip"

/-- Option and suboption of the block a parameter is in. -/
def Param.block : Param → UInt8 × UInt8
  | .name => (dcpOptionDevice, dcpSuboptionDeviceName)
  | .ip => (dcpOptionIp, dcpSuboptionIpParameter)

/-- A value as it is printed. -/
def Param.text (value : List UInt8) : Param → String
  | .name => fromUtf8Lossy value
  | .ip =>
    match s2ip (value.take 4) with
    | .ok s => s
    | .error _ => "?"

/-- A parsed frame as the answer to a GET; one that does not parse is skipped. -/
def getParsed : Except String (Option (List UInt8)) → Option (Option (List UInt8))
  | .ok (some value) => some (some value)
  | .ok none => none
  | .error _ => none

/-- What a frame says of a Get request: the block of our transaction, its absence, or nothing. -/
def getJudge (block : UInt8 × UInt8) (xid : UInt32) (frame : List UInt8) :
    Comp (Option (Option (List UInt8))) := do
  return getParsed (← parseGetResponse frame block.1 block.2 xid)

/-- The value of a GET, none if the window closed on it, as lines and exit code. -/
def reportGet (param : Param) : Option (List UInt8) → List Line × Except CmdError Int
  | some value => ([.text (param.text value)], .ok 0)
  | none => ([.text ("Could not read parameter '" ++ paramName param ++ "'")], .ok 1)

/-- The station is asked, and the answer waited for. -/
def cmdGetParam (socket : DcpSocket) (genXid : GenXid) (myMac : Mac) (target : String)
    (param : Param) : Comp CmdOutcome :=
  refusing do
    let dst ← s2macOf target
    let xid ← genXid.mapError .text
    let request := getRequest myMac dst xid param.block.1 param.block.2
    socket.opened.mapError .text
    (socket.send request).mapError .text
    return do
      match ← answerFrom myMac (getJudge param.block xid) none socket.received with
      | .error e => return ⟨some request, [], .error (.text e)⟩
      | .ok value =>
        let (lines, code) := reportGet param value
        return ⟨some request, lines, code⟩

/-- The SET-type commands of the command line. -/
inductive SetCommand where
  | setParam (target value : String) (permanent : Bool)
  | setIp (target ip netmask gateway : String) (permanent : Bool)
  | signal (target : String)
  | reset (target : String) (mode : ResetMode)

/-- Everything a command asks of its surroundings. -/
structure DcpOutside where
  /-- MAC address of the interface (`get_mac`) -/
  mac : Except String Mac
  genXid : GenXid
  socket : DcpSocket

/-- A command as `main` runs it: the MAC address first (`dcp_set`). -/
def perform (o : DcpOutside) (json : Bool) (c : SetCommand) : Comp CmdOutcome :=
  match o.mac with
  | .error e => return ⟨none, [], .error (.text e)⟩
  | .ok myMac =>
    let set : DcpSet := ⟨o.socket, myMac, json⟩
    match c with
    | .setParam target value permanent => cmdSetParam set o.genXid target value permanent
    | .setIp target ip netmask gateway permanent =>
      cmdSetIp set o.genXid target ip netmask gateway permanent
    | .signal target => cmdSignal set o.genXid target
    | .reset target mode => cmdReset set o.genXid target mode

/-- `get-param` as `main` runs it. -/
def performGet (o : DcpOutside) (target : String) (param : Param) : Comp CmdOutcome :=
  match o.mac with
  | .error e => return ⟨none, [], .error (.text e)⟩
  | .ok myMac => cmdGetParam o.socket o.genXid myMac target param

/-! ## The first answer

  The wait reads the frames in order, and the first frame that is an answer ends it.
  `newestVerdict` looks at the newest frame only, since the ones before it were none. -/

section Verdict

variable {ρ : Type} (myMac : Mac) (judge : List UInt8 → Comp (Option ρ)) (timeout : ρ)

/-- What a frame says, if it is addressed to us. -/
def verdict (frame : Slice) : Option ρ :=
  if frame.val.length < 14 ∨ frame.val.take 6 ≠ myMac.val then none
  else
    match judge frame.val with
    | .ok answer => answer
    | .error _ => none

/-- What the newest frame says. -/
def newestVerdict (seen : List Slice) : Option ρ := seen.getLast?.bind (verdict myMac judge)

/-- What the newest frame says does not depend on those before it. -/
theorem newestVerdict_snoc (seen : List Slice) (frame : Slice) :
    newestVerdict myMac judge (seen ++ [frame]) = verdict myMac judge frame := by
  unfold newestVerdict
  rw [List.getLast?_concat]
  rfl

/-- The loop is a wait for the newest frame to say something. -/
theorem answerFrom_eq (hsafe : ∀ frame : Slice, Safe (judge frame.val)) (seen : List Slice)
    (received : List Heard) :
    answerFrom myMac judge timeout received
      = .ok (wait (newestVerdict myMac judge) (fun _ => timeout) seen received) := by
  -- on what is received; the frames seen so far say what the newest verdict is
  induction received generalizing seen with
  | nil => rfl
  | cons heard received ih =>
    cases heard with
    | expired => rfl
    | failed e => rfl
    | item frame =>
      obtain ⟨r, hr, -⟩ := hsafe frame
      unfold answerFrom wait
      rw [newestVerdict_snoc]
      unfold verdict
      -- a short frame and one for another address are passed over
      by_cases hshort : frame.val.length < 14
      · rw [if_pos hshort, if_pos (.inl hshort)]
        exact ih (seen ++ [frame])
      · rw [if_neg hshort, slice_ok (by omega) (by omega), ok_bind]
        show (if frame.val.take 6 ≠ myMac.val then _ else _) = _
        by_cases haddr : frame.val.take 6 = myMac.val
        · rw [if_neg (not_not.mpr haddr), if_neg (by simp [hshort, haddr]), hr, ok_bind]
          cases r with
          | none => exact ih (seen ++ [frame])
          | some answer => rfl
        · rw [if_pos haddr, if_pos (.inr haddr)]
          exact ih (seen ++ [frame])

/-- What a window of frames comes to. -/
def awaited (received : List Heard) : Except String ρ :=
  match (heard received).findSome? (verdict myMac judge), failure received with
  | some answer, _ => .ok answer
  | none, some e => .error e
  | none, none => .ok timeout

/-- **The loop returns what the first frame says that says anything.** -/
theorem answerFrom_awaited (hsafe : ∀ frame : Slice, Safe (judge frame.val))
    (received : List Heard) :
    answerFrom myMac judge timeout received = .ok (awaited myMac judge timeout received) := by
  have hnewest := decision_newest (newestVerdict myMac judge) (newestVerdict_snoc myMac judge) []
    (heard received)
  rw [answerFrom_eq myMac judge timeout hsafe [], wait_eq, hnewest]
  unfold awaited
  cases (heard received).findSome? (verdict myMac judge) with
  | some answer => rfl
  | none => cases failure received <;> rfl

/-- Of the frames heard, the first that says anything says this. -/
def FirstAnswer (frames : List Slice) (answer : ρ) : Prop :=
  ∃ before frame after, frames = before ++ frame :: after
    ∧ (∀ f ∈ before, verdict myMac judge f = none) ∧ verdict myMac judge frame = some answer

/-- The first verdict is that of the first frame that has one. -/
theorem findSome?_verdict {frames : List Slice} {answer : ρ} :
    frames.findSome? (verdict myMac judge) = some answer ↔ FirstAnswer myMac judge frames answer := by
  rw [List.findSome?_eq_some_iff]
  constructor
  · rintro ⟨before, frame, after, hframes, hframe, hbefore⟩
    exact ⟨before, frame, after, hframes, hbefore, hframe⟩
  · rintro ⟨before, frame, after, hframes, hbefore, hframe⟩
    exact ⟨before, frame, after, hframes, hframe, hbefore⟩

/-- An answer that is no timeout is the first one. -/
theorem awaited_eq_ok (received : List Heard) {answer : ρ} (hne : answer ≠ timeout) :
    awaited myMac judge timeout received = .ok answer
      ↔ FirstAnswer myMac judge (heard received) answer := by
  rw [← findSome?_verdict]
  unfold awaited
  cases (heard received).findSome? (verdict myMac judge) with
  | some a => rw [Except.ok.injEq, Option.some.injEq]
  | none =>
    refine iff_of_false ?_ (fun h => by cases h)
    cases failure received with
    | some e =>
      intro h
      cases h
    | none => exact fun h => hne (Except.ok.inj h).symm

end Verdict

section Answer

variable (myMac : Mac) (xid : UInt32)

/-- A Set response is judged by what was parsed of it. -/
theorem setJudge_eq {frame : Slice} {r : Except String (Option UInt8)}
    (h : parseSetResponse frame.val xid = .ok r) : setJudge xid frame.val = .ok (setParsed r) := by
  unfold setJudge
  rw [h]
  rfl

/-- It is judged, whatever the frame is. -/
theorem setJudge_safe (frame : Slice) : Safe (setJudge xid frame.val) := by
  obtain ⟨r, hr, -⟩ := parseSetResponse_safe frame.2 xid
  rw [setJudge_eq xid hr]
  exact safe_ok _

/-- The frame is addressed to us, is the answer to our request, and its block error says that the
    value is set. -/
structure Confirms (frame : Slice) : Prop where
  addressed : frame.val.take 6 = myMac.val
  ours : ∃ payload, dcpPayload frame.val = .ok (.ok payload)
    ∧ OwnAnswer payload xid dcpServiceTypeResponseSuccess
  accepted : parseSetResponse frame.val xid = .ok (.ok (some dcpBlockErrorOk))

/-- The verdict is success exactly for a frame that confirms. -/
theorem verdict_done (frame : Slice) :
    verdict myMac (setJudge xid) frame = some .done ↔ Confirms myMac xid frame := by
  obtain ⟨r, hr, -⟩ := parseSetResponse_safe frame.2 xid
  have hjudge := setJudge_eq xid hr
  -- what the judge calls done is an own answer whose block says OK
  constructor
  · intro h
    unfold verdict at h
    split at h
    · cases h
    · rename_i haddr
      rw [not_or, not_not] at haddr
      rw [hjudge] at h
      rcases r with text | _ | code
      · cases h
      · cases h
      · have hok : code = dcpBlockErrorOk := by
          have hcode : setCodeAnswer code = .done := Option.some.inj h
          unfold setCodeAnswer at hcode
          split at hcode
          · assumption
          · cases hcode
        rw [hok] at hr
        refine ⟨haddr.2, ?_, hr⟩
        rcases set_response_cases frame.2 xid with ⟨e, -, he⟩ | ⟨payload, hpayload, hcases⟩
        · rw [hr] at he
          cases he
        · rcases hcases with ⟨hown, -⟩ | ⟨-, e, he⟩ | ⟨-, -, hnone⟩
          · exact ⟨payload, hpayload, hown⟩
          · rw [hr] at he
            cases he
          · rw [hr] at hnone
            cases hnone
  -- a frame with a payload is long enough for the address test
  · rintro ⟨haddr, ⟨payload, hpayload, -⟩, hok⟩
    have hlong : ¬ frame.val.length < 14 := by
      intro hshort
      unfold dcpPayload stripEth at hpayload
      rw [if_pos hshort] at hpayload
      cases hpayload
    unfold verdict
    rw [if_neg (by simp [hlong, haddr]), setJudge_eq xid hok]
    rfl

/-- A request is skipped, ours as well as that of another controller. -/
theorem verdict_request {frame : Slice} {any : UInt32} (h : IsRequest frame.val any) :
    verdict myMac (setJudge xid) frame = none := by
  unfold verdict
  rw [setJudge_eq xid (h.no_answer xid)]
  exact ite_self none

/-- The first frame that is an answer at all confirms the request. -/
def Confirmed (frames : List Slice) : Prop :=
  ∃ before frame after, frames = before ++ frame :: after
    ∧ (∀ f ∈ before, verdict myMac (setJudge xid) f = none) ∧ Confirms myMac xid frame

/-- The exchange succeeds exactly if a confirming frame is the first that answers. -/
theorem awaited_done (received : List Heard) :
    awaited myMac (setJudge xid) .timeout received = .ok .done
      ↔ Confirmed myMac xid (heard received) := by
  rw [awaited_eq_ok myMac (setJudge xid) .timeout received (by decide)]
  unfold Confirmed FirstAnswer
  simp only [verdict_done]

end Answer

/-! ## What is sent, and when it counts as done

  What is sent reads as a request for what the command was asked to do (`readSetRequest`), and
  what is reported as success is a confirmation of it. -/

/-- The command reported that the device did it: exit code 0, and with `--json` a result line that
    says so. -/
def CmdOutcome.Success (json : Bool) (outcome : CmdOutcome) : Prop :=
  outcome.code = .ok 0 ∧ (json = true → ∃ r, Line.result r ∈ outcome.printed ∧ r.ok = true)

/-- What a command asks of a device. -/
inductive SetCommand.Asks : SetCommand → SetRequest → Prop
  | setParam {target value : String} {permanent : Bool} {r : SetRequest}
      (htarget : s2mac target = .ok r.dst)
      (hvalue : fromUtf8Lossy r.value = value) (hlength : r.value.length ≤ dcpMaxNameLength)
      (hblock : r.option = dcpOptionDevice ∧ r.suboption = dcpSuboptionDeviceName)
      (hqualifier : r.qualifier = if permanent then 0x0001 else 0x0000) :
      Asks (.setParam target value permanent) r
  | setIp {target ip netmask gateway : String} {permanent : Bool} {r : SetRequest}
      {a m g : Bytes 4} (htarget : s2mac target = .ok r.dst) (hip : ip2s ip = .ok a)
      (hnetmask : ip2s netmask = .ok m) (hgateway : ip2s gateway = .ok g)
      (hvalue : r.value = a.val ++ m.val ++ g.val)
      (hblock : r.option = dcpOptionIp ∧ r.suboption = dcpSuboptionIpParameter)
      (hqualifier : r.qualifier = if permanent then 0x0001 else 0x0000) :
      Asks (.setIp target ip netmask gateway permanent) r
  /-- thirty units of 100 ms -/
  | signal {target : String} {r : SetRequest} (htarget : s2mac target = .ok r.dst)
      (hvalue : r.value = be16 30)
      (hblock : r.option = dcpOptionControl ∧ r.suboption = dcpSuboptionControlSignal)
      (hqualifier : r.qualifier = 0x0001) : Asks (.signal target) r
  | reset {target : String} {mode : ResetMode} {q : UInt16} {r : SetRequest}
      (htarget : s2mac target = .ok r.dst) (hmode : mode.qualifier = some q) (hvalue : r.value = [])
      (hblock : r.option = dcpOptionControl ∧ r.suboption = dcpSuboptionControlResetToFactory)
      (hqualifier : r.qualifier = q) : Asks (.reset target mode) r
  | factoryReset {target : String} {mode : ResetMode} {r : SetRequest}
      (htarget : s2mac target = .ok r.dst) (hmode : mode.qualifier = none) (hvalue : r.value = [])
      (hblock : r.option = dcpOptionControl ∧ r.suboption = dcpSuboptionControlResetFactory)
      (hqualifier : r.qualifier = 0) : Asks (.reset target mode) r

/-- What a run of a command did: it sent the request that was asked for, if any, and it counts as
    done exactly if that request is confirmed. -/
structure Accounts (set : DcpSet) (genXid : GenXid) (c : SetCommand) (outcome : CmdOutcome) :
    Prop where
  sent : ∀ frame, outcome.sent = some frame → ∃ r, readSetRequest frame = some r ∧ c.Asks r
    ∧ r.src = set.myMac ∧ genXid = .ok r.xid
  success : outcome.Success set.json ↔ ∃ xid, genXid = .ok xid ∧ outcome.sent.isSome
    ∧ Confirmed set.myMac xid (heard set.socket.received)

section Send

variable {set : DcpSet} {genXid : GenXid} {c : SetCommand}

/-- A request whose fields fit is a request of the protocol. -/
theorem SetRequest.isRequest {r : SetRequest} (h : r.Fits) : IsRequest r.frame r.xid := by
  have hvalue : r.value.length ≤ 65528 := h
  refine isRequest_frame r.dst r.src dcpGetSetFrameId dcpServiceIdSet r.xid 0 _ ?_
  rw [setBlock_length]
  omega

/-- The request goes out if the socket takes it, and its answer is the first one. -/
theorem dcpSetRoundtrip_eq {r : SetRequest} (h : r.Fits) (socket : DcpSocket) (myMac : Mac) :
    ∃ exchange, dcpSetRoundtrip socket myMac r.frame = .ok exchange
      ∧ ((exchange.sent = none ∧ ∃ e, exchange.answer = .error e)
        ∨ (exchange.sent = some r.frame
          ∧ exchange.answer = awaited myMac (setJudge r.xid) .timeout socket.received)) := by
  unfold dcpSetRoundtrip
  rw [(SetRequest.isRequest h).xid, ok_bind]
  simp only
  cases socket.opened with
  | error e => exact ⟨_, rfl, .inl ⟨rfl, e, rfl⟩⟩
  | ok opened =>
    simp only
    cases socket.send r.frame with
    | error e => exact ⟨_, rfl, .inl ⟨rfl, e, rfl⟩⟩
    | ok sent =>
      simp only
      rw [answerFrom_awaited myMac _ _ (setJudge_safe r.xid)]
      exact ⟨_, rfl, .inr ⟨rfl, rfl⟩⟩

/-- A report counts as done exactly if the answer is. -/
theorem reportSet_success (json : Bool) (action : DcpAction) (mac : Mac) (answer : SetAnswer)
    (done failed : String) {printed : List Line} (hprinted : ∀ l ∈ printed, ∃ s, l = .text s)
    (sent : Option (List UInt8)) :
    CmdOutcome.Success json ⟨sent, printed ++ (reportSet json action mac answer done failed).1,
      (reportSet json action mac answer done failed).2⟩ ↔ answer = .done := by
  unfold CmdOutcome.Success reportSet
  cases json with
  | false =>
    cases answer <;> simp
  | true =>
    simp only [if_true, true_and, forall_const]
    constructor
    · rintro ⟨r, hmem, hok⟩
      rcases List.mem_append.mp hmem with hold | hnew
      · obtain ⟨s, hs⟩ := hprinted _ hold
        cases hs
      · injection List.mem_singleton.mp hnew with hr
        rw [hr] at hok
        exact of_decide_eq_true hok
    · rintro rfl
      exact ⟨_, List.mem_append_right _ (List.mem_singleton.mpr rfl), rfl⟩

/-- One request, sent and reported. -/
theorem send_accounts {r : SetRequest} (hfits : r.Fits) (hasks : c.Asks r)
    (hsrc : r.src = set.myMac) (hxid : genXid = .ok r.xid) {printed : List Line}
    (hprinted : ∀ l ∈ printed, ∃ s, l = .text s) (action : DcpAction) (done failed : String) :
    ∃ outcome, set.send printed action r.dst r.frame done failed = .ok outcome
      ∧ Accounts set genXid c outcome := by
  obtain ⟨exchange, hexchange, hcases⟩ := dcpSetRoundtrip_eq hfits set.socket set.myMac
  unfold DcpSet.send
  rw [hexchange, ok_bind]
  have hread : ∃ r', readSetRequest r.frame = some r' ∧ c.Asks r' ∧ r'.src = set.myMac
      ∧ genXid = .ok r'.xid := ⟨r, readSetRequest_frame r hfits, hasks, hsrc, hxid⟩
  -- nothing sent, or sent and answered by what was awaited
  rcases hcases with ⟨hnone, e, he⟩ | ⟨hsent, hanswer⟩
  · rw [he]
    refine ⟨_, rfl, ?_, ?_⟩
    · intro frame hframe
      rw [hnone] at hframe
      cases hframe
    · refine iff_of_false (fun h => by cases h.1) ?_
      rintro ⟨xid, -, hsome, -⟩
      rw [hnone] at hsome
      cases hsome
  · have hconfirmed : (∃ xid, genXid = .ok xid ∧ exchange.sent.isSome
        ∧ Confirmed set.myMac xid (heard set.socket.received))
        ↔ exchange.answer = .ok .done := by
      rw [hanswer, awaited_done]
      constructor
      · rintro ⟨xid, hxid', -, h⟩
        rw [hxid] at hxid'
        cases hxid'
        exact h
      · intro h
        exact ⟨r.xid, hxid, by rw [hsent]; rfl, h⟩
    have hframes : ∀ frame, exchange.sent = some frame → ∃ r', readSetRequest frame = some r'
        ∧ c.Asks r' ∧ r'.src = set.myMac ∧ genXid = .ok r'.xid := by
      intro frame hframe
      rw [hsent] at hframe
      cases hframe
      exact hread
    -- only a confirmed answer is reported as success
    cases ha : exchange.answer with
    | error e =>
      refine ⟨_, rfl, hframes, ?_⟩
      refine iff_of_false (fun h => by cases h.1) fun h => ?_
      have hdone := hconfirmed.mp h
      rw [ha] at hdone
      cases hdone
    | ok answer =>
      have hreport :=
        reportSet_success set.json action r.dst answer done failed hprinted exchange.sent
      refine ⟨_, rfl, hframes, hreport.trans ?_⟩
      show _ ↔ ∃ xid, genXid = .ok xid ∧ exchange.sent.isSome ∧ _
      rw [hconfirmed, ha, Except.ok.injEq]

/-- A command that sends nothing is not done. -/
theorem refused_accounts (e : CmdError) : Accounts set genXid c ⟨none, [], .error e⟩ where
  sent := fun frame h => by cases h
  success := iff_of_false (fun h => by cases h.1) fun ⟨_, _, hsome, _⟩ => by cases hsome

/-- The command comes down to sending one request. -/
def Prepares (set : DcpSet) (genXid : GenXid) (c : SetCommand) (run : Comp CmdOutcome) : Prop :=
  ∃ r printed action done failed, run = set.send printed action r.dst r.frame done failed
    ∧ (∀ l ∈ printed, ∃ s, l = .text s) ∧ r.Fits ∧ c.Asks r ∧ r.src = set.myMac
    ∧ genXid = .ok r.xid

/-- A command ends with an error before it sends anything, or runs. -/
theorem refusing_cases {x : Except CmdError (Comp CmdOutcome)} {P : CmdOutcome → Prop}
    (herror : ∀ e, P ⟨none, [], .error e⟩)
    (hrun : ∀ run, x = .ok run → ∃ outcome, run = .ok outcome ∧ P outcome) :
    ∃ outcome, refusing x = .ok outcome ∧ P outcome := by
  cases x with
  | error e => exact ⟨_, rfl, herror e⟩
  | ok run => exact hrun run rfl

/-- A command that may refuse its arguments accounts for what it sends, if it does not. -/
theorem refusing_accounts {x : Except CmdError (Comp CmdOutcome)}
    (h : ∀ run, x = .ok run → Prepares set genXid c run) :
    ∃ outcome, refusing x = .ok outcome ∧ Accounts set genXid c outcome := by
  refine refusing_cases refused_accounts ?_
  intro run hx
  obtain ⟨r, printed, action, done, failed, rfl, hprinted, hfits, hasks, hsrc, hxid⟩ := h run hx
  exact send_accounts hfits hasks hsrc hxid hprinted action done failed

/-- A banner has nothing but text in it. -/
theorem banner_text (set : DcpSet) (text : String) : ∀ l ∈ set.banner text, ∃ s, l = .text s := by
  intro l hl
  unfold DcpSet.banner at hl
  split at hl
  · cases hl
  · exact ⟨text, List.mem_singleton.mp hl⟩

/-- Mapping the error leaves a success where it is. -/
theorem mapError_ok {ε ε' α : Type} {f : ε → ε'} {x : Except ε α} {a : α} :
    x.mapError f = .ok a ↔ x = .ok a := by
  cases x <;> simp [Except.mapError]

/-- Setting a name accounts for what it sends. -/
theorem cmdSetParam_accounts (target value : String) (permanent : Bool) :
    ∃ outcome, cmdSetParam set genXid target value permanent = .ok outcome
      ∧ Accounts set genXid (.setParam target value permanent) outcome := by
  refine refusing_accounts ?_
  intro run h
  obtain ⟨dst, hdst, h⟩ := Walk.ok_of_bind h
  have hdst' : s2mac target = .ok dst := mapError_ok.mp hdst
  simp only at h
  split at h
  · cases h
  · rename_i hlen
    obtain ⟨xid, hxid, h⟩ := Walk.ok_of_bind h
    have hlen' : (utf8 value.toList).length ≤ 240 := Nat.not_lt.mp hlen
    cases h
    refine ⟨⟨set.myMac, dst, xid, dcpOptionDevice, dcpSuboptionDeviceName,
      if permanent then 0x0001 else 0x0000, utf8 value.toList⟩, _, _, _, _, rfl,
      (fun l hl => by cases hl), ?_, ?_, rfl, mapError_ok.mp hxid⟩
    · show (utf8 value.toList).length ≤ 65528
      omega
    · refine .setParam hdst' ?_ hlen' ⟨rfl, rfl⟩ rfl
      show String.ofList (lossyChars (utf8 value.toList)) = value
      rw [lossyChars_utf8, String.ofList_toList]

/-- So does setting the IP parameters. -/
theorem cmdSetIp_accounts (target ip netmask gateway : String) (permanent : Bool) :
    ∃ outcome, cmdSetIp set genXid target ip netmask gateway permanent = .ok outcome
      ∧ Accounts set genXid (.setIp target ip netmask gateway permanent) outcome := by
  refine refusing_accounts ?_
  intro run h
  obtain ⟨dst, hdst, h⟩ := Walk.ok_of_bind h
  obtain ⟨xid, hxid, h⟩ := Walk.ok_of_bind h
  obtain ⟨a, ha, h⟩ := Walk.ok_of_bind h
  obtain ⟨m, hm, h⟩ := Walk.ok_of_bind h
  obtain ⟨g, hg, h⟩ := Walk.ok_of_bind h
  cases h
  refine ⟨⟨set.myMac, dst, xid, dcpOptionIp, dcpSuboptionIpParameter,
    if permanent then 0x0001 else 0x0000, a.val ++ m.val ++ g.val⟩, _, _, _, _, rfl,
    banner_text set _, ?_, ?_, rfl, mapError_ok.mp hxid⟩
  · show (a.val ++ m.val ++ g.val).length ≤ 65528
    rw [List.length_append, List.length_append, a.2, m.2, g.2]
    decide
  · exact .setIp (mapError_ok.mp hdst) (mapError_ok.mp ha) (mapError_ok.mp hm) (mapError_ok.mp hg)
      rfl ⟨rfl, rfl⟩ rfl

/-- The signal. -/
theorem cmdSignal_accounts (target : String) :
    ∃ outcome, cmdSignal set genXid target = .ok outcome
      ∧ Accounts set genXid (.signal target) outcome := by
  refine refusing_accounts ?_
  intro run h
  obtain ⟨dst, hdst, h⟩ := Walk.ok_of_bind h
  obtain ⟨xid, hxid, h⟩ := Walk.ok_of_bind h
  cases h
  exact ⟨⟨set.myMac, dst, xid, dcpOptionControl, dcpSuboptionControlSignal, 0x0001, be16 30⟩, _, _,
    _, _, rfl, banner_text set _, show (be16 30).length ≤ 65528 by decide,
    .signal (mapError_ok.mp hdst) rfl ⟨rfl, rfl⟩ rfl, rfl, mapError_ok.mp hxid⟩

/-- And the reset, in every mode. -/
theorem cmdReset_accounts (target : String) (mode : ResetMode) :
    ∃ outcome, cmdReset set genXid target mode = .ok outcome
      ∧ Accounts set genXid (.reset target mode) outcome := by
  refine refusing_accounts ?_
  intro run h
  obtain ⟨dst, hdst, h⟩ := Walk.ok_of_bind h
  obtain ⟨xid, hxid, h⟩ := Walk.ok_of_bind h
  have hdst' : s2mac target = .ok dst := mapError_ok.mp hdst
  have hfits (suboption : UInt8) (qualifier : UInt16) : SetRequest.Fits
      ⟨set.myMac, dst, xid, dcpOptionControl, suboption, qualifier, []⟩ := Nat.zero_le _
  cases h
  unfold ResetMode.request
  cases hmode : mode.qualifier with
  | some q =>
    exact ⟨⟨set.myMac, dst, xid, dcpOptionControl, dcpSuboptionControlResetToFactory, q, []⟩, _, _,
      _, _, rfl, banner_text set _, hfits _ _, .reset hdst' hmode rfl ⟨rfl, rfl⟩ rfl, rfl,
      mapError_ok.mp hxid⟩
  | none =>
    exact ⟨⟨set.myMac, dst, xid, dcpOptionControl, dcpSuboptionControlResetFactory, 0, []⟩, _, _,
      _, _, rfl, banner_text set _, hfits _ _, .factoryReset hdst' hmode rfl ⟨rfl, rfl⟩ rfl, rfl,
      mapError_ok.mp hxid⟩

end Send

/-- **A command reports success exactly if the device confirmed it.**  Whatever the surroundings do
    and whatever else arrives, a command ends; a frame it sent reads as the request that was asked
    for, from this interface; and it counts as done exactly if the request went out and the first
    frame that answers it confirms it. -/
theorem set_commands_confirmed (o : DcpOutside) (json : Bool) (c : SetCommand) :
    ∃ outcome, perform o json c = .ok outcome
      ∧ (∀ frame, outcome.sent = some frame → ∃ r, readSetRequest frame = some r ∧ c.Asks r
        ∧ o.mac = .ok r.src ∧ o.genXid = .ok r.xid)
      ∧ (outcome.Success json ↔ ∃ myMac xid, o.mac = .ok myMac ∧ o.genXid = .ok xid
        ∧ outcome.sent.isSome ∧ Confirmed myMac xid (heard o.socket.received)) := by
  unfold perform
  cases hmac : o.mac with
  | error e =>
    refine ⟨_, rfl, (fun frame h => by cases h), ?_⟩
    exact iff_of_false (fun h => by cases h.1) fun ⟨_, _, h, _⟩ => by cases h
  | ok myMac =>
    obtain ⟨outcome, hrun, haccounts⟩ : ∃ outcome, (match c with
        | .setParam target value permanent =>
          cmdSetParam ⟨o.socket, myMac, json⟩ o.genXid target value permanent
        | .setIp target ip netmask gateway permanent =>
          cmdSetIp ⟨o.socket, myMac, json⟩ o.genXid target ip netmask gateway permanent
        | .signal target => cmdSignal ⟨o.socket, myMac, json⟩ o.genXid target
        | .reset target mode => cmdReset ⟨o.socket, myMac, json⟩ o.genXid target mode) = .ok outcome
        ∧ Accounts ⟨o.socket, myMac, json⟩ o.genXid c outcome := by
      cases c with
      | setParam target value permanent => exact cmdSetParam_accounts target value permanent
      | setIp target ip netmask gateway permanent =>
        exact cmdSetIp_accounts target ip netmask gateway permanent
      | signal target => exact cmdSignal_accounts target
      | reset target mode => exact cmdReset_accounts target mode
    refine ⟨outcome, hrun, ?_, haccounts.success.trans ?_⟩
    · intro frame hframe
      obtain ⟨r, hread, hasks, hsrc, hxid⟩ := haccounts.sent frame hframe
      exact ⟨r, hread, hasks, congrArg Except.ok hsrc.symm, hxid⟩
    · constructor
      · rintro ⟨xid, hxid, hsent, hconfirmed⟩
        exact ⟨myMac, xid, rfl, hxid, hsent, hconfirmed⟩
      · rintro ⟨_, xid, heq, hxid, hsent, hconfirmed⟩
        cases heq
        exact ⟨xid, hxid, hsent, hconfirmed⟩

/-! ## Reading a parameter

  The same wait, for the answer to a GET, whose value is printed. -/

/-- A Get response is judged by what was parsed of it. -/
theorem getJudge_eq {block : UInt8 × UInt8} {xid : UInt32} {frame : Slice}
    {r : Except String (Option (List UInt8))}
    (h : parseGetResponse frame.val block.1 block.2 xid = .ok r) :
    getJudge block xid frame.val = .ok (getParsed r) := by
  unfold getJudge
  rw [h]
  rfl

/-- It is judged, whatever the frame is. -/
theorem getJudge_safe (block : UInt8 × UInt8) (xid : UInt32) (frame : Slice) :
    Safe (getJudge block xid frame.val) := by
  obtain ⟨r, hr, -⟩ := parseGetResponse_safe frame.2 block.1 block.2 xid
  rw [getJudge_eq hr]
  exact safe_ok _

/-- **A parameter is read from the first frame in which it is found.**  The command prints a value,
    with exit code 0, exactly if its request went out and some frame that is addressed to us is a
    response of ours in which `parseGetResponse` finds the block; what it prints is the value of
    the first such frame, whatever arrives before it.  The parser does not find a block without a
    value at the very end of a response, so a station without a name prints none. -/
theorem param_read (o : DcpOutside) (target : String) (param : Param) :
    ∃ outcome, performGet o target param = .ok outcome
      ∧ (outcome.code = .ok 0 ↔ ∃ myMac dst xid value, o.mac = .ok myMac
        ∧ s2mac target = .ok dst ∧ o.genXid = .ok xid
        ∧ outcome.sent = some (getRequest myMac dst xid param.block.1 param.block.2)
        ∧ outcome.printed = [.text (param.text value)]
        ∧ FirstAnswer myMac (getJudge param.block xid) (heard o.socket.received) (some value)) := by
  unfold performGet
  -- each step of the command may refuse; then nothing is printed as a value
  cases hmac : o.mac with
  | error e =>
    refine ⟨_, rfl, iff_of_false (fun h => by cases h) ?_⟩
    rintro ⟨_, _, _, _, h, -⟩
    cases h
  | ok myMac =>
    refine refusing_cases ?_ ?_
    · intro e
      refine iff_of_false (fun h => by cases h) ?_
      rintro ⟨_, _, _, _, -, -, -, h, -⟩
      cases h
    · intro run hx
      obtain ⟨dst, hdst, hx⟩ := Walk.ok_of_bind hx
      obtain ⟨xid, hxid, hx⟩ := Walk.ok_of_bind hx
      obtain ⟨-, -, hx⟩ := Walk.ok_of_bind hx
      obtain ⟨-, -, hx⟩ := Walk.ok_of_bind hx
      cases hx
      have hdst' : s2mac target = .ok dst := mapError_ok.mp hdst
      have hxid' : o.genXid = .ok xid := mapError_ok.mp hxid
      have hfirst (value : List UInt8) := awaited_eq_ok myMac (getJudge param.block xid) none
        o.socket.received (Option.some_ne_none value)
      show ∃ outcome, (answerFrom myMac (getJudge param.block xid) none o.socket.received >>= _)
        = .ok outcome ∧ _
      rw [answerFrom_awaited myMac _ _ (getJudge_safe param.block xid), ok_bind]
      cases hawaited : awaited myMac (getJudge param.block xid) none o.socket.received with
      | error e =>
        refine ⟨_, rfl, iff_of_false (fun h => by cases h) ?_⟩
        rintro ⟨_, _, _, value, -, -, -, -, h, -⟩
        cases h
      | ok value =>
        cases value with
        | none =>
          refine ⟨_, rfl, iff_of_false (fun h => by cases h) ?_⟩
          rintro ⟨_, _, xid', value, hmac', -, hother, -, -, h⟩
          cases hmac'
          rw [hxid'] at hother
          cases hother
          have hsome := (hfirst value).mpr h
          rw [hawaited] at hsome
          cases hsome
        | some value =>
          refine ⟨_, rfl, iff_of_true rfl ?_⟩
          exact ⟨myMac, dst, xid, value, rfl, hdst', hxid', rfl, rfl, (hfirst value).mp hawaited⟩

end Profinet.Dcp
