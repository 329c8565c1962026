/-
  AR RELEASE: what the device holds after the connection is gone.

  `release` sends the RELEASE request only while `connected`, and dropping the connection is a
  `release`.  But `connected` is set when the whole connect response was judged acceptable, and the
  device accepts the AR earlier: with a response of status 0 that withholds submodules the device
  holds an AR, the connect fails, and nothing releases it.

  Two accounts of a run are kept beside it.  `held` is the device's: a response of status 0 to one
  of our connects sets it, a RELEASE for this AR clears it.  `granted` counts only those responses
  that withhold nothing.  `connected` is `granted` throughout (`connected_eq_granted`), so the AR
  is released on drop exactly if what is held was granted: `ar_released_on_drop`.
-/
import Profinet.ConnectVerdict
import Profinet.RpcSession

namespace Profinet.Transport

open Wire RpcTransport

variable {T : Type} [RpcTransport T]

/-! ## What a step brings -/

/-- The device accepted the AR: PNIO status 0. -/
def acceptsAr (resp : ParsedRpc) : Bool :=
  match parseNrd resp.payload resp.isLittleEndian with
  | .ok n => n.argsStatus = 0
  | .error _ => false

/-- A cyclic connect also asks for the submodules: the response withholds none. -/
def Op.withholdsNothing (o : Op) (resp : ParsedRpc) : Bool :=
  match o with
  | .connect .. =>
    match parseNrd resp.payload resp.isLittleEndian with
    | .ok n => withheld n = []
    | .error _ => true
  | _ => true

/-- The exchanges of an operation. -/
def RpcConn.exchanged (c : RpcConn T) (o : Op) : List (List UInt8 × Except String ParsedRpc) :=
  (c.perform o).exchanges.drop c.exchanges.length

/-- In the step a connect of ours received the device's own response of status 0. -/
def RpcConn.accepted (c : RpcConn T) : Step T → Bool
  | .arrive _ => false
  | .op o =>
    o.isConnect && (c.exchanged o).any fun p =>
      match p.2 with
      | .ok resp => acceptsAr resp
      | .error _ => false

/-- The same, and the response withholds no submodule. -/
def RpcConn.granted (c : RpcConn T) : Step T → Bool
  | .arrive _ => false
  | .op o =>
    o.isConnect && (c.exchanged o).any fun p =>
      match p.2 with
      | .ok resp => acceptsAr resp && o.withholdsNothing resp
      | .error _ => false

/-- A RELEASE request for this AR UUID and session key. -/
def isReleaseOf (arUuid : Uuid) (sessionKey : UInt16) (req : List UInt8) : Bool :=
  match parseRpcHeader req with
  | none => false
  | some h =>
    h.packetType = packetTypeRequest && h.operationNumber = Rpc.release
      && match parseNrd h.payload h.isLittleEndian with
        | .ok n =>
          rdU16 n.payload 0 false = blockIodReleaseReq && bytesAt 16 n.payload 8 = arUuid
            && rdU16 n.payload 24 false = sessionKey
        | .error _ => false

/-- In the step such a request is given to the network. -/
def RpcConn.releases (c : RpcConn T) (s : Step T) : Bool :=
  ((sent (c.step s).transport).drop (sent c.transport).length).any
    (isReleaseOf c.arUuid c.sessionKey)

/-- An account of a run: set by some steps, cleared by a RELEASE. -/
def account (sets : RpcConn T → Step T → Bool) : RpcConn T → Bool → List (Step T) → Bool
  | _, held, [] => held
  | c, held, s :: steps =>
    account sets (c.step s) (!c.releases s && (held || sets c s)) steps

/-- The device accepted the AR and no RELEASE was sent since. -/
def held (c : RpcConn T) (steps : List (Step T)) : Bool := account RpcConn.accepted c false steps

/-- Among the responses since the last RELEASE there is one that withholds nothing. -/
def grantedHeld (c : RpcConn T) (steps : List (Step T)) : Bool :=
  account RpcConn.granted c false steps

/-! ## The RELEASE request -/

/-- What `release` sends is a RELEASE for its AR. -/
theorem isReleaseOf_releaseRequest (objectUuid ifaceUuid activityUuid arUuid : Uuid)
    (sessionKey : UInt16) (seq : UInt32) :
    isReleaseOf arUuid sessionKey
      (releaseRequest objectUuid ifaceUuid activityUuid arUuid sessionKey seq) = true := by
  obtain ⟨htype, har, hkey, -⟩ :=
    iodControlBlock_fields blockIodReleaseReq arUuid sessionKey controlCmdRelease
  rw [isReleaseOf, releaseRequest, parseRpcHeader_rpcRequest]
  simp only [requestHeader]
  rw [nrd_eq, parseNrd_nrdBytes]
  simp only [htype, har, hkey, decide_true, Bool.and_self]

/-- A request with another opnum is none. -/
theorem isReleaseOf_request {T : Type} {c : RpcConn T} {opnum : UInt16} (h : opnum ≠ Rpc.release)
    (body : List UInt8) (arUuid : Uuid) (sessionKey : UInt16) :
    isReleaseOf arUuid sessionKey (c.request opnum body) = false := by
  rw [isReleaseOf, c.parse_request]
  have hop : decide ((requestHeader c.objectUuid Rpc.ifaceUuidDevice c.activityUuid
      c.sequenceNumber opnum body).operationNumber = Rpc.release) = false := decide_eq_false h
  dsimp only
  rw [hop, Bool.and_false, Bool.false_and]

/-! ## `connected` is what was granted -/

/-- Setting `connected` on a response is its having been granted. -/
theorem establishes_eq_granted {o : Op} (ho : o.isConnect = true) (resp : ParsedRpc) :
    o.judges resp = (acceptsAr resp && o.withholdsNothing resp) := by
  cases hn : parseNrd resp.payload resp.isLittleEndian with
  | error e =>
    cases o with
    | connect m n s =>
      simp only [Op.judges, acceptsAr, parseConnectResponse, hn]
      rfl
    | connectDeviceAccess m n =>
      simp only [Op.judges, acceptsAr, parseStatusResponse, hn]
      rfl
    | _ => exact absurd ho Bool.false_ne_true
  | ok nrd =>
    cases o with
    | connect m n s =>
      simp only [Op.judges, acceptsAr, Op.withholdsNothing, parseConnectResponse_of_nrd hn, hn]
      by_cases hstatus : nrd.argsStatus = 0
      · by_cases hnone : withheld nrd = []
        · rw [if_neg (not_not.mpr hstatus), if_neg (not_not.mpr hnone), decide_eq_true hstatus,
            decide_eq_true hnone]
          rfl
        · rw [if_neg (not_not.mpr hstatus), if_pos hnone, decide_eq_false hnone, Bool.and_false]
          rfl
      · rw [if_pos hstatus, decide_eq_false hstatus]
        rfl
    | connectDeviceAccess m n =>
      simp only [Op.judges, acceptsAr, Op.withholdsNothing, parseStatusResponse_of_nrd hn, hn,
        Bool.and_true]
      by_cases hstatus : nrd.argsStatus = 0
      · rw [if_neg (not_not.mpr hstatus), decide_eq_true hstatus]
        rfl
      · rw [if_pos hstatus, decide_eq_false hstatus]
        rfl
    | _ => exact absurd ho Bool.false_ne_true

/-- What is made of one exchange by `connected` and by the account of what was granted. -/
theorem establishes_any (o : Op) (req : List UInt8) (result : Except String ParsedRpc) :
    o.establishes result
      = (o.isConnect && [(req, result)].any fun p =>
          match p.2 with
          | .ok resp => acceptsAr resp && o.withholdsNothing resp
          | .error _ => false) := by
  rw [List.any_cons, List.any_nil, Bool.or_false]
  cases result with
  | error e => exact (Bool.and_false _).symm
  | ok resp =>
    show o.judges resp = (o.isConnect && (acceptsAr resp && o.withholdsNothing resp))
    cases ho : o.isConnect with
    | true => exact (establishes_eq_granted ho resp).trans (Bool.true_and _).symm
    | false => cases o <;> first | rfl | nomatch ho

/-- What an operation releases, and what it leaves of `connected`. -/
theorem perform_accounts (c : RpcConn T) (o : Op) :
    c.releases (.op o) = (o.isRelease && c.connected)
      ∧ (c.perform o).connected = (!o.isRelease && (c.connected || c.granted (.op o))) := by
  have hstep : c.step (.op o) = c.perform o := rfl
  rw [RpcConn.releases, RpcConn.granted, RpcConn.exchanged, hstep]
  have heffect := perform_effect c o
  generalize c.perform o = c' at heffect ⊢
  cases heffect with
  | quiet hno hc =>
    rw [List.drop_length, List.drop_length, List.any_nil, List.any_nil, hno, Bool.false_and,
      Bool.or_false]
    cases hr : o.isRelease with
    | false => exact ⟨rfl, (Bool.true_and _).symm⟩
    | true =>
      rw [hc hr]
      exact ⟨rfl, rfl⟩
  | waited hno hr t hsent _ =>
    have hlog : (sent t).drop (sent c.transport).length = [] := by rw [hsent, List.drop_length]
    rw [hno, hr, Bool.false_and, Bool.false_and, Bool.or_false]
    refine ⟨?_, (Bool.true_and _).symm⟩
    show ((sent t).drop (sent c.transport).length).any _ = false
    rw [hlog, List.any_nil]
  | asked opnum body i j hr hop hnot =>
    obtain ⟨hsent, -, -⟩ := exchange_spec (t := c.transport) (c.parse_request opnum body)
    rw [hr, Bool.false_and]
    constructor
    · show ((sent (exchange c.transport (c.request opnum body)).2).drop
        (sent c.transport).length).any _ = false
      rw [hsent, List.drop_left, List.any_cons, List.any_nil,
        isReleaseOf_request hnot body c.arUuid c.sessionKey]
      rfl
    · show (c.connected || o.establishes (exchange c.transport (c.request opnum body)).1)
        = (c.connected || (o.isConnect && ((c.exchanges ++ [(c.request opnum body,
            (exchange c.transport (c.request opnum body)).1)]).drop c.exchanges.length).any _))
      rw [List.drop_left, establishes_any o (c.request opnum body)]
  | released hr hc =>
    have hreq := isReleaseOf_releaseRequest c.objectUuid Rpc.ifaceUuidDevice c.activityUuid c.arUuid
      c.sessionKey c.sequenceNumber
    rw [RpcConn.release, if_pos hc, hr, hc]
    constructor
    · show ((sent (sendRequest c.transport _).2).drop (sent c.transport).length).any _ = true
      rw [sendRequest_sent, List.drop_left, List.any_cons, hreq]
      rfl
    · rfl

theorem isConnect_of_isRelease {o : Op} (ho : o.isRelease = true) : o.isConnect = false := by
  cases o with
  | release => rfl
  | _ => nomatch ho

/-- `connected` after a step. -/
theorem step_connected (c : RpcConn T) (s : Step T) :
    (c.step s).connected = (!c.releases s && (c.connected || c.granted s)) := by
  cases s with
  | arrive a =>
    have hrel : c.releases (.arrive a) = false := by
      show ((sent (RpcTransport.arrive a c.transport)).drop _).any _ = false
      rw [arrive_sent, List.drop_length]
      rfl
    rw [hrel]
    exact (Bool.or_false _).symm
  | op o =>
    obtain ⟨hrel, hconn⟩ := perform_accounts c o
    show (c.perform o).connected = _
    rw [hrel, hconn]
    cases hr : o.isRelease with
    | false => rfl
    | true =>
      -- a release grants nothing
      have hgrant : c.granted (.op o) = false := by
        rw [RpcConn.granted, isConnect_of_isRelease hr, Bool.false_and]
      rw [hgrant]
      cases c.connected <;> rfl

/-- **`connected` says what was granted**, at every point of a run. -/
theorem connected_eq_granted (c : RpcConn T) (steps : List (Step T)) :
    (c.run steps).connected = account RpcConn.granted c c.connected steps := by
  induction steps generalizing c with
  | nil => rfl
  | cons s steps ih =>
    show ((c.step s).run steps).connected = _
    rw [ih, step_connected]
    rfl

theorem account_append (sets : RpcConn T → Step T → Bool) (c : RpcConn T) (h : Bool)
    (steps : List (Step T)) (s : Step T) :
    account sets c h (steps ++ [s])
      = (!(c.run steps).releases s && (account sets c h steps || sets (c.run steps) s)) := by
  induction steps generalizing c h with
  | nil => rfl
  | cons s' steps ih => exact ih (c.step s') _

/-! ## Drop -/

/-- **The AR is released on drop exactly if, where the device holds one, it was granted whole.**  In
    a run from a fresh connection that ends in drop, nothing the device accepted is left unreleased
    if and only if, unless a RELEASE came after all of it, one of the responses that accepted it
    since withholds no submodule. -/
theorem ar_released_on_drop {c₀ : RpcConn T} (hfresh : Fresh c₀) (steps : List (Step T)) :
    held c₀ (steps ++ [.op .release]) = false
      ↔ (held c₀ steps = true → grantedHeld c₀ steps = true) := by
  obtain ⟨hrel, -⟩ := perform_accounts (c₀.run steps) .release
  have hconn := connected_eq_granted c₀ steps
  have haccept : (c₀.run steps).accepted (.op .release) = false := rfl
  rw [hfresh.connected, ← grantedHeld] at hconn
  rw [held, account_append, hrel, haccept, hconn, ← held, Bool.or_false]
  show (!(true && grantedHeld c₀ steps) && held c₀ steps) = false ↔ _
  cases grantedHeld c₀ steps with
  | true => exact ⟨fun _ _ => rfl, fun _ => rfl⟩
  | false =>
    constructor
    · intro hnone hheld
      rw [hheld] at hnone
      nomatch hnone
    · intro h
      cases hheld : held c₀ steps with
      | false => rfl
      | true => nomatch h hheld

/-! ## A connect on the bench -/

/-- A connect that is answered with status 0 and these blocks. -/
def benchConnect (blocks : List UInt8) : List (Step UdpTransport) :=
  [.arrive ([.ok (some (rpcBytes (benchAnswer false 0
      (nrdBytes ⟨0, UInt32.ofNat blocks.length, 4000, 0, UInt32.ofNat blocks.length, blocks⟩
        false)), ⟨1, 2⟩))], []),
    .op (.connect ⟨[2, 0, 0, 0, 0, 9], rfl⟩ [] ⟨[], 32, 1, 3, 3⟩)]

/-- A ModuleDiffBlock with one submodule, locked by another IO-controller. -/
def benchLocked : List UInt8 :=
  [0x81, 0x04, 0, 28, 1, 0, 0, 1, 0, 0, 0, 0, 0, 1, 0, 1, 0, 0, 0, 0x10, 0, 0, 0, 1,
    0, 1, 0, 0, 0, 0x20, 0x81, 0x80]

/-- An AR without withheld submodules is held until drop, and released then. -/
theorem ar_released_on_drop_bench :
    held benchConn (benchConnect []) = true
      ∧ held benchConn (benchConnect [] ++ [.op .release]) = false :=
  ⟨by decide +kernel,
    (ar_released_on_drop benchConn_fresh (benchConnect [])).mpr fun _ => by decide +kernel⟩

/-- **A withheld submodule strands the AR**: the device accepted it, the connect failed, and after
    drop the Connect request is still all that was sent. -/
theorem withheld_ar_not_released :
    held benchConn (benchConnect benchLocked ++ [.op .release]) = true
      ∧ (sent (benchConn.run (benchConnect benchLocked ++ [.op .release])).transport).length
        = 1 := by
  decide +kernel

end Profinet.Transport
