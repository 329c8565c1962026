/-
  RESOLVE: finding one station without waiting for all of them.

  `discover_until` aggregates what it captured so far after every frame and leaves as soon as the
  list satisfies its caller; `discover` never does, and waits out its window.  A station is resolved
  with the first list that has a match in it:

      discoverUntil     the loop, `Await.wait` over the frames heard
      resolveDevice     leave at the first match, and take it
      matchDevice       a match in the whole list

  The list loses its entries to later answers of the same address, so the match in it is not simply
  the first answer that matches.  It is, in the list the loop leaves with
  (`decision_resolve`): an earlier answer that matched would have ended the loop.  What a whole
  window would have resolved is the same, unless some station answers differently the second time
  (`station_resolved`).
-/
import Mathlib.Data.List.Find
import Profinet.DcpCommands
import Profinet.Discovery

namespace Profinet.Dcp

open Wire Checked Util Await

/-! ## Discovery -/

/-- Open the socket and ask all stations: our address, and the transaction id they answer to. -/
def identifyAll (o : DcpOutside) : Except String (Mac × UInt32) := do
  o.socket.opened
  let myMac ← o.mac
  let xid ← o.genXid
  o.socket.send (identifyAllRequest myMac xid)
  return (myMac, xid)

/-- The frames until the devices among them satisfy `done`. -/
def discoverFrom (myMac : Mac) (xid : UInt32) (done : List DcpDevice → Bool) (frames : List Slice) :
    List Heard → Comp (Except String (List DcpDevice))
  | [] => return .ok (← aggregateResponses (bytesOf frames) myMac xid)
  | .expired :: _ => return .ok (← aggregateResponses (bytesOf frames) myMac xid)
  | .failed e :: _ => return .error e
  | .item frame :: received => do
    let devices ← aggregateResponses (bytesOf (frames ++ [frame])) myMac xid
    if done devices then
      return .ok devices
    else discoverFrom myMac xid done (frames ++ [frame]) received

/-- DCP discovery that can stop early (`discover_until`). -/
def discoverUntil (o : DcpOutside) (done : List DcpDevice → Bool) :
    Comp (Except String (List DcpDevice)) :=
  match identifyAll o with
  | .error e => return .error e
  | .ok (myMac, xid) => discoverFrom myMac xid done [] o.socket.received

/-- DCP discovery of all stations, which takes the whole window. -/
def discover (o : DcpOutside) : Comp (Except String (List DcpDevice)) :=
  discoverUntil o fun _ => false

/-! ## One station -/

/-- An IPv4 address as the standard library reads it: four octets without leading zeros. -/
def ipv4Addr (s : String) : Option (Bytes 4) := (ip2s s).toOption

/-- The device is the station asked for, by name or by address. -/
def deviceMatches (target : String) (d : DcpDevice) : Bool :=
  d.name = target || (match ipv4Addr target with
    | some a => a = d.ip
    | none => false)

/-- The first device with that name or IP address. -/
def matchDevice (devices : List DcpDevice) (target : String) : Option DcpDevice :=
  devices.find? (deviceMatches target)

/-- Why a station is not resolved. -/
inductive ResolveError where
  | failed (e : String)
  | notFound (target : String)
  deriving DecidableEq, Repr

/-- A match as the result, and its absence as an error. -/
def found (target : String) : Option DcpDevice → Except ResolveError DcpDevice
  | some d => .ok d
  | none => .error (.notFound target)

/-- Resolve one station, as soon as it answers. -/
def resolveDevice (o : DcpOutside) (target : String) : Comp (Except ResolveError DcpDevice) := do
  match ← discoverUntil o fun devices => devices.any (deviceMatches target) with
  | .error e => return .error (.failed e)
  | .ok devices => return found target (matchDevice devices target)

/-! ## Lookups of the library -/

/-- By MAC address if the identifier is one, by station name otherwise. -/
def findByIdentifier (devices : List DcpDevice) (identifier : String) : Option DcpDevice :=
  match parseMacFlexible identifier with
  | some mac => devices.find? fun d => d.mac = mac
  | none => devices.find? fun d => d.name = identifier

/-- By the text of the IPv4 address. -/
def findByIp (devices : List DcpDevice) (ip : String) : Option DcpDevice :=
  devices.find? fun d => (s2ip d.ip.val).toOption = some ip

/-! ## The loop -/

section Loop

variable (myMac : Mac) (xid : UInt32)

/-- The devices among the frames. -/
def devicesOf (frames : List Slice) : List DcpDevice :=
  (answers myMac xid frames).foldl replaceOrPush []

theorem aggregateResponses_devicesOf (frames : List Slice) :
    aggregateResponses (bytesOf frames) myMac xid = .ok (devicesOf myMac xid frames) :=
  aggregateFrom_eq myMac xid frames []

/-- The devices, once they satisfy `done`. -/
def satisfied (done : List DcpDevice → Bool) (frames : List Slice) : Option (List DcpDevice) :=
  if done (devicesOf myMac xid frames) then some (devicesOf myMac xid frames) else none

/-- **The discovery waits for frames that satisfy it.** -/
theorem discoverFrom_eq (done : List DcpDevice → Bool) (frames : List Slice)
    (received : List Heard) :
    discoverFrom myMac xid done frames received
      = .ok (wait (satisfied myMac xid done) (devicesOf myMac xid) frames received) := by
  induction received generalizing frames with
  | nil =>
    unfold discoverFrom
    rw [aggregateResponses_devicesOf]
    rfl
  | cons heard received ih =>
    cases heard with
    | expired =>
      unfold discoverFrom
      rw [aggregateResponses_devicesOf]
      rfl
    | failed e => rfl
    | item frame =>
      unfold discoverFrom wait satisfied
      rw [aggregateResponses_devicesOf, ok_bind]
      cases done (devicesOf myMac xid (frames ++ [frame])) with
      | true => rfl
      | false => exact ih (frames ++ [frame])

/-- One more frame is no answer, or the answer of one more device. -/
theorem devicesOf_snoc (frames : List Slice) (frame : Slice) :
    devicesOf myMac xid (frames ++ [frame])
      = match accepted myMac xid frame with
        | none => devicesOf myMac xid frames
        | some d => replaceOrPush (devicesOf myMac xid frames) d := by
  unfold devicesOf answers
  rw [List.filterMap_append, List.foldl_append]
  cases haccepted : accepted myMac xid frame with
  | none =>
    rw [List.filterMap_cons_none haccepted]
    rfl
  | some d =>
    rw [List.filterMap_cons_some haccepted]
    rfl

end Loop

/-! ## The first match -/

/-- Where nothing matched, the only match after one more answer is that answer. -/
theorem find?_replaceOrPush {p : DcpDevice → Bool} {devices : List DcpDevice} (d : DcpDevice)
    (h : devices.find? p = none) :
    (replaceOrPush devices d).find? p = if p d then some d else none := by
  have hd : [d].find? p = if p d then some d else none := by
    rw [List.find?_singleton]
  unfold replaceOrPush
  cases hpos : devices.findIdx? fun e => decide (e.mac = d.mac) with
  | none =>
    show (devices ++ [d]).find? p = _
    rw [List.find?_append, h, hd]
    rfl
  | some i =>
    have hi : i < devices.length := (List.findIdx?_eq_some_iff_findIdx_eq.mp hpos).1
    have hno : ∀ e ∈ devices, ¬ p e = true := List.find?_eq_none.mp h
    have hfront : (devices.take i).find? p = none :=
      List.find?_eq_none.mpr fun e he => hno e (List.mem_of_mem_take he)
    have hback : (devices.drop (i + 1)).find? p = none :=
      List.find?_eq_none.mpr fun e he => hno e (List.mem_of_mem_drop he)
    show (devices.set i d).find? p = _
    rw [List.set_eq_take_append_cons_drop, if_pos hi, List.find?_append, hfront, Option.none_or,
      List.find?_cons, hback]
    cases p d <;> rfl

section Match

variable (myMac : Mac) (xid : UInt32) (target : String)

/-- What the loop has to say of the frames behind those without a match: it leaves with a list whose
    match is the first answer that matches, or it does not leave, and there is no match. -/
structure Resolves (seen frames : List Slice) (left : Option (List DcpDevice)) : Prop where
  found : ∀ devices, left = some devices →
    ∃ d, devices.find? (deviceMatches target) = some d
      ∧ (answers myMac xid frames).find? (deviceMatches target) = some d
  missed : left = none → (devicesOf myMac xid (seen ++ frames)).find? (deviceMatches target) = none
    ∧ (answers myMac xid frames).find? (deviceMatches target) = none

/-- The loop stays while nothing matches, and leaves with a match. -/
theorem satisfied_match (frames : List Slice) :
    satisfied myMac xid (fun devices => devices.any (deviceMatches target)) frames
      = if ((devicesOf myMac xid frames).find? (deviceMatches target)).isSome
        then some (devicesOf myMac xid frames) else none := by
  unfold satisfied
  rw [List.isSome_find?]

/-- **The match in the list the loop leaves with is the first answer that matches.** -/
theorem decision_resolve (seen : List Slice)
    (hseen : (devicesOf myMac xid seen).find? (deviceMatches target) = none)
    (frames : List Slice) :
    Resolves myMac xid target seen frames
      (decision (satisfied myMac xid fun devices => devices.any (deviceMatches target)) seen frames)
    := by
  induction frames generalizing seen with
  | nil =>
    refine ⟨fun _ h => (by cases h), fun _ => ⟨?_, rfl⟩⟩
    rwa [List.append_nil]
  | cons frame frames ih =>
    have hdevices := devicesOf_snoc myMac xid seen frame
    have hleave := satisfied_match myMac xid target (seen ++ [frame])
    -- an answer that does not match, and a frame that is no answer, leave the loop where it is
    have hstay (hnone : (devicesOf myMac xid (seen ++ [frame])).find? (deviceMatches target) = none)
        (hanswers : (answers myMac xid (frame :: frames)).find? (deviceMatches target)
          = (answers myMac xid frames).find? (deviceMatches target)) :
        Resolves myMac xid target seen (frame :: frames)
          (decision (satisfied myMac xid fun devices => devices.any (deviceMatches target)) seen
            (frame :: frames)) := by
      obtain ⟨hfound, hmissed⟩ := ih _ hnone
      rw [hnone] at hleave
      unfold decision
      rw [hleave]
      refine ⟨?_, ?_⟩
      · rw [hanswers]
        exact hfound
      · rw [hanswers]
        rw [List.append_assoc] at hmissed
        exact hmissed
    cases haccepted : accepted myMac xid frame with
    | none =>
      have hsame : answers myMac xid (frame :: frames) = answers myMac xid frames :=
        List.filterMap_cons_none haccepted
      rw [haccepted] at hdevices
      exact hstay (by rw [hdevices, hseen]) (by rw [hsame])
    | some d =>
      have hmore : answers myMac xid (frame :: frames) = d :: answers myMac xid frames :=
        List.filterMap_cons_some haccepted
      rw [haccepted] at hdevices
      have hfind := find?_replaceOrPush d hseen
      cases hd : deviceMatches target d with
      | false =>
        rw [hd] at hfind
        refine hstay (by rw [hdevices]; exact hfind) ?_
        rw [hmore, List.find?_cons, hd]
      | true =>
        rw [hd] at hfind
        have hmatch : (devicesOf myMac xid (seen ++ [frame])).find? (deviceMatches target)
            = some d := by
          rw [hdevices]
          exact hfind
        rw [hmatch] at hleave
        unfold decision
        rw [hleave]
        refine ⟨?_, fun h => by cases h⟩
        intro devices h
        obtain rfl := Option.some.inj h
        refine ⟨d, hmatch, ?_⟩
        rw [hmore, List.find?_cons, hd]

end Match

/-! ## The whole window -/

/-- A station that answers more than once answers the same. -/
def Steady (devices : List DcpDevice) : Prop :=
  ∀ d ∈ devices, ∀ e ∈ devices, d.mac = e.mac → d = e

/-- Answers that repeat themselves leave the first match where it is. -/
theorem find?_foldl_replaceOrPush {p : DcpDevice → Bool} (devices : List DcpDevice)
    {more : List DcpDevice} (h : Steady (devices ++ more)) :
    (more.foldl replaceOrPush devices).find? p = (devices ++ more).find? p := by
  induction more generalizing devices with
  | nil =>
    rw [List.append_nil]
    rfl
  | cons d more ih =>
    show (more.foldl replaceOrPush (replaceOrPush devices d)).find? p = _
    unfold replaceOrPush
    cases hpos : devices.findIdx? fun e => decide (e.mac = d.mac) with
    | none =>
      show (more.foldl replaceOrPush (devices ++ [d])).find? p = _
      rw [List.append_cons devices d more] at h ⊢
      exact ih _ h
    | some i =>
      obtain ⟨hi, hmac, -⟩ := List.findIdx?_eq_some_iff_getElem.mp hpos
      have hmem : devices[i] ∈ devices := List.getElem_mem hi
      -- the entry it replaces is this answer already
      have hsame : devices[i] = d := h _ (List.mem_append_left _ hmem) d
        (List.mem_append_right _ List.mem_cons_self) (of_decide_eq_true hmac)
      have hset : devices.set i d = devices := by
        rw [← hsame]
        exact List.set_getElem_self hi
      have hsteady : Steady (devices ++ more) := by
        have hsub {e : DcpDevice} (he : e ∈ devices ++ more) : e ∈ devices ++ d :: more := by
          rcases List.mem_append.mp he with hold | hnew
          · exact List.mem_append_left _ hold
          · exact List.mem_append_right _ (List.mem_cons_of_mem d hnew)
        exact fun e he e' he' => h e (hsub he) e' (hsub he')
      show (more.foldl replaceOrPush (devices.set i d)).find? p = _
      rw [hset, ih _ hsteady, List.find?_append, List.find?_append]
      cases hfind : devices.find? p with
      | some e => rfl
      | none =>
        have hd : p d = false :=
          Bool.eq_false_iff.mpr (List.find?_eq_none.mp hfind d (hsame ▸ hmem))
        rw [List.find?_cons, hd]

/-- The first answer that matches, and how the window ends without one. -/
def resolved (target : String) (answered : List DcpDevice) (ended : Option String) :
    Except ResolveError DcpDevice :=
  match answered.find? (deviceMatches target), ended with
  | some d, _ => .ok d
  | none, some e => .error (.failed e)
  | none, none => .error (.notFound target)

theorem resolveDevice_eq {o : DcpOutside} {myMac : Mac} {xid : UInt32}
    (h : identifyAll o = .ok (myMac, xid)) (target : String) :
    resolveDevice o target = .ok (resolved target (answers myMac xid (heard o.socket.received))
      (failure o.socket.received)) := by
  obtain ⟨hfound, hmissed⟩ := decision_resolve myMac xid target []
    (show ([] : List DcpDevice).find? _ = none from rfl) (heard o.socket.received)
  unfold resolveDevice discoverUntil
  rw [h]
  simp only
  rw [discoverFrom_eq, wait_eq, ok_bind]
  unfold resolved
  -- the window may close early with the device, or end without it; then the failure decides
  cases hleft : decision (satisfied myMac xid fun devices => devices.any (deviceMatches target)) []
      (heard o.socket.received) with
  | some devices =>
    obtain ⟨d, hmatch, hfirst⟩ := hfound devices hleft
    rw [hfirst]
    show Except.ok (found target (devices.find? (deviceMatches target))) = _
    rw [hmatch]
    rfl
  | none =>
    obtain ⟨hnone, hfirst⟩ := hmissed hleft
    rw [hfirst]
    cases failure o.socket.received with
    | some e => rfl
    | none =>
      show Except.ok (found target ((devicesOf myMac xid _).find? (deviceMatches target))) = _
      rw [hnone]
      rfl

/-- **Resolving a station.**  The result is the first answer that matches, whatever the list holds
    by then; nothing behind that answer is waited for.  The whole window would have resolved the
    same, if no station changes its answer. -/
theorem station_resolved (o : DcpOutside) (target : String) :
    (∀ e, identifyAll o = .error e → resolveDevice o target = .ok (.error (.failed e)))
    ∧ ∀ myMac xid, identifyAll o = .ok (myMac, xid) →
      resolveDevice o target = .ok (resolved target
          (answers myMac xid (heard o.socket.received)) (failure o.socket.received))
      ∧ (∀ front rest d, o.socket.received = front ++ rest →
        (answers myMac xid (heard front)).find? (deviceMatches target) = some d →
        resolveDevice o target = .ok (.ok d))
      ∧ (Steady (answers myMac xid (heard o.socket.received)) → failure o.socket.received = none →
        ∃ devices, discover o = .ok (.ok devices)
          ∧ resolveDevice o target = .ok (found target (matchDevice devices target))) := by
  refine ⟨?_, ?_⟩
  · intro e h
    unfold resolveDevice discoverUntil
    rw [h]
    rfl
  · intro myMac xid h
    have hresolve := resolveDevice_eq h target
    refine ⟨hresolve, ?_, ?_⟩
    · intro front rest d hreceived hmatch
      obtain ⟨more, hmore⟩ := heard_append front rest
      have hanswers : answers myMac xid (heard front ++ more)
          = answers myMac xid (heard front) ++ answers myMac xid more := List.filterMap_append
      rw [hresolve, hreceived, hmore, hanswers]
      unfold resolved
      rw [List.find?_append, hmatch]
      rfl
    · intro hsteady hended
      -- a discovery that waits for nothing in particular hears the whole window
      have hall (frames : List Slice) :
          decision (satisfied myMac xid fun _ => false) [] frames = none := by
        have hnever (seen : List Slice) (frame : Slice) :
            satisfied myMac xid (fun _ => false) (seen ++ [frame])
              = (fun _ => (none : Option (List DcpDevice))) frame := rfl
        rw [decision_newest _ hnever, List.findSome?_eq_none_iff]
        exact fun _ _ => rfl
      refine ⟨devicesOf myMac xid (heard o.socket.received), ?_, ?_⟩
      · unfold discover discoverUntil
        rw [h]
        simp only
        rw [discoverFrom_eq, wait_eq, hall, hended]
        rfl
      · have hlist : (devicesOf myMac xid (heard o.socket.received)).find? (deviceMatches target)
            = (answers myMac xid (heard o.socket.received)).find? (deviceMatches target) :=
          find?_foldl_replaceOrPush [] hsteady
        rw [hresolve, hended]
        unfold matchDevice resolved
        rw [hlist]
        cases (answers myMac xid (heard o.socket.received)).find? (deviceMatches target) <;> rfl

/-- On the bench: two stations answer, the second of them twice. -/
def benchOutside : DcpOutside where
  mac := .ok benchController
  genXid := .ok 7
  socket :=
    { opened := .ok ()
      send := fun _ => .ok ()
      received := [.item (benchIdentify 0x2A 0x12 5), .item (benchIdentify 0x2A 0x13 6), .item runt,
        .item (benchIdentify 0x2A 0x13 6), .expired] }

/-- The second is found by its address, as it would be in the list of the whole window. -/
theorem station_resolved_bench :
    resolveDevice benchOutside "192.168.0.6" = .ok (.ok (benchStation 0x13 6))
      ∧ ∃ devices, discover benchOutside = .ok (.ok devices)
        ∧ resolveDevice benchOutside "192.168.0.6"
          = .ok (found "192.168.0.6" (matchDevice devices "192.168.0.6")) := by
  obtain ⟨-, hfront, hsteady⟩ := (station_resolved benchOutside "192.168.0.6").2 benchController 7 rfl
  have hanswers : answers benchController 7 (heard benchOutside.socket.received)
      = [benchStation 0x12 5, benchStation 0x13 6, benchStation 0x13 6] := by decide +kernel
  refine ⟨?_, hsteady ?_ rfl⟩
  · refine hfront [.item (benchIdentify 0x2A 0x12 5), .item (benchIdentify 0x2A 0x13 6)] _ _ rfl ?_
    decide +kernel
  · rw [hanswers]
    intro d hd e he
    revert d e
    decide +kernel

/-! ## Two ways to look a station up -/

theorem devicesOf_macs (myMac : Mac) (xid : UInt32) (frames : List Slice) :
    (devicesOf myMac xid frames).map (·.mac)
      = Group.firstSeen ((answers myMac xid frames).map (·.mac)) := by
  unfold devicesOf
  rw [foldl_replaceOrPush, List.map_map]
  exact List.map_id'' (latest_mac (answers myMac xid frames)) _

/-- Among devices with addresses of their own, a device is the one with its address. -/
theorem find?_mac {devices : List DcpDevice} (hnodup : (devices.map (·.mac)).Nodup) {d : DcpDevice}
    (hd : d ∈ devices) : devices.find? (fun e => e.mac = d.mac) = some d := by
  induction devices with
  | nil => cases hd
  | cons e devices ih =>
    rw [List.map_cons, List.nodup_cons] at hnodup
    rw [List.find?_cons]
    rcases List.mem_cons.mp hd with rfl | hrest
    · rw [decide_eq_true rfl]
    · have hne : e.mac ≠ d.mac := fun h => hnodup.1 (h ▸ List.mem_map_of_mem hrest)
      rw [decide_eq_false hne]
      exact ih hnodup.2 hrest

theorem option_of_ok {ε α : Type} {r : Except ε α} {a : α} : r.toOption = some a ↔ r = .ok a := by
  cases r <;> simp [Except.toOption]

/-- The address test of `device_matches` and that of `find_by_ip` are one. -/
theorem deviceMatches_iff {target : String} {d : DcpDevice} :
    deviceMatches target d = true ↔ d.name = target ∨ s2ip d.ip.val = .ok target := by
  have haddr : (match ipv4Addr target with
      | some a => decide (a = d.ip)
      | none => false) = true ↔ ip2s target = .ok d.ip := by
    rw [← option_of_ok]
    unfold ipv4Addr
    cases (ip2s target).toOption <;> simp
  unfold deviceMatches
  rw [Bool.or_eq_true, decide_eq_true_iff, haddr, ip2s_eq_ok]

/-- **The lookups agree.**  Of the devices a discovery finds, each is found by its MAC address in any
    spelling; and the one lookup the command line has finds what the library finds by address, where
    no name is that address, and what it finds by name, where that is no MAC address and no address
    is that name. -/
theorem lookups_agree (myMac : Mac) (xid : UInt32) (frames : List Slice) (s : String) :
    (∀ d ∈ devicesOf myMac xid frames, (Text.trim s.toList).map flexible = (mac2s d.mac).toList →
      findByIdentifier (devicesOf myMac xid frames) s = some d)
    ∧ ((∀ d ∈ devicesOf myMac xid frames, d.name ≠ s) →
      matchDevice (devicesOf myMac xid frames) s = findByIp (devicesOf myMac xid frames) s)
    ∧ ((∀ d ∈ devicesOf myMac xid frames, s2ip d.ip.val ≠ .ok s) → parseMacFlexible s = none →
      matchDevice (devicesOf myMac xid frames) s
        = findByIdentifier (devicesOf myMac xid frames) s) := by
  refine ⟨?_, ?_, ?_⟩
  -- by its MAC address, in any spelling; by an address, where no name hides it; by a name
  · intro d hd hspelled
    have hnodup : ((devicesOf myMac xid frames).map (·.mac)).Nodup := by
      rw [devicesOf_macs]
      exact Group.nodup_firstSeen _
    unfold findByIdentifier
    rw [parseMacFlexible_eq_some.mpr hspelled]
    exact find?_mac hnodup hd
  · intro hname
    refine List.find?_congr ?_
    intro d hd
    rw [Bool.eq_iff_iff, deviceMatches_iff, decide_eq_true_iff, option_of_ok]
    exact or_iff_right (hname d hd)
  · intro haddr hmac
    unfold findByIdentifier
    rw [hmac]
    refine List.find?_congr ?_
    intro d hd
    rw [Bool.eq_iff_iff, deviceMatches_iff, decide_eq_true_iff]
    exact or_iff_left (haddr d hd)

end Profinet.Dcp
