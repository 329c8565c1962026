/-
  DISCOVERY: the devices among the captured frames.

  A discovery captures whatever arrives while it waits: the answers to our request, several of one
  device, and the answers to the requests of other controllers.  `aggregateResponses` keeps the
  accepted ones, and of those of one address the latest, at the place of the first:

      accepted   addressed to us, our transaction id, and an Identify response that parses
      answers    the devices of the accepted frames, one after the other
      latest     the last of the answers of an address

  The loop groups the answers by address, so that what it leaves is `Group.foldl_group` for an entry
  that is replaced by every further answer.  Frames that are not accepted are no answers, wherever
  they stand.
-/
import Profinet.Dcp
import Profinet.FrameSafety
import Profinet.Lib.Group

namespace Profinet.Dcp

open Wire Checked Util Group

/-! ## Accepted frames -/

/-- The source address of a frame. -/
def source (frame : List UInt8) : Mac := bytesAt 6 frame 6

/-- The frame is addressed to us, carries our transaction id, and parses as this device. -/
structure Accepts (myMac : Mac) (xid : UInt32) (frame : List UInt8) (device : DcpDevice) : Prop where
  long : 14 ≤ frame.length
  addressed : frame.take 6 = myMac.val
  ours : parseDcpXid frame = .ok (some xid)
  parses : parseIdentifyResponse frame = .ok (.ok device)

section Accepted

variable {myMac : Mac} {xid : UInt32} {frame : List UInt8} {device : DcpDevice}

/-- The three filters of the loop. -/
theorem acceptResponse_some (hframe : frame.length < 2 ^ 63) :
    acceptResponse myMac xid frame = .ok (some device) ↔ Accepts myMac xid frame device := by
  obtain ⟨id, hid, -⟩ := parseDcpXid_safe hframe
  obtain ⟨r, hr, -⟩ := parseIdentifyResponse_safe hframe
  unfold acceptResponse
  -- long enough, for us, of our transaction, and a response the parser takes
  constructor
  · intro h
    by_cases hlong : frame.length < 14
    · rw [if_pos hlong] at h
      cases h
    · rw [if_neg hlong, slice_ok (by omega) (by omega), ok_bind] at h
      split at h
      · cases h
      · rename_i haddr
        rw [hid, ok_bind] at h
        by_cases hours : id = some xid
        · rw [if_neg (fun hne => hne hours), hr, ok_bind] at h
          rcases r with e | d
          · cases h
          · cases h
            exact ⟨by omega, Classical.not_not.mp haddr, hours ▸ hid, hr⟩
        · rw [if_pos hours] at h
          cases h
  · rintro ⟨hlong, haddr, hours, hparses⟩
    rw [if_neg (by omega), slice_ok (by omega) (by omega), ok_bind, if_neg (fun hne => hne haddr),
      hours, ok_bind, if_neg (fun hne => hne rfl), hparses]
    rfl

theorem Accepts.mac (h : Accepts myMac xid frame device) (hframe : frame.length < 2 ^ 63) :
    device.mac = source frame := by
  obtain ⟨r, hr, hmac⟩ := parseIdentifyResponse_returns hframe
  rw [h.parses] at hr
  cases hr
  exact hmac device rfl

end Accepted

variable (myMac : Mac) (xid : UInt32)

/-- The device of a frame, if it is accepted. -/
def accepted (frame : Slice) : Option DcpDevice :=
  match acceptResponse myMac xid frame.val with
  | .ok device => device
  | .error _ => none

theorem accepted_some {frame : Slice} {device : DcpDevice} :
    accepted myMac xid frame = some device ↔ Accepts myMac xid frame.val device := by
  obtain ⟨r, hr, -⟩ := acceptResponse_safe frame.2 myMac xid
  rw [← acceptResponse_some frame.2]
  unfold accepted
  rw [hr]
  simp

/-- A frame that is accepted, as some device. -/
def Accepted (frame : Slice) : Prop := ∃ device, Accepts myMac xid frame.val device

theorem accepted_isSome {frame : Slice} :
    (accepted myMac xid frame).isSome = true ↔ Accepted myMac xid frame := by
  rw [Option.isSome_iff_exists]
  unfold Accepted
  simp only [accepted_some]

instance (frame : Slice) : Decidable (Accepted myMac xid frame) :=
  decidable_of_iff _ (accepted_isSome myMac xid)

/-! ## The latest answer of each address -/

/-- The devices of the accepted frames. -/
def answers (frames : List Slice) : List DcpDevice := frames.filterMap (accepted myMac xid)

/-- The last of the answers of an address. -/
def latest (devices : List DcpDevice) (mac : Mac) : DcpDevice :=
  (devices.reverse.find? (·.mac = mac)).getD (.ofMac mac)

theorem latest_mac (devices : List DcpDevice) (mac : Mac) : (latest devices mac).mac = mac := by
  unfold latest
  cases hfind : devices.reverse.find? (·.mac = mac) with
  | none => rfl
  | some device => simpa using List.find?_some hfind

theorem latest_snoc (devices : List DcpDevice) (device : DcpDevice) (mac : Mac) :
    latest (devices ++ [device]) mac = if device.mac = mac then device else latest devices mac := by
  unfold latest
  rw [List.reverse_append]
  show ((device :: devices.reverse).find? _).getD _ = _
  rw [List.find?_cons]
  by_cases hmac : device.mac = mac
  · rw [if_pos hmac, decide_eq_true hmac]
    rfl
  · rw [if_neg hmac, decide_eq_false hmac]

/-- Replacing the entry at a position is modifying it to a constant. -/
theorem replaceOrPush_group (devices : List DcpDevice) (device : DcpDevice) :
    replaceOrPush devices device
      = group DcpDevice.mac DcpDevice.mac id (fun _ d => d) devices device := by
  unfold replaceOrPush group
  cases devices.findIdx? fun d => decide (d.mac = device.mac) with
  | none => rfl
  | some i => exact List.set_eq_modify device i devices

theorem foldl_replaceOrPush (devices : List DcpDevice) :
    devices.foldl replaceOrPush [] = (firstSeen (devices.map (·.mac))).map (latest devices) := by
  have hgroup : replaceOrPush = group DcpDevice.mac DcpDevice.mac id (fun _ d => d) := by
    funext devices device
    exact replaceOrPush_group devices device
  rw [hgroup]
  refine foldl_group DcpDevice.mac DcpDevice.mac id (fun _ d => d) latest latest_mac ?_ ?_ ?_ devices
  · intro l d _
    rw [latest_snoc, if_pos rfl]
  · intro l d _
    rw [latest_snoc, if_pos rfl]
  · intro l d mac hmac
    rw [latest_snoc, if_neg (Ne.symm hmac)]

theorem aggregateFrom_eq (frames : List Slice) (devices : List DcpDevice) :
    aggregateFrom myMac xid devices (bytesOf frames)
      = .ok ((answers myMac xid frames).foldl replaceOrPush devices) := by
  induction frames generalizing devices with
  | nil => rfl
  | cons frame frames ih =>
    obtain ⟨r, hr, -⟩ := acceptResponse_safe frame.2 myMac xid
    have haccepted : accepted myMac xid frame = r := by
      unfold accepted
      rw [hr]
    show (acceptResponse myMac xid frame.val >>= _) = _
    rw [hr, ok_bind]
    unfold answers
    rw [List.filterMap_cons, haccepted]
    rcases r with _ | device
    · exact ih devices
    · exact ih (replaceOrPush devices device)

/-- What the discovery leaves of the frames. -/
theorem aggregateResponses_eq (frames : List Slice) :
    aggregateResponses (bytesOf frames) myMac xid
      = .ok ((firstSeen ((answers myMac xid frames).map (·.mac))).map
          (latest (answers myMac xid frames))) := by
  unfold aggregateResponses
  rw [aggregateFrom_eq, foldl_replaceOrPush]

/-! ## In terms of the frames -/

/-- The addresses of the answers are those of the accepted frames. -/
theorem answers_macs (frames : List Slice) :
    (answers myMac xid frames).map (·.mac)
      = (frames.filter fun frame => Accepted myMac xid frame).map fun frame => source frame.val := by
  induction frames with
  | nil => rfl
  | cons frame frames ih =>
    unfold answers at ih ⊢
    rw [List.filterMap_cons]
    cases h : accepted myMac xid frame with
    | none =>
      have hnot : ¬ Accepted myMac xid frame := by
        rw [← accepted_isSome, h]
        exact Bool.false_ne_true
      rw [List.filter_cons_of_neg (by simpa using hnot)]
      exact ih
    | some device =>
      have haccepts := (accepted_some myMac xid).mp h
      have hacc : Accepted myMac xid frame := ⟨device, haccepts⟩
      rw [List.filter_cons_of_pos (by simpa using hacc), List.map_cons, List.map_cons, ih,
        haccepts.mac frame.2]

/-- `frame` is among the frames, and none behind it is an accepted one of the same sender. -/
def LastAccepted (frames : List Slice) (frame : Slice) : Prop :=
  ∃ before after, frames = before ++ frame :: after
    ∧ ∀ later ∈ after, Accepted myMac xid later → source later.val ≠ source frame.val

/-- One more frame, which is not one of this sender or not accepted. -/
theorem LastAccepted.snoc {frames : List Slice} {frame next : Slice}
    (h : LastAccepted myMac xid frames frame)
    (hnext : Accepted myMac xid next → source next.val ≠ source frame.val) :
    LastAccepted myMac xid (frames ++ [next]) frame := by
  obtain ⟨before, after, rfl, hlast⟩ := h
  refine ⟨before, after ++ [next], by simp, ?_⟩
  intro later hlater
  rcases List.mem_append.mp hlater with hold | hnew
  · exact hlast later hold
  · rw [List.mem_singleton.mp hnew]
    exact hnext

/-- The latest answer of an address is the parse of the last accepted frame of it. -/
theorem latest_answer {frames : List Slice} {mac : Mac}
    (h : mac ∈ (answers myMac xid frames).map (·.mac)) :
    ∃ frame, LastAccepted myMac xid frames frame ∧ source frame.val = mac
      ∧ Accepts myMac xid frame.val (latest (answers myMac xid frames) mac) := by
  -- on the captured frames from the end: the last frame either answers for the MAC address or
  -- not
  induction frames using List.reverseRecOn with
  | nil => cases h
  | append_singleton frames next ih =>
    have hsnoc : answers myMac xid (frames ++ [next])
        = answers myMac xid frames ++ (accepted myMac xid next).toList := by
      unfold answers
      rw [List.filterMap_append]
      cases hnext : accepted myMac xid next with
      | none => rw [List.filterMap_cons_none hnext]; rfl
      | some device => rw [List.filterMap_cons_some hnext]; rfl
    rw [hsnoc] at h ⊢
    cases hnext : accepted myMac xid next with
    | none =>
      rw [hnext] at h
      simp only [Option.toList_none, List.append_nil] at h ⊢
      obtain ⟨frame, hlast, hmac, haccepts⟩ := ih h
      refine ⟨frame, hlast.snoc myMac xid ?_, hmac, haccepts⟩
      intro hacc
      rw [← accepted_isSome, hnext] at hacc
      cases hacc
    | some device =>
      have haccepts := (accepted_some myMac xid).mp hnext
      have hsource := haccepts.mac next.2
      rw [hnext] at h
      simp only [Option.toList_some] at h ⊢
      rw [latest_snoc]
      by_cases hmac : device.mac = mac
      · rw [if_pos hmac]
        exact ⟨next, ⟨frames, [], rfl, fun later hlater => by cases hlater⟩,
          hsource.symm.trans hmac, haccepts⟩
      · have hold : mac ∈ (answers myMac xid frames).map (·.mac) := by
          simpa [Ne.symm hmac] using h
        rw [if_neg hmac]
        obtain ⟨frame, hlast, hmac', haccepts'⟩ := ih hold
        refine ⟨frame, hlast.snoc myMac xid fun _ hsame => hmac ?_, hmac', haccepts'⟩
        rw [hsource, hsame, hmac']

/-! ## Other frames in between -/

/-- The second list is the first one with frames inserted that have a property. -/
inductive Inserted (P : Slice → Prop) : List Slice → List Slice → Prop
  | nil : Inserted P [] []
  | keep (frame : Slice) {frames more : List Slice} (h : Inserted P frames more) :
      Inserted P (frame :: frames) (frame :: more)
  | insert {frame : Slice} (hframe : P frame) {frames more : List Slice}
      (h : Inserted P frames more) : Inserted P frames (frame :: more)

/-- Frames that are not accepted add no answer. -/
theorem answers_inserted {frames more : List Slice}
    (h : Inserted (fun frame => ¬ Accepted myMac xid frame) frames more) :
    answers myMac xid more = answers myMac xid frames := by
  induction h with
  | nil => rfl
  | keep frame h ih =>
    unfold answers at ih ⊢
    rw [List.filterMap_cons, List.filterMap_cons, ih]
  | @insert frame hframe frames more h ih =>
    have hnone : accepted myMac xid frame = none := by
      rw [← Option.not_isSome_iff_eq_none, accepted_isSome]
      exact hframe
    unfold answers at ih ⊢
    rw [List.filterMap_cons_none hnone, ih]

/-- **Discovery aggregation.**  One device for each address that answered, in the order of the first
    accepted frames, and each the parse of the last accepted frame of its address; frames that are
    not accepted change nothing, wherever they are inserted. -/
theorem discovery_aggregates (frames : List Slice) :
    (∃ devices, aggregateResponses (bytesOf frames) myMac xid = .ok devices
      ∧ (devices.map (·.mac)).Nodup
      ∧ devices.map (·.mac) = firstSeen
        ((frames.filter fun frame => Accepted myMac xid frame).map fun frame => source frame.val)
      ∧ ∀ device ∈ devices, ∃ frame, LastAccepted myMac xid frames frame
        ∧ source frame.val = device.mac ∧ Accepts myMac xid frame.val device)
    ∧ ∀ more, Inserted (fun frame => ¬ Accepted myMac xid frame) frames more →
      aggregateResponses (bytesOf more) myMac xid
        = aggregateResponses (bytesOf frames) myMac xid := by
  constructor
  · have hmacs : ((firstSeen ((answers myMac xid frames).map (·.mac))).map
        (latest (answers myMac xid frames))).map (·.mac)
        = firstSeen ((answers myMac xid frames).map (·.mac)) := by
      rw [List.map_map]
      exact (List.map_congr_left fun mac _ => latest_mac _ mac).trans (List.map_id _)
    refine ⟨_, aggregateResponses_eq myMac xid frames, ?_, ?_, ?_⟩
    · rw [hmacs]
      exact nodup_firstSeen _
    · rw [hmacs, answers_macs]
    · intro device hdevice
      obtain ⟨mac, hmac, rfl⟩ := List.mem_map.mp hdevice
      rw [latest_mac]
      exact latest_answer myMac xid (mem_firstSeen.mp hmac)
  · intro more hmore
    rw [aggregateResponses_eq, aggregateResponses_eq, answers_inserted myMac xid hmore]

/-- A frame of one byte. -/
def runt : Slice := ⟨[0xFF], by decide⟩

/-- The controller of the example. -/
def benchController : Mac := ⟨[2, 0, 0, 0, 0, 0x2A], rfl⟩

/-- A station answers the request 7 of a controller, with its address. -/
def benchIdentify (controller station ip : UInt8) : Slice :=
  ⟨[2, 0, 0, 0, 0, controller, 2, 0, 0, 0, 0, station, 0x88, 0x92, 0xFE, 0xFF, 5, 1, 0, 0, 0, 7, 0, 0,
    0, 18, 1, 2, 0, 14, 0, 1, 192, 168, 0, ip, 255, 255, 255, 0, 0, 0, 0, 0], (by decide : 44 < 2 ^ 63)⟩

/-- What is known of it then. -/
def benchStation (station ip : UInt8) : DcpDevice :=
  { DcpDevice.ofMac ⟨[2, 0, 0, 0, 0, station], rfl⟩ with
    ip := ⟨[192, 168, 0, ip], rfl⟩
    netmask := ⟨[255, 255, 255, 0], rfl⟩
    ipBlockInfo := some 1 }

/-- Two stations, of which the first answers again with another address; a runt and the answer to
    another controller in between. -/
theorem discovery_aggregates_bench :
    aggregateResponses (bytesOf [benchIdentify 0x2A 0x12 5, runt, benchIdentify 0x2A 0x13 6,
        benchIdentify 0x29 0x14 7, benchIdentify 0x2A 0x12 8]) benchController 7
      = .ok [benchStation 0x12 8, benchStation 0x13 6] := by
  have hrunt : ¬ Accepted benchController 7 runt := by
    rintro ⟨device, h⟩
    exact absurd h.long (by decide)
  have hforeign : ¬ Accepted benchController 7 (benchIdentify 0x29 0x14 7) := by
    rintro ⟨device, h⟩
    exact absurd h.addressed (by decide)
  refine ((discovery_aggregates benchController 7
    [benchIdentify 0x2A 0x12 5, benchIdentify 0x2A 0x13 6, benchIdentify 0x2A 0x12 8]).2 _
      (.keep _ (.insert hrunt (.keep _ (.insert hforeign (.keep _ .nil)))))).trans ?_
  decide +kernel

end Profinet.Dcp
