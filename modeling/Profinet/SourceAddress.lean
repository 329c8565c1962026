/-
  SOURCE ADDRESS: which of its addresses a host talks to a device from.

  An interface can carry several addresses.  The choice is the first whose network is known and
  holds the device, or else the first at all, and then a note says that it may not work.  A process
  opens several transports and chooses for each, but says a note once:

      pick_source_ipv4      the choice
      chosen_source         the choice, or the address that the command line pins
      report_source_note    a line of the protocol, or standard error

  `source_addresses`: over any sequence of choices, what is chosen and what is said.
-/
import Profinet.Address
import Profinet.Lib.Machine
import Profinet.Lib.Wire

namespace Profinet.Source

open Wire Util

/-! ## The choice -/

/-- An address of an interface; nothing of an IPv6 address is read. -/
inductive IpAddr where
  | v4 (octets : Bytes 4)
  | v6
  deriving DecidableEq

/-- One address of an interface. -/
structure IfaceAddress where
  addr : IpAddr
  netmask : Option IpAddr
  deriving DecidableEq

/-- The address chosen for a destination, and whether its network holds it. -/
structure SourceAddress where
  ip : Bytes 4
  reachesTarget : Bool
  deriving DecidableEq

/-- Whether two IPv4 addresses share a network under `mask`. -/
def sameNetwork (a b mask : Bytes 4) : Bool :=
  (List.range 4).all fun i =>
    a.val.getD i 0 &&& mask.val.getD i 0 = b.val.getD i 0 &&& mask.val.getD i 0

/-- An IPv4 address, with its mask if that is one. -/
def IfaceAddress.ipv4 (a : IfaceAddress) : Option (Bytes 4 × Option (Bytes 4)) :=
  match a.addr, a.netmask with
  | .v4 ip, some (.v4 mask) => some (ip, some mask)
  | .v4 ip, _ => some (ip, none)
  | .v6, _ => none

/-- A mask of 0.0.0.0 counts as unknown. -/
def reaches (dst : Bytes 4) (e : Bytes 4 × Option (Bytes 4)) : Bool :=
  e.2.any fun mask => mask.val ≠ [0, 0, 0, 0] && sameNetwork e.1 dst mask

/-- `pick_source_ipv4`: an address whose network holds the destination, or else the first. -/
def pickSourceIpv4 (addresses : List IfaceAddress) (dst : Bytes 4) : Option SourceAddress :=
  let v4 := addresses.filterMap IfaceAddress.ipv4
  match v4.find? (reaches dst) with
  | some e => some ⟨e.1, true⟩
  | none => v4.head?.map fun e => ⟨e.1, false⟩

/-- The network of an address under a mask: what agrees with it where the mask has ones. -/
def network (ip mask : Bytes 4) : Set (Bytes 4) :=
  { x | ∀ i < 4, ip.val.getD i 0 &&& mask.val.getD i 0 = x.val.getD i 0 &&& mask.val.getD i 0 }

/-- Its network is known, and holds the destination. -/
def IfaceAddress.Holds (a : IfaceAddress) (dst : Bytes 4) : Prop :=
  ∃ ip mask, a.addr = .v4 ip ∧ a.netmask = some (.v4 mask) ∧ mask.val ≠ [0, 0, 0, 0] ∧
    dst ∈ network ip mask

/-- What may be chosen. -/
inductive Chosen (addresses : List IfaceAddress) (dst : Bytes 4) : Option SourceAddress → Prop where
  /-- The first that holds the destination. -/
  | near {before after : List IfaceAddress} {a : IfaceAddress} {ip : Bytes 4}
      (hsplit : addresses = before ++ a :: after) (hip : a.addr = .v4 ip) (hnear : a.Holds dst)
      (hfirst : ∀ b ∈ before, ¬ b.Holds dst) : Chosen addresses dst (some ⟨ip, true⟩)
  /-- Where none does, the first IPv4 address. -/
  | far {before after : List IfaceAddress} {a : IfaceAddress} {ip : Bytes 4}
      (hsplit : addresses = before ++ a :: after) (hip : a.addr = .v4 ip)
      (hfirst : ∀ b ∈ before, b.addr = .v6) (hfar : ∀ b ∈ addresses, ¬ b.Holds dst) :
      Chosen addresses dst (some ⟨ip, false⟩)
  /-- There is no IPv4 address. -/
  | none (h : ∀ b ∈ addresses, b.addr = .v6) : Chosen addresses dst none

theorem sameNetwork_iff {ip dst mask : Bytes 4} :
    sameNetwork ip dst mask = true ↔ dst ∈ network ip mask := by
  unfold sameNetwork
  rw [List.all_eq_true]
  constructor
  · intro h i hi
    exact of_decide_eq_true (h i (List.mem_range.mpr hi))
  · intro h i hi
    exact decide_eq_true (h i (List.mem_range.mp hi))

theorem ipv4_eq_none {a : IfaceAddress} : a.ipv4 = none ↔ a.addr = .v6 := by
  obtain ⟨addr, netmask⟩ := a
  unfold IfaceAddress.ipv4
  cases addr with
  | v6 => simp
  | v4 ip =>
    cases netmask with
    | none => simp
    | some m => cases m <;> simp

theorem ipv4_addr {a : IfaceAddress} {e : Bytes 4 × Option (Bytes 4)} (h : a.ipv4 = some e) :
    a.addr = .v4 e.1 := by
  obtain ⟨addr, netmask⟩ := a
  unfold IfaceAddress.ipv4 at h
  cases addr with
  | v6 => cases h
  | v4 ip =>
    cases netmask with
    | none =>
      cases h
      rfl
    | some m =>
      cases m <;>
      · cases h
        rfl

/-- The test of the code is whether the network is known and holds the destination. -/
theorem reaches_iff {a : IfaceAddress} {dst : Bytes 4} :
    a.ipv4.any (reaches dst) = true ↔ a.Holds dst := by
  obtain ⟨addr, netmask⟩ := a
  unfold IfaceAddress.ipv4 IfaceAddress.Holds
  cases addr with
  | v6 => simp
  | v4 ip =>
    cases netmask with
    | none => simp [reaches]
    | some m =>
      cases m with
      | v6 => simp [reaches]
      | v4 mask => simp [reaches, sameNetwork_iff]

/-- **The choice is the first address that reaches the device, or else the first.** -/
theorem pick_chosen (addresses : List IfaceAddress) (dst : Bytes 4) :
    Chosen addresses dst (pickSourceIpv4 addresses dst) := by
  have hfind : (addresses.filterMap IfaceAddress.ipv4).find? (reaches dst)
      = (addresses.find? fun a => a.ipv4.any (reaches dst)).bind IfaceAddress.ipv4 :=
    List.find?_filterMap
  have hhead : (addresses.filterMap IfaceAddress.ipv4).head?
      = addresses.findSome? IfaceAddress.ipv4 := List.head?_filterMap
  unfold pickSourceIpv4
  simp only
  rw [hfind, hhead]
  cases hnear : addresses.find? fun a => a.ipv4.any (reaches dst) with
  | some a =>
    obtain ⟨hreaches, before, after, hsplit, hfirst⟩ := List.find?_eq_some_iff_append.mp hnear
    have hholds := reaches_iff.mp hreaches
    cases hip : a.ipv4 with
    | none =>
      rw [hip] at hreaches
      cases hreaches
    | some e =>
      rw [Option.bind_some, hip]
      refine .near hsplit (ipv4_addr hip) hholds ?_
      intro b hb hbholds
      have hno := hfirst b hb
      rw [reaches_iff.mpr hbholds] at hno
      cases hno
  | none =>
    have hfar : ∀ b ∈ addresses, ¬ b.Holds dst := fun b hb hbholds =>
      List.find?_eq_none.mp hnear b hb (reaches_iff.mpr hbholds)
    show Chosen addresses dst ((addresses.findSome? IfaceAddress.ipv4).map _)
    cases hfound : addresses.findSome? IfaceAddress.ipv4 with
    | none =>
      refine .none ?_
      intro b hb
      exact ipv4_eq_none.mp (List.findSome?_eq_none_iff.mp hfound b hb)
    | some e =>
      obtain ⟨before, a, after, hsplit, hip, hfirst⟩ := List.findSome?_eq_some_iff.mp hfound
      exact .far hsplit (ipv4_addr hip) (fun b hb => ipv4_eq_none.mp (hfirst b hb)) hfar

/-- A mask of zeros does not hold the device, and the network of the second address does. -/
example : pickSourceIpv4
    [⟨.v4 ⟨[10, 0, 0, 5], rfl⟩, some (.v4 ⟨[0, 0, 0, 0], rfl⟩)⟩,
      ⟨.v4 ⟨[192, 168, 0, 7], rfl⟩, some (.v4 ⟨[255, 255, 255, 0], rfl⟩)⟩] ⟨[192, 168, 0, 2], rfl⟩
    = some ⟨⟨[192, 168, 0, 7], rfl⟩, true⟩ := by
  decide

/-! ## What is said about it -/

/-- A look-up: the interface, as messages quote it, the addresses it is reported to have, and the
    destination. -/
structure Lookup where
  iface : String
  addresses : Except String (List IfaceAddress)
  dst : Bytes 4

/-- `get_ipv4_toward`. -/
def getIpv4Toward (q : Lookup) : Except String SourceAddress :=
  match q.addresses with
  | .error e => .error e
  | .ok addresses =>
    match pickSourceIpv4 addresses q.dst with
    | some chosen => .ok chosen
    | none => .error ("no IPv4 address on interface " ++ q.iface)

/-- What to say when the chosen address shares no network with the device. -/
def sourceAddressNote (chosen : SourceAddress) (dst : Bytes 4) : Option String :=
  if chosen.reachesTarget then none
  else some ("source address " ++ (s2ip chosen.ip.val).toOption.getD "" ++
    " shares no network with " ++ (s2ip dst.val).toOption.getD "" ++
    ": the device answers only if it accepts a source outside its own network")

/-- 0.0.0.0 is no address to pin. -/
def pinnedSourceIp (raw : UInt32) : Option (Bytes 4) :=
  if raw = 0 then none else some ⟨be32 raw, be32_length raw⟩

/-- The source address, and what to report about it. -/
def chosenSource (pinned : Option (Bytes 4)) (q : Lookup) : Except String (Bytes 4 × Option String) :=
  match pinned with
  | some ip => .ok (ip, none)
  | none => (getIpv4Toward q).map fun chosen => (chosen.ip, sourceAddressNote chosen q.dst)

/-- Where a note goes: a line of the protocol, or standard error. -/
inductive Note where
  | line (note : String)
  | stderr (note : String)
  deriving DecidableEq

/-- The process: what the command line settled, and whether the note has gone out. -/
structure Process where
  sourceIp : UInt32
  serveMode : Bool
  said : Bool

namespace Process

/-- Where the note goes: serve mode keeps stdout for its lines. -/
def channel (p : Process) (note : String) : Note := if p.serveMode then .line note else .stderr note

/-- The note is made once per process. -/
def reportSourceNote (p : Process) (note : String) : List Note × Process :=
  if p.said then ([], p) else ([p.channel note], { p with said := true })

/-- `source_address`: the address pinned on the command line, or the one looked up. -/
def sourceAddress (p : Process) (q : Lookup) : (Except String (Bytes 4) × List Note) × Process :=
  match chosenSource (pinnedSourceIp p.sourceIp) q with
  | .error e => ((.error e, []), p)
  | .ok (ip, none) => ((.ok ip, []), p)
  | .ok (ip, some note) =>
    let (notes, p) := p.reportSourceNote note
    ((.ok ip, notes), p)

end Process

/-! ## A whole process -/

/-- The note of a choice. -/
def noteOf (outcome : Except String (Bytes 4 × Option String)) : Option String :=
  outcome.toOption.bind Prod.snd

/-- What a look-up comes to. -/
inductive Answers (pinned : Option (Bytes 4)) (q : Lookup) :
    Except String (Bytes 4 × Option String) → Prop where
  /-- The caller overrode the choice. -/
  | pinned {ip : Bytes 4} (h : pinned = some ip) : Answers pinned q (.ok (ip, none))
  /-- The interface is not there. -/
  | unlisted {e : String} (h : pinned = none) (hlist : q.addresses = .error e) :
      Answers pinned q (.error e)
  | without {addresses : List IfaceAddress} (h : pinned = none) (hlist : q.addresses = .ok addresses)
      (hnone : Chosen addresses q.dst none) :
      Answers pinned q (.error ("no IPv4 address on interface " ++ q.iface))
  | chosen {addresses : List IfaceAddress} {chosen : SourceAddress} (h : pinned = none)
      (hlist : q.addresses = .ok addresses) (hchosen : Chosen addresses q.dst (some chosen)) :
      Answers pinned q (.ok (chosen.ip, sourceAddressNote chosen q.dst))

theorem chosenSource_answers (pinned : Option (Bytes 4)) (q : Lookup) :
    Answers pinned q (chosenSource pinned q) := by
  cases pinned with
  | some ip => exact .pinned rfl
  | none =>
    unfold chosenSource getIpv4Toward
    cases hlist : q.addresses with
    | error e => exact .unlisted rfl hlist
    | ok addresses =>
      have hpick := pick_chosen addresses q.dst
      simp only
      cases hchosen : pickSourceIpv4 addresses q.dst with
      | none =>
        rw [hchosen] at hpick
        exact .without rfl hlist hpick
      | some chosen =>
        rw [hchosen] at hpick
        exact .chosen rfl hlist hpick

/-- One choice: it comes back as it was made, and its note goes out if it is the first. -/
theorem sourceAddress_spec (p : Process) (q : Lookup) :
    let outcome := chosenSource (pinnedSourceIp p.sourceIp) q
    p.sourceAddress q = ((outcome.map Prod.fst,
        if p.said then [] else (noteOf outcome).toList.map p.channel),
      { p with said := p.said || (noteOf outcome).isSome }) := by
  intro outcome
  unfold Process.sourceAddress
  obtain ⟨sourceIp, serveMode, said⟩ := p
  simp only [outcome]
  rcases chosenSource (pinnedSourceIp sourceIp) q with e | ⟨ip, _ | note⟩
  · cases said <;> rfl
  · cases said <;> rfl
  · cases said <;> rfl

/-- Over a run every choice is made as the only one would be, and the first note alone is said. -/
theorem sourceAddress_run (p : Process) (lookups : List Lookup) :
    (Machine.total Process.sourceAddress p lookups).1.map Prod.fst
        = lookups.map (fun q => (chosenSource (pinnedSourceIp p.sourceIp) q).map Prod.fst) ∧
      (Machine.total Process.sourceAddress p lookups).1.flatMap Prod.snd
        = (((lookups.map (chosenSource (pinnedSourceIp p.sourceIp))).filterMap noteOf).take
            (if p.said then 0 else 1)).map p.channel := by
  induction lookups generalizing p with
  | nil =>
    refine ⟨rfl, ?_⟩
    rw [List.map_nil, List.filterMap_nil, List.take_nil]
    rfl
  | cons q lookups ih =>
    have hstep := sourceAddress_spec p q
    simp only at hstep
    unfold Machine.total
    rw [hstep]
    obtain ⟨hresults, hnotes⟩ := ih { p with
      said := p.said || (noteOf (chosenSource (pinnedSourceIp p.sourceIp) q)).isSome }
    refine ⟨?_, ?_⟩
    · rw [List.map_cons, List.map_cons, hresults]
    · rw [List.flatMap_cons, hnotes, List.map_cons]
      -- the note of this choice, if it has one and none was said, is the one that goes out
      cases hnote : noteOf (chosenSource (pinnedSourceIp p.sourceIp) q) with
      | none =>
        rw [List.filterMap_cons_none hnote]
        cases p.said <;> rfl
      | some note =>
        rw [List.filterMap_cons_some hnote]
        cases p.said <;> rfl

/-- **The source addresses of a process.**  Whatever it looks up in turn: every choice is the pinned
    address, or the first address of the interface whose known network holds the device, or else its
    first IPv4 address; and of the notes of these choices the first goes out, once. -/
theorem source_addresses (p : Process) (lookups : List Lookup) :
    ∃ outcomes, List.Forall₂ (Answers (pinnedSourceIp p.sourceIp)) lookups outcomes ∧
      (Machine.total Process.sourceAddress p lookups).1.map Prod.fst
        = outcomes.map (Except.map Prod.fst) ∧
      (Machine.total Process.sourceAddress p lookups).1.flatMap Prod.snd
        = ((outcomes.filterMap noteOf).take (if p.said then 0 else 1)).map p.channel := by
  obtain ⟨hresults, hnotes⟩ := sourceAddress_run p lookups
  refine ⟨lookups.map (chosenSource (pinnedSourceIp p.sourceIp)), ?_, ?_, hnotes⟩
  · rw [List.forall₂_map_right_iff, List.forall₂_same]
    intro q _
    exact chosenSource_answers _ q
  · rw [hresults, List.map_map]
    rfl

end Profinet.Source
