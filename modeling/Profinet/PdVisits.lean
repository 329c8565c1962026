/-
  VISITS: which nested blocks of a record the two loops of the parser come to.

  `OuterAt` and `NestedAt` are the offsets the loops reach, step by step: each block sends the loop
  to where its own length says it ends, whatever stands there.  What the parser finds in a record is
  what it reads at the nested blocks it visits, and all of that (`found_visiting`).
-/
import Profinet.PdReal

namespace Profinet.Im

open Checked

/-- A block header begins at `off`. -/
def Heads (data : List UInt8) (off : Nat) (header : BlockHeader) : Prop :=
  parseBlockHeader data off = .ok (.ok (header, ⟨off + 6, rfl⟩))

/-- The loop over the blocks comes to `off`. -/
inductive OuterAt (data : List UInt8) : Nat → Prop
  | first : OuterAt data 0
  | next {off len : Nat} {header : BlockHeader} : OuterAt data off → off + 6 ≤ data.length →
      Heads data off header → header.bodyLength = .ok len → OuterAt data (off + 6 + len)

/-- The loop over the nested blocks of a subslot, which end at `blockEnd`, comes to `off`. -/
inductive NestedAt (data : List UInt8) (slot subslot : UInt16) (blockEnd : Nat) : Nat → Prop
  | first {off len : Nat} {header : BlockHeader} {api : UInt32} {nested : Sum (off + 6) 10} :
      OuterAt data off → off + 6 ≤ data.length → Heads data off header →
      header.blockType = blockMultipleHeader → header.bodyLength = .ok len →
      off + 6 + len = blockEnd →
      parseMultipleBlockHeader data (off + 6) = .ok (.ok (api, slot, subslot, nested)) →
      NestedAt data slot subslot blockEnd nested
  | next {off len : Nat} {header : BlockHeader} : NestedAt data slot subslot blockEnd off →
      off + 6 ≤ blockEnd → Heads data off header → header.bodyLength = .ok len →
      NestedAt data slot subslot blockEnd (off + 6 + len)

/-- A nested block with this header is visited at `off`. -/
def Visited (data : List UInt8) (slot subslot : UInt16) (header : BlockHeader) (off : Nat) : Prop :=
  ∃ blockEnd, NestedAt data slot subslot blockEnd off ∧ off + 6 ≤ blockEnd ∧ Heads data off header

/-- A visited nested block adds this. -/
def Adds (data : List UInt8) (adds : PdRealData) : Prop :=
  ∃ slot subslot header off, Visited data slot subslot header off
    ∧ nestedBlock data slot subslot header.blockType (off + 6) = .ok adds

/-- All that was found was added by visited blocks. -/
structure Seen (data : List UInt8) (found : PdRealData) : Prop where
  ports : ∀ port ∈ found.ports, ∃ adds, Adds data adds ∧ port ∈ adds.ports
  interface : ∀ i, found.interface = some i → ∃ adds, Adds data adds ∧ adds.interface = some i

section Seen

variable {data : List UInt8} {a b : PdRealData}

/-- Slots and raw blocks need not be seen. -/
theorem seen_none (hports : a.ports = []) (hinterface : a.interface = none) : Seen data a where
  ports port h := by
    rw [hports] at h
    cases h
  interface i h := by
    rw [hinterface] at h
    cases h

theorem seen_empty : Seen data .empty := seen_none rfl rfl

theorem Adds.seen (h : Adds data a) : Seen data a where
  ports _ hport := ⟨a, h, hport⟩
  interface _ hi := ⟨a, h, hi⟩

theorem Seen.append (ha : Seen data a) (hb : Seen data b) : Seen data (a.append b) where
  ports port hport := by
    rcases List.mem_append.mp hport with hport | hport
    · exact ha.ports port hport
    · exact hb.ports port hport
  interface i hi := by
    have hi : (b.interface <|> a.interface) = some i := hi
    cases hlast : b.interface with
    | some j =>
      rw [hlast] at hi
      exact hb.interface i (hlast.trans hi)
    | none =>
      rw [hlast] at hi
      exact ha.interface i hi

end Seen

/-! ## One step of each loop

  The two loops, one step each: a step either ends the loop or sends it on to the end of a
  block. -/

section Steps

variable {data : List UInt8} (hdata : data.length < 2 ^ 63) {off : Nat}
  (hoff : off ≤ data.length + 65536)
include hdata hoff

theorem Heads.inside {header : BlockHeader} (h : Heads data off header) : off + 6 ≤ data.length := by
  obtain ⟨r, hr, hinside⟩ := parseBlockHeader_returns hdata hoff
  have heq : r = .ok (header, ⟨off + 6, rfl⟩) := Except.ok.inj (hr.symm.trans h)
  exact hinside header _ heq

/-- A nested block adds what is read of it, and the loop goes on behind it. -/
theorem nestedFrom_next (slot subslot : UInt16) {blockEnd len : Nat} {header : BlockHeader}
    (hmore : off + 6 ≤ blockEnd) (hhead : Heads data off header)
    (hlen : header.bodyLength = .ok len) :
    ∃ adds names more, nestedBlock data slot subslot header.blockType (off + 6) = .ok adds
      ∧ nestedFrom data slot subslot blockEnd (off + 6 + len) = .ok (names, more)
      ∧ nestedFrom data slot subslot blockEnd off
        = .ok (header.typeName :: names, adds.append more) := by
  have hinside := hhead.inside hdata hoff
  obtain ⟨n, hn, hlt⟩ := bodyLength_returns header
  have hsame : n = len := Except.ok.inj (hn.symm.trans hlen)
  obtain ⟨adds, hadds, -⟩ := nestedBlock_safe hdata hinside slot subslot header.blockType
  have hnext : off + 6 + len ≤ data.length + 65536 := by omega
  obtain ⟨⟨names, more⟩, hrest, -⟩ := nestedFrom_safe hdata slot subslot blockEnd hnext
  refine ⟨adds, names, more, hadds, hrest, ?_⟩
  rw [nestedFrom, add_ok (by omega), ok_bind, if_pos hmore, hhead, ok_bind]
  dsimp only
  rw [hlen, ok_bind, add_ok (by omega), ok_bind]
  dsimp only
  rw [hadds, ok_bind, hrest]
  rfl

theorem nestedFrom_stop (slot subslot : UInt16) {blockEnd : Nat}
    (h : ∀ header, off + 6 ≤ blockEnd → ¬ Heads data off header) :
    nestedFrom data slot subslot blockEnd off = .ok ([], .empty) := by
  rw [nestedFrom, add_ok (by omega), ok_bind]
  by_cases hmore : off + 6 ≤ blockEnd
  · obtain ⟨r, hr, -⟩ := parseBlockHeader_returns hdata hoff
    rw [if_pos hmore, hr, ok_bind]
    rcases r with error | ⟨header, body, hbody⟩
    · rfl
    · subst hbody
      exact absurd hr (h header hmore)
  · rw [if_neg hmore]
    rfl

omit hoff in
/-- A block adds what is found in it, and the loop goes on behind it. -/
theorem pdBlocksFrom_next {len : Nat} {header : BlockHeader} (hmore : off + 6 ≤ data.length)
    (hhead : Heads data off header) (hlen : header.bodyLength = .ok len) :
    ∃ found more, multipleBlock data header.blockType (off + 6) (off + 6 + len) = .ok found
      ∧ pdBlocksFrom data (off + 6 + len) = .ok more
      ∧ pdBlocksFrom data off = .ok (found.append more) := by
  obtain ⟨n, hn, hlt⟩ := bodyLength_returns header
  have hsame : n = len := Except.ok.inj (hn.symm.trans hlen)
  have hnext : off + 6 + len ≤ data.length + 65536 := by omega
  obtain ⟨found, hfound, -⟩ :=
    multipleBlock_safe hdata header.blockType hmore (Nat.le_add_right _ len)
  obtain ⟨more, hrest, -⟩ := pdBlocksFrom_safe hdata hnext
  refine ⟨found, more, hfound, hrest, ?_⟩
  rw [pdBlocksFrom, add_ok (by omega), ok_bind, if_pos hmore, hhead, ok_bind]
  dsimp only
  rw [hlen, ok_bind, add_ok (by omega), ok_bind]
  dsimp only
  rw [hfound, ok_bind, hrest]
  rfl

theorem pdBlocksFrom_stop (h : ∀ header, off + 6 ≤ data.length → ¬ Heads data off header) :
    pdBlocksFrom data off = .ok .empty := by
  rw [pdBlocksFrom, add_ok (by omega), ok_bind]
  by_cases hmore : off + 6 ≤ data.length
  · obtain ⟨r, hr, -⟩ := parseBlockHeader_returns hdata hoff
    rw [if_pos hmore, hr, ok_bind]
    rcases r with error | ⟨header, body, hbody⟩
    · rfl
    · subst hbody
      exact absurd hr (h header hmore)
  · rw [if_neg hmore]
    rfl

omit hoff in
/-- A MultipleBlockHeader adds what its nested blocks add. -/
theorem multipleBlock_nested {blockEnd : Nat} {api : UInt32} {slot subslot : UInt16}
    {nested : Sum off 10} (hend : off ≤ blockEnd) (hinside : off ≤ data.length)
    (hhead : parseMultipleBlockHeader data off = .ok (.ok (api, slot, subslot, nested))) :
    ∃ names found raw, nestedFrom data slot subslot blockEnd nested = .ok (names, found)
      ∧ multipleBlock data blockMultipleHeader off blockEnd
        = .ok (found.append { PdRealData.empty with
            slots := [{ slot := slot, subslot := subslot, api := api, moduleIdent := 0,
                        submoduleIdent := 0, blocks := names }]
            rawBlocks := [(api, slot, subslot, raw)] }) := by
  have hnested := nested.2
  have hoff : (nested : Nat) ≤ data.length + 65536 := by omega
  obtain ⟨⟨names, found⟩, hfound, -⟩ := nestedFrom_safe hdata slot subslot blockEnd hoff
  refine ⟨names, found, (data.drop off).take (min blockEnd data.length - off), hfound, ?_⟩
  unfold multipleBlock
  rw [if_pos rfl, hhead, ok_bind]
  dsimp only
  rw [hfound, ok_bind]
  dsimp only
  rw [slice_ok (by omega) (Nat.min_le_right _ _), ok_bind]
  rfl

end Steps

/-! ## What is found is what is visited

  By induction along the loops: what the rest of the record adds, and what the block at hand
  adds. -/

section Visits

variable {data : List UInt8} (hdata : data.length < 2 ^ 63)
include hdata

omit hdata in
theorem OuterAt.le {off : Nat} (h : OuterAt data off) : off ≤ data.length + 65536 := by
  cases h with
  | first => exact Nat.zero_le _
  | next _ hmore _ hlen =>
    obtain ⟨n, hn, hlt⟩ := bodyLength_returns _
    have hsame := Except.ok.inj (hn.symm.trans hlen)
    omega

theorem NestedAt.le {slot subslot : UInt16} {blockEnd off : Nat}
    (h : NestedAt data slot subslot blockEnd off) : off ≤ data.length + 65536 := by
  induction h with
  | @first off _ _ _ nested _ hmore =>
    have hnested := nested.2
    omega
  | next _ _ hhead hlen ih =>
    have hinside := hhead.inside hdata ih
    obtain ⟨n, hn, hlt⟩ := bodyLength_returns _
    have hsame := Except.ok.inj (hn.symm.trans hlen)
    omega

/-- The loop over nested blocks finds nothing but what they add. -/
theorem nestedFrom_seen {slot subslot : UInt16} {blockEnd off : Nat}
    (h : NestedAt data slot subslot blockEnd off) {names : List String} {found : PdRealData}
    (hfound : nestedFrom data slot subslot blockEnd off = .ok (names, found)) : Seen data found := by
  -- by recursion on what is left of the subslot's block, as the loop itself
  have hoff := h.le hdata
  by_cases hstop : ∀ header, off + 6 ≤ blockEnd → ¬ Heads data off header
  · rw [nestedFrom_stop hdata hoff slot subslot hstop] at hfound
    cases hfound
    exact seen_empty
  · push Not at hstop
    obtain ⟨header, hmore, hhead⟩ := hstop
    obtain ⟨len, hlen, -⟩ := bodyLength_returns header
    obtain ⟨adds, names', more, hadds, hrest, hall⟩ :=
      nestedFrom_next hdata hoff slot subslot hmore hhead hlen
    rw [hall] at hfound
    cases hfound
    have hseen : Adds data adds := ⟨slot, subslot, header, off, ⟨blockEnd, h, hmore, hhead⟩, hadds⟩
    exact hseen.seen.append (nestedFrom_seen (h.next hmore hhead hlen) hrest)
  termination_by blockEnd - off
  decreasing_by omega

theorem multipleBlock_seen {off len : Nat} {header : BlockHeader} (h : OuterAt data off)
    (hmore : off + 6 ≤ data.length) (hhead : Heads data off header)
    (hlen : header.bodyLength = .ok len) {found : PdRealData}
    (hfound : multipleBlock data header.blockType (off + 6) (off + 6 + len) = .ok found) :
    Seen data found := by
  by_cases htype : header.blockType = blockMultipleHeader
  · have hbody : off + 6 ≤ data.length + 65536 := by omega
    obtain ⟨r, hr, -⟩ := parseMultipleBlockHeader_safe hdata hbody
    rcases r with error | ⟨api, slot, subslot, nested⟩
    · unfold multipleBlock at hfound
      rw [if_pos htype, hr, ok_bind] at hfound
      cases hfound
      exact seen_empty
    · obtain ⟨names, more, raw, hnested, hall⟩ := multipleBlock_nested hdata
        (Nat.le_add_right _ len) hmore hr
      rw [htype, hall] at hfound
      cases hfound
      have hfirst := NestedAt.first h hmore hhead htype hlen rfl hr
      exact (nestedFrom_seen hdata hfirst hnested).append (seen_none rfl rfl)
  · unfold multipleBlock at hfound
    rw [if_neg htype] at hfound
    cases hfound
    exact seen_empty

/-- The loop over the blocks finds nothing but what their nested blocks add. -/
theorem pdBlocksFrom_seen {off : Nat} (h : OuterAt data off) {found : PdRealData}
    (hfound : pdBlocksFrom data off = .ok found) : Seen data found := by
  have hoff := h.le
  by_cases hstop : ∀ header, off + 6 ≤ data.length → ¬ Heads data off header
  · rw [pdBlocksFrom_stop hdata hoff hstop] at hfound
    cases hfound
    exact seen_empty
  · push Not at hstop
    obtain ⟨header, hmore, hhead⟩ := hstop
    obtain ⟨len, hlen, -⟩ := bodyLength_returns header
    obtain ⟨adds, more, hadds, hrest, hall⟩ := pdBlocksFrom_next hdata hmore hhead hlen
    rw [hall] at hfound
    cases hfound
    exact (multipleBlock_seen hdata h hmore hhead hlen hadds).append
      (pdBlocksFrom_seen (h.next hmore hhead hlen) hrest)
  termination_by data.length - off
  decreasing_by omega

/-! And all of it. -/

/-- What a part of the walk has found is found by the whole: the ports, and an interface. -/
structure Within (part whole : PdRealData) : Prop where
  ports : ∀ port ∈ part.ports, port ∈ whole.ports
  interface : part.interface.isSome → whole.interface.isSome

omit hdata in
theorem Within.trans {a b c : PdRealData} (h : Within a b) (h' : Within b c) : Within a c where
  ports port hport := h'.ports port (h.ports port hport)
  interface hi := h'.interface (h.interface hi)

omit hdata in
/-- Of two interfaces the later one stays, but one stays. -/
theorem within_append (a b : PdRealData) : Within a (a.append b) ∧ Within b (a.append b) := by
  have hinterface : (a.append b).interface = (b.interface <|> a.interface) := rfl
  refine ⟨⟨fun port hport => List.mem_append_left _ hport, fun hi => ?_⟩,
    ⟨fun port hport => List.mem_append_right _ hport, fun hi => ?_⟩⟩
  · rw [hinterface]
    cases b.interface with
    | some i => rfl
    | none => exact hi
  · rw [hinterface]
    cases hb : b.interface with
    | some i => rfl
    | none =>
      rw [hb] at hi
      cases hi

variable {whole : PdRealData} (hwhole : parsePdRealData data = .ok whole)
include hwhole

theorem OuterAt.found {off : Nat} (h : OuterAt data off) :
    ∃ part, pdBlocksFrom data off = .ok part ∧ Within part whole := by
  induction h with
  | first => exact ⟨whole, hwhole, fun _ hport => hport, id⟩
  | next hbefore hmore hhead hlen ih =>
    obtain ⟨part, hpart, hin⟩ := ih
    obtain ⟨found, more, -, hrest, hall⟩ :=
      pdBlocksFrom_next hdata hmore hhead hlen
    rw [hall] at hpart
    cases hpart
    exact ⟨more, hrest, (within_append found more).2.trans hin⟩

theorem NestedAt.found {slot subslot : UInt16} {blockEnd off : Nat}
    (h : NestedAt data slot subslot blockEnd off) :
    ∃ names part, nestedFrom data slot subslot blockEnd off = .ok (names, part)
      ∧ Within part whole := by
  induction h with
  | first hbefore hmore hhead htype hlen hend hr =>
    -- the outer loop was at this block, and what it found begins with what is nested in it
    subst hend
    obtain ⟨part, hpart, hin⟩ := hbefore.found hdata hwhole
    obtain ⟨found, more, hfound, -, hall⟩ :=
      pdBlocksFrom_next hdata hmore hhead hlen
    obtain ⟨names, inner, raw, hnested, hblock⟩ :=
      multipleBlock_nested hdata (Nat.le_add_right _ _) hmore hr
    rw [htype, hblock] at hfound
    rw [hall] at hpart
    cases hfound
    cases hpart
    exact ⟨names, inner, hnested, (within_append inner _).1.trans ((within_append _ more).1.trans hin)⟩
  | next hbefore hmore hhead hlen ih =>
    obtain ⟨names, part, hpart, hin⟩ := ih
    obtain ⟨adds, names', more, -, hrest, hall⟩ :=
      nestedFrom_next hdata (hbefore.le hdata) slot subslot hmore hhead hlen
    rw [hall] at hpart
    cases hpart
    exact ⟨names', more, hrest, (within_append adds more).2.trans hin⟩

/-- What a visited block adds is found. -/
theorem Adds.within {adds : PdRealData} (h : Adds data adds) : Within adds whole := by
  obtain ⟨slot, subslot, header, off, ⟨blockEnd, h, hmore, hhead⟩, hadds⟩ := h
  obtain ⟨len, hlen, -⟩ := bodyLength_returns header
  obtain ⟨names, part, hpart, hin⟩ := h.found hdata hwhole
  obtain ⟨adds', names', more, hadds', -, hall⟩ :=
    nestedFrom_next hdata (h.le hdata) slot subslot hmore hhead hlen
  rw [hadds] at hadds'
  rw [hall] at hpart
  cases hadds'
  cases hpart
  exact (within_append adds more).1.trans hin

/-- **A port is found exactly where a visited block adds it.** -/
theorem port_found_iff (port : PortInfo) :
    port ∈ whole.ports ↔ ∃ adds, Adds data adds ∧ port ∈ adds.ports := by
  constructor
  · intro h
    exact (pdBlocksFrom_seen hdata .first hwhole).ports port h
  · rintro ⟨adds, hadds, hport⟩
    exact (hadds.within hdata hwhole).ports port hport

/-- An interface is one that a visited block adds. -/
theorem interface_found {i : InterfaceInfo} (h : whole.interface = some i) :
    ∃ adds, Adds data adds ∧ adds.interface = some i :=
  (pdBlocksFrom_seen hdata .first hwhole).interface i h

/-- And there is one if a visited block adds any. -/
theorem interface_isSome {adds : PdRealData} (h : Adds data adds)
    (hi : adds.interface.isSome) : whole.interface.isSome :=
  (h.within hdata hwhole).interface hi

end Visits

/-- The parser returns what the visited blocks of the record add: the ports, and the interface of
    one of them, if any has one. -/
structure FoundVisiting (data : List UInt8) (whole : PdRealData) : Prop where
  parsed : parsePdRealData data = .ok whole
  ports : ∀ port, port ∈ whole.ports ↔ ∃ adds, Adds data adds ∧ port ∈ adds.ports
  interface : ∀ i, whole.interface = some i → ∃ adds, Adds data adds ∧ adds.interface = some i
  isSome : ∀ adds, Adds data adds → adds.interface.isSome → whole.interface.isSome

/-- **What is found in a record is what is read at the nested blocks visited.** -/
theorem found_visiting {data : List UInt8} (hdata : data.length < 2 ^ 63) :
    ∃ whole, FoundVisiting data whole := by
  obtain ⟨whole, hwhole, -⟩ := parsePdRealData_safe hdata
  exact ⟨whole, hwhole, port_found_iff hdata hwhole, fun _ => interface_found hdata hwhole,
    fun _ => interface_isSome hdata hwhole⟩

end Profinet.Im
