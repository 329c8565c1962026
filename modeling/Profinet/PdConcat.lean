/-
  CONCATENATED RECORDS: when two records, one behind the other, are read like each of them.

  The walk over `A ++ B` is the walk over `A` with `B` behind it, and then the walk over `B` from
  where `A` ends.  Slots and raw blocks are found block by block.  A port is read from its body on,
  so two things can go wrong:

      the end of `A`    a port of `A` that the record cuts short goes on in `B` (`RecordClosed`)
      the start of `B`  a port of `B` is padded from the absolute offset, four bytes apart

  Both are also needed: floods of one byte behind `A`, and one port that counts its padding.
-/
import Profinet.PdLocality
import Profinet.PortRecord

namespace Profinet.Im

open Wire Checked

/-! ## What is found does not depend on the place, but for the ports -/

/-- Appending results is associative: every field is a list or a first choice. -/
theorem append_assoc (a b c : PdRealData) : (a.append b).append c = a.append (b.append c) := by
  have hinterface : (c.interface <|> (b.interface <|> a.interface))
      = ((c.interface <|> b.interface) <|> a.interface) := by
    cases c.interface with
    | some i => rfl
    | none => rfl
  unfold PdRealData.append
  rw [List.append_assoc, List.append_assoc, List.append_assoc, hinterface]

/-- The empty result is neutral. -/
theorem empty_append (a : PdRealData) : PdRealData.empty.append a = a := by
  rcases a with ⟨slots, interface, ports, rawBlocks⟩
  cases interface with
  | some i => rfl
  | none => rfl

/-- The same slots and raw blocks, and as many ports. -/
structure Alike (a b : PdRealData) : Prop where
  slots : a.slots = b.slots
  rawBlocks : a.rawBlocks = b.rawBlocks
  ports : a.ports.length = b.ports.length

/-- Every result agrees with itself. -/
theorem Alike.refl (a : PdRealData) : Alike a a := ⟨rfl, rfl, rfl⟩

/-- Appending keeps that agreement. -/
theorem Alike.append {a b c d : PdRealData} (h : Alike a b) (h' : Alike c d) :
    Alike (a.append c) (b.append d) where
  slots := congrArg₂ (· ++ ·) h.slots h'.slots
  rawBlocks := congrArg₂ (· ++ ·) h.rawBlocks h'.rawBlocks
  ports := by
    show (a.ports ++ c.ports).length = (b.ports ++ d.ports).length
    rw [List.length_append, List.length_append, h.ports, h'.ports]

/-- A nested block adds no slots and no raw blocks. -/
theorem readNested_frame (rest : List UInt8) (first : Nat) (slot subslot blockType : UInt16) :
    (readNested rest first slot subslot blockType).slots = []
      ∧ (readNested rest first slot subslot blockType).rawBlocks = [] := by
  unfold readNested
  by_cases hinterface : blockType = blockPdInterfaceDataReal
  · rw [if_pos hinterface]
    cases readInterface rest with
    | error e => exact ⟨rfl, rfl⟩
    | ok i => exact ⟨rfl, rfl⟩
  rw [if_neg hinterface]
  by_cases hport : blockType = blockPdPortDataReal
  · rw [if_pos hport]
    exact ⟨rfl, rfl⟩
  · rw [if_neg hport]
    exact ⟨rfl, rfl⟩

/-- Only a port block adds ports. -/
theorem readNested_ports_nil {rest : List UInt8} {first : Nat} {slot subslot blockType : UInt16}
    (h : blockType ≠ blockPdPortDataReal) :
    (readNested rest first slot subslot blockType).ports = [] := by
  unfold readNested
  rw [if_neg h]
  by_cases hinterface : blockType = blockPdInterfaceDataReal
  · rw [if_pos hinterface]
    cases readInterface rest with
    | error e => rfl
    | ok i => rfl
  · rw [if_neg hinterface]
    rfl

/-- What a nested block shows apart from its port numbers depends neither on what follows nor on
    where it stands. -/
theorem readNested_alike (rest rest' : List UInt8) (first first' : Nat)
    (slot subslot blockType : UInt16) :
    Alike (readNested rest first slot subslot blockType)
      (readNested rest' first' slot subslot blockType) where
  slots := by rw [(readNested_frame ..).1, (readNested_frame ..).1]
  rawBlocks := by rw [(readNested_frame ..).2, (readNested_frame ..).2]
  ports := by
    by_cases hport : blockType = blockPdPortDataReal
    · rw [readNested_port hport, readNested_port hport]
      rfl
    · rw [readNested_ports_nil hport, readNested_ports_nil hport]

/-- The same for the nested blocks of one header. -/
theorem nestedFound_alike (slot subslot : UInt16) (bs : List NestedBlock) (off off' : Nat)
    (after after' : List UInt8) :
    Alike (nestedFound slot subslot off bs after) (nestedFound slot subslot off' bs after') := by
  induction bs generalizing off off' with
  | nil => exact .refl _
  | cons b bs ih => exact (readNested_alike _ _ _ _ _ _ _).append (ih _ _)

/-- The same for one block of the record. -/
theorem RecordBlock.found_alike (b : RecordBlock) (off off' : Nat) (after after' : List UInt8) :
    Alike (b.found off after) (b.found off' after') := by
  cases b with
  | subslot b => exact (nestedFound_alike _ _ _ _ _ _ _).append (.refl _)
  | other b htype => exact .refl _

/-- The same for all blocks of a record. -/
theorem recordFound_alike (bs : List RecordBlock) (off off' : Nat) (after after' : List UInt8) :
    Alike (recordFound off bs after) (recordFound off' bs after') := by
  induction bs generalizing off off' with
  | nil => exact .refl _
  | cons b bs ih => exact (b.found_alike _ _ _ _).append (ih _ _)

/-! The ports depend on the place modulo 4. -/

/-- The offset of a header matters only up to alignment. -/
theorem nestedFound_mod (slot subslot : UInt16) (bs : List NestedBlock) {off off' : Nat}
    (h : off % 4 = off' % 4) (after : List UInt8) :
    nestedFound slot subslot off bs after = nestedFound slot subslot off' bs after := by
  induction bs generalizing off off' with
  | nil => rfl
  | cons b bs ih =>
    have hnext : (off + b.bytes.length) % 4 = (off' + b.bytes.length) % 4 := by omega
    rw [nestedFound, nestedFound, toAligned_mod off, toAligned_mod off', h, ih hnext]

/-- The offset of a record's blocks matters only up to alignment. -/
theorem recordFound_mod (bs : List RecordBlock) {off off' : Nat} (h : off % 4 = off' % 4)
    (after : List UInt8) : recordFound off bs after = recordFound off' bs after := by
  induction bs generalizing off off' with
  | nil => rfl
  | cons b bs ih =>
    have hnext : (off + b.bytes.length) % 4 = (off' + b.bytes.length) % 4 := by omega
    have hfound : b.found off (bs.flatMap RecordBlock.bytes ++ after)
        = b.found off' (bs.flatMap RecordBlock.bytes ++ after) := by
      cases b with
      | subslot b =>
        have hnested : (off + 16) % 4 = (off' + 16) % 4 := by omega
        show PdRealData.append _ _ = PdRealData.append _ _
        rw [nestedFound_mod b.slot b.subslot b.nested hnested]
      | other b htype => rfl
    rw [recordFound, recordFound, hfound, ih hnext]

/-- The walk over two records. -/
theorem recordFound_append (A B : List RecordBlock) (off : Nat) (after : List UInt8) :
    recordFound off (A ++ B) after
      = (recordFound off A (B.flatMap RecordBlock.bytes ++ after)).append
          (recordFound (off + (A.flatMap RecordBlock.bytes).length) B after) := by
  induction A generalizing off with
  | nil =>
    rw [List.nil_append, recordFound, empty_append]
    rfl
  | cons b A ih =>
    rw [List.cons_append, recordFound, recordFound, ih, append_assoc, List.flatMap_cons,
      List.length_append, List.flatMap_append, List.append_assoc, Nat.add_assoc]

/-! ## Records that close their ports -/

/-- Every port ends, by its own lengths and counts, in the blocks or in `after`. -/
def PortsClosed : Nat → List NestedBlock → List UInt8 → Prop
  | _, [], _ => True
  | off, b :: bs, after =>
    (b.blockType = blockPdPortDataReal →
      portEnd (b.body ++ (bs.flatMap NestedBlock.bytes ++ after)) (toAligned (off + 6))
        ≤ (b.body ++ (bs.flatMap NestedBlock.bytes ++ after)).length)
    ∧ PortsClosed (off + b.bytes.length) bs after

/-- A block of the record whose port blocks read nothing behind it. -/
def RecordBlock.Closed (off : Nat) (after : List UInt8) : RecordBlock → Prop
  | .subslot b => PortsClosed (off + 16) b.nested after
  | .other _ _ => True

/-- Every port ends in the record. -/
def RecordClosed : Nat → List RecordBlock → Prop
  | _, [] => True
  | off, b :: bs =>
    b.Closed off (bs.flatMap RecordBlock.bytes) ∧ RecordClosed (off + b.bytes.length) bs

/-- Closed port blocks show the same ports whatever follows. -/
theorem nestedFound_more {slot subslot : UInt16} {bs : List NestedBlock} {off : Nat}
    {after : List UInt8} (h : PortsClosed off bs after) (more : List UInt8) :
    (nestedFound slot subslot off bs (after ++ more)).ports
      = (nestedFound slot subslot off bs after).ports := by
  induction bs generalizing off with
  | nil => rfl
  | cons b bs ih =>
    obtain ⟨hb, hbs⟩ := h
    have hports : (readNested (b.body ++ (bs.flatMap NestedBlock.bytes ++ (after ++ more)))
          (toAligned (off + 6)) slot subslot b.blockType).ports
        = (readNested (b.body ++ (bs.flatMap NestedBlock.bytes ++ after)) (toAligned (off + 6)) slot
          subslot b.blockType).ports := by
      by_cases hport : b.blockType = blockPdPortDataReal
      · have hread := readPort_append more (hb hport) slot subslot
        rw [List.append_assoc, List.append_assoc] at hread
        rw [readNested_port hport, readNested_port hport, hread]
      · rw [readNested_ports_nil hport, readNested_ports_nil hport]
    rw [nestedFound, nestedFound, ports_append, ports_append, hports, ih hbs]

/-- A closed record shows the same ports whatever follows. -/
theorem recordFound_more {bs : List RecordBlock} {off : Nat} (h : RecordClosed off bs)
    (more : List UInt8) : (recordFound off bs more).ports = (recordFound off bs []).ports := by
  induction bs generalizing off with
  | nil => rfl
  | cons b bs ih =>
    obtain ⟨hb, hbs⟩ := h
    have hports : (b.found off (bs.flatMap RecordBlock.bytes ++ more)).ports
        = (b.found off (bs.flatMap RecordBlock.bytes ++ [])).ports := by
      cases b with
      | subslot b => rw [List.append_nil, RecordBlock.found, RecordBlock.found, found_ports,
          found_ports, nestedFound_more hb]
      | other b htype => rfl
    rw [recordFound, recordFound, ports_append, ports_append, hports, ih hbs]

/-! ## Records that do not are read on -/

/-- A port block is read alike with different bytes far behind it only where it ends before them. -/
theorem portsClosed_of_eq {slot subslot : UInt16} {bs : List NestedBlock} {off : Nat}
    {after x y : List UInt8} (hx : 140003 ≤ x.length) (hy : 140003 ≤ y.length)
    (hne : ∀ i < 140003, x.getD i 0 ≠ y.getD i 0)
    (h : (nestedFound slot subslot off bs (after ++ x)).ports
      = (nestedFound slot subslot off bs (after ++ y)).ports) : PortsClosed off bs after := by
  induction bs generalizing off with
  | nil => trivial
  | cons b bs ih =>
    have hlt := toAligned_lt (off + 6)
    rw [nestedFound, nestedFound, ports_append, ports_append] at h
    obtain ⟨hb, hbs⟩ := List.append_inj h (readNested_alike _ _ _ _ _ _ _).ports
    refine ⟨fun hport => ?_, ih hbs⟩
    rw [readNested_port hport, readNested_port hport, ← List.append_assoc, ← List.append_assoc,
      ← List.append_assoc, ← List.append_assoc] at hb
    rw [← List.append_assoc]
    exact portEnd_le_of_eq (by omega) (by omega) (fun i hi => hne i (by omega)) (List.cons.inj hb).1

/-- Two contexts that differ in every byte a port block can reach, and the same ports in both: the
    record is closed. -/
theorem recordClosed_of_eq {bs : List RecordBlock} {off : Nat} {x y : List UInt8}
    (hx : 140003 ≤ x.length) (hy : 140003 ≤ y.length)
    (hne : ∀ i < 140003, x.getD i 0 ≠ y.getD i 0)
    (h : (recordFound off bs x).ports = (recordFound off bs y).ports) : RecordClosed off bs := by
  induction bs generalizing off with
  | nil => trivial
  | cons b bs ih =>
    rw [recordFound, recordFound, ports_append, ports_append] at h
    obtain ⟨hb, hbs⟩ := List.append_inj h (b.found_alike _ _ _ _).ports
    refine ⟨?_, ih hbs⟩
    cases b with
    | subslot b =>
      rw [RecordBlock.found, RecordBlock.found, found_ports, found_ports] at hb
      exact portsClosed_of_eq hx hy hne hb
    | other b htype => trivial

/-- A block of nothing but `v`: its length too. -/
def flood (v : UInt8) : NestedBlock where
  blockType := ofBe16 v v
  versionHigh := v
  versionLow := v
  body := List.replicate (v.toNat * 257 - 2) v
  fits := by
    have hv := v.toNat_lt
    rw [List.length_replicate]
    omega

/-- The content of a flood is one byte value, repeated. -/
theorem flood_bytes {v : UInt8} (hv : v ≠ 0) :
    (flood v).bytes = List.replicate (v.toNat * 257 + 4) v := by
  have hpos : 0 < v.toNat := UInt8.pos_iff_ne_zero.mpr hv
  have hlt := v.toNat_lt
  have hword : be16 (ofBe16 v v) = [v, v] := be16_rdU16 [v, v] 0
  have hlen : UInt16.ofNat (2 + (List.replicate (v.toNat * 257 - 2) v).length) = ofBe16 v v := by
    rw [List.length_replicate]
    unfold ofBe16
    congr 1
    omega
  have hheader : (flood v).header.bytes = List.replicate 6 v := by
    show be16 (ofBe16 v v) ++ (be16 (UInt16.ofNat _) ++ ([v] ++ [v])) = _
    rw [show (flood v).body = List.replicate (v.toNat * 257 - 2) v from rfl, hlen, hword]
    rfl
  have hsum : v.toNat * 257 + 4 = 6 + (v.toNat * 257 - 2) := by omega
  rw [NestedBlock.bytes, hheader, hsum, List.replicate_add]
  rfl

/-- A flood is no multiple header. -/
theorem flood_other (v : UInt8) : (flood v).blockType ≠ blockMultipleHeader := by
  intro h
  have hbytes : [v, v] = [4, 0] := (be16_rdU16 [v, v] 0).symm.trans (congrArg be16 h)
  obtain ⟨hfour, hzero⟩ := List.cons.inj hbytes
  have hzero := (List.cons.inj hzero).1
  rw [hfour] at hzero
  cases hzero

/-- Three floods: more bytes than a port block can reach. -/
def floods (v : UInt8) : List RecordBlock := List.replicate 3 (.other (flood v) (flood_other v))

/-! ## The records of two devices -/

/-- The bytes of a record. -/
def recordData (A : List RecordBlock) : List UInt8 := A.flatMap RecordBlock.bytes

/-- The slots, ports and raw blocks of `a`, followed by those of `b`. -/
structure OneBehindOther (a b whole : PdRealData) : Prop where
  slots : whole.slots = a.slots ++ b.slots
  ports : whole.ports = a.ports ++ b.ports
  rawBlocks : whole.rawBlocks = a.rawBlocks ++ b.rawBlocks

/-- With any record behind it. -/
def Concatenates (A : List RecordBlock) : Prop :=
  ∀ B, (recordData A ++ recordData B).length < 2 ^ 63 →
    ∃ a b whole, parsePdRealData (recordData A) = .ok a ∧ parsePdRealData (recordData B) = .ok b
      ∧ parsePdRealData (recordData A ++ recordData B) = .ok whole ∧ OneBehindOther a b whole

/-- A record whose ports end in it, and that keeps the alignment. -/
structure Closed (A : List RecordBlock) : Prop where
  aligned : (recordData A).length % 4 = 0
  ports : RecordClosed 0 A

/-- A flooded record is one byte value throughout. -/
theorem floods_data {v : UInt8} (hv : v ≠ 0) :
    recordData (floods v) = List.replicate (3 * (v.toNat * 257 + 4)) v := by
  have hbytes : (RecordBlock.other (flood v) (flood_other v)).bytes = _ := flood_bytes hv
  show (RecordBlock.other (flood v) (flood_other v)).bytes
    ++ ((RecordBlock.other (flood v) (flood_other v)).bytes
      ++ ((RecordBlock.other (flood v) (flood_other v)).bytes ++ [])) = _
  rw [hbytes, List.append_nil, List.replicate_append_replicate, List.replicate_append_replicate]
  congr 1
  omega

/-- One port that has counted its bytes. -/
def probe : List RecordBlock :=
  [.subslot ⟨1, 0, noPadding, 0, 0, 0,
    [⟨blockPdPortDataReal, 1, 0, [1, 2, 3, 4, 5, 6, 7], by decide⟩], by decide⟩]

section Both

variable {A B : List RecordBlock} (hdata : (recordData A ++ recordData B).length < 2 ^ 63)
include hdata

/-- Of two records only the ports can be in each other's way. -/
theorem oneBehindOther_iff :
    (∃ a b whole, parsePdRealData (recordData A) = .ok a ∧ parsePdRealData (recordData B) = .ok b
      ∧ parsePdRealData (recordData A ++ recordData B) = .ok whole ∧ OneBehindOther a b whole)
    ↔ (recordFound 0 A (recordData B)).ports = (recordFound 0 A []).ports
      ∧ (recordFound (recordData A).length B []).ports = (recordFound 0 B []).ports := by
  have hlen : (recordData A ++ recordData B).length
      = (recordData A).length + (recordData B).length := List.length_append
  have ha : parsePdRealData (recordData A) = .ok (recordFound 0 A []) :=
    parsePdRealData_blocks (show (recordData A).length < 2 ^ 63 by omega)
  have hb : parsePdRealData (recordData B) = .ok (recordFound 0 B []) :=
    parsePdRealData_blocks (show (recordData B).length < 2 ^ 63 by omega)
  have hboth : recordData A ++ recordData B = recordData (A ++ B) := List.flatMap_append.symm
  have hfound : recordFound 0 (A ++ B) []
      = (recordFound 0 A (recordData B)).append (recordFound (recordData A).length B []) := by
    rw [recordFound_append, List.append_nil, Nat.zero_add]
    rfl
  have hwhole : parsePdRealData (recordData A ++ recordData B)
      = .ok ((recordFound 0 A (recordData B)).append (recordFound (recordData A).length B [])) := by
    rw [← hfound, hboth]
    exact parsePdRealData_blocks (show (recordData (A ++ B)).length < 2 ^ 63 from hboth ▸ hdata)
  have halike := recordFound_alike A 0 0 (recordData B) []
  have halike' := recordFound_alike B (recordData A).length 0 [] []
  constructor
  · rintro ⟨a, b, whole, ha', hb', hwhole', hlist⟩
    rw [ha] at ha'
    rw [hb] at hb'
    rw [hwhole] at hwhole'
    cases ha'
    cases hb'
    cases hwhole'
    -- as many ports in `A` either way, so the list is cut where `A` ends
    exact List.append_inj hlist.ports halike.ports
  · rintro ⟨hA, hB⟩
    refine ⟨_, _, _, ha, hb, hwhole, ?slots, ?ports, ?rawBlocks⟩
    case slots => exact congrArg₂ (· ++ ·) halike.slots halike'.slots
    case ports => exact congrArg₂ (· ++ ·) hA hB
    case rawBlocks => exact congrArg₂ (· ++ ·) halike.rawBlocks halike'.rawBlocks

end Both

/-- **A closed record and any record behind it are read like each of them.** -/
theorem concatenates_of_closed {A : List RecordBlock} (h : Closed A) : Concatenates A := by
  intro B hdata
  have hmod : (recordData A).length % 4 = 0 % 4 := h.aligned
  refine (oneBehindOther_iff hdata).mpr ⟨recordFound_more h.ports _, ?_⟩
  rw [recordFound_mod B hmod]

section Needed

variable {A : List RecordBlock} (hroom : (recordData A).length + 2 ^ 18 < 2 ^ 63)
  (h : Concatenates A)
include hroom h

/-- A record that concatenates with both floods is closed. -/
theorem recordClosed_of_concatenates : RecordClosed 0 A := by
  have hflood (v : UInt8) (hv : v ≠ 0) :
      (recordFound 0 A (recordData (floods v))).ports = (recordFound 0 A []).ports := by
    have hlt := v.toNat_lt
    have hlen : (recordData A ++ recordData (floods v)).length
        = (recordData A).length + 3 * (v.toNat * 257 + 4) := by
      rw [List.length_append, floods_data hv, List.length_replicate]
    have hdata : (recordData A ++ recordData (floods v)).length < 2 ^ 63 := by omega
    exact ((oneBehindOther_iff hdata).mp (h _ hdata)).1
  -- behind either flood the ports of `A` are those of `A` alone
  have hsame := (hflood 0xFF (by decide)).trans (hflood 0xFE (by decide)).symm
  rw [floods_data (by decide), floods_data (by decide)] at hsame
  have hff : 140003 ≤ 3 * ((0xFF : UInt8).toNat * 257 + 4) := by decide
  have hfe : 140003 ≤ 3 * ((0xFE : UInt8).toNat * 257 + 4) := by decide
  refine recordClosed_of_eq ?_ ?_ ?_ hsame
  · rw [List.length_replicate]
    exact hff
  · rw [List.length_replicate]
    exact hfe
  · intro i hi
    have hget (n : Nat) (v : UInt8) (hn : i < n) : (List.replicate n v).getD i 0 = v := by
      have hlen : (List.replicate n v).length = n := List.length_replicate
      rw [List.getD_eq_getElem _ _ (by omega), List.getElem_replicate]
    rw [hget _ _ (hi.trans_le hff), hget _ _ (hi.trans_le hfe)]
    decide

/-- A record that concatenates ends on an aligned offset. -/
theorem aligned_of_concatenates : (recordData A).length % 4 = 0 := by
  have hprobe : (recordData probe).length = 29 := rfl
  have hlen : (recordData A ++ recordData probe).length = (recordData A).length + 29 := by
    rw [List.length_append, hprobe]
  have hdata : (recordData A ++ recordData probe).length < 2 ^ 63 := by omega
  have hports := ((oneBehindOther_iff hdata).mp (h _ hdata)).2
  have hmod : (recordData A).length % 4 = (recordData A).length % 4 % 4 := (Nat.mod_mod _ _).symm
  have hlt : (recordData A).length % 4 < 4 := Nat.mod_lt _ (by omega)
  rw [recordFound_mod probe hmod] at hports
  -- the slot number that is read of the probe says where its first field was taken to be
  have hslots := congrArg (List.map PortInfo.slot) hports
  generalize (recordData A).length % 4 = r at hlt hslots ⊢
  have hshift : ∀ r < 4, (recordFound r probe []).ports.map PortInfo.slot
      = (recordFound 0 probe []).ports.map PortInfo.slot → r = 0 := by decide
  exact hshift r hlt hslots

end Needed

/-- **Nested blocks are local exactly where they are settled**, and a record and any other behind it
    are read like each of them exactly where the first is closed.  That is said of the blocks that
    the parser visits, and what it finds in a record is what it reads there. -/
theorem nested_blocks_local (R : Nat → Prop) (slot subslot : UInt16) (b : Block)
    (A : List RecordBlock) (record : Slice) :
    (LocalAt R slot subslot b ↔ b.Settled R)
    ∧ (Closed A → Concatenates A)
    ∧ ((recordData A).length + 2 ^ 18 < 2 ^ 63 → Concatenates A → Closed A)
    ∧ ∃ whole, FoundVisiting record.val whole := by
  refine ⟨localAt_iff R slot subslot b, concatenates_of_closed, fun hroom h => ?_,
    found_visiting record.property⟩
  exact ⟨aligned_of_concatenates hroom h, recordClosed_of_concatenates hroom h⟩

/-- A port that ends behind its MAU type. -/
def shortBlock : Block :=
  ⟨⟨blockPdPortDataReal, 12, 1, 0⟩, [0, 0, 0, 1, 0x80, 1, 0, 0, 0, 16], rfl⟩

/-- A port with all its fields. -/
def benchClosed : List RecordBlock :=
  [.subslot ⟨1, 0, noPadding, 0, 1, 0x8001,
    [⟨blockPdPortDataReal, 1, 0, [0, 0, 0, 1, 0x80, 1, 0, 0, 0, 16, 0, 0, 0, 0, 0, 0, 0, 0, 0, 0, 1, 1, 0,
      0, 0, 0, 0, 2, 0, 0], by decide⟩], by decide⟩]

/-- The closed records of the example, with a port block in each. -/
theorem nested_blocks_local_bench : Concatenates benchClosed := by
  refine (nested_blocks_local (fun _ => True) 1 0x8001 shortBlock benchClosed
    ⟨recordData benchClosed, by decide⟩).2.1 ⟨rfl, ?_, trivial⟩
  exact ⟨fun _ => by decide, trivial⟩

/-- A record whose port block ends before its MAUType. -/
def shortRecord : List UInt8 :=
  (⟨blockMultipleHeader, 28, 1, 0⟩ : BlockHeader).bytes ++ ([0, 0, 0, 0, 0, 0, 0, 1, 0x80, 1]
    ++ shortBlock.bytes)

/-- The short block stands where the example says, whatever follows. -/
theorem short_placed (behind : List UInt8) (hdata : (shortRecord ++ behind).length < 2 ^ 63) :
    PlacedAt (fun _ => True) 1 0x8001 shortBlock ⟨shortRecord ++ behind, hdata⟩ 16 := by
  have hlen : (shortRecord ++ behind).length = 32 + behind.length := List.length_append
  have hheadLen : (subslotHead 1 0x8001).head.length = 10 := rfl
  have hblockLen : shortBlock.bytes.length = 16 := rfl
  have houter : Stands (shortRecord ++ behind) 0
      (⟨blockMultipleHeader, 28, 1, 0⟩ : BlockHeader).bytes := ⟨Nat.le_add_left _ _, _, rfl⟩
  have hhead : Stands (shortRecord ++ behind) 6 (subslotHead 1 0x8001).head := ⟨by omega, _, rfl⟩
  have hblock : Stands (shortRecord ++ behind) 16 shortBlock.bytes := ⟨by omega, behind, rfl⟩
  have hfirst : NestedAt (shortRecord ++ behind) 1 0x8001 32 16 :=
    .first .first (by omega) (parseBlockHeader_ok hdata houter) rfl rfl rfl
      (parseMultipleBlockHeader_ok hdata _ hhead)
  exact ⟨trivial, ⟨32, hfirst, by decide, parseBlockHeader_ok hdata hblock.left⟩, hblock⟩

/-- Alone it has no domain boundary; behind it the length and version of the next block are read. -/
theorem neighbour_leaks : ¬ LocalAt (fun _ => True) 1 0x8001 shortBlock := by
  intro h
  have hsame := h _ _ _ _ (short_placed [] (by decide)) (short_placed shortRecord (by decide))
  revert hsame
  decide

end Profinet.Im
