/-
  DCP GET: which block the answer to a GET is taken from.

  The walk looks for a block with the option and suboption that were asked for, and returns what
  stands behind its BlockInfo word.  It goes on while more than six bytes are left, so that a last
  block without payload is never looked at (`getBlocks_ok`): the name of a station without one is
  reported as absent, unless other blocks follow it (`get_finds_iff`).
-/
import Profinet.DcpMessage

namespace Profinet.Dcp

open Wire Checked Util

/-! ## The walk -/

/-- One turn of it. -/
theorem getBlocks_cons (option suboption : UInt8) (b : Block) {more : List UInt8} {length : Nat}
    (hgo : 6 < length) (hlength : length < 65536) (hfits : b.bytes.length ≤ length)
    (hroom : length ≤ (b.bytes ++ more).length) (hshort : (b.bytes ++ more).length < 2 ^ 63) :
    getBlocks option suboption (b.bytes ++ more) length
      = if b.is option suboption then .ok (some b.payload)
        else getBlocks option suboption more (length - b.bytes.length : Nat) := by
  have hbytes := b.bytes_length
  have hcontent : b.content.length < 65536 := by omega
  obtain ⟨hoption, hsuboption, hblockLen, -, -⟩ := b.head more hcontent
  have hcut := b.cut more hcontent
  have hgo' : (6 : Int) < length := by omega
  rw [getBlocks, if_pos hgo', if_neg (by omega), index_ok (by omega), ok_bind, index_ok (by omega),
    ok_bind, u16At_ok hshort (by omega), ok_bind, hoption, hsuboption]
  dsimp only
  rw [hblockLen, add_ok (by omega), ok_bind]
  dsimp only
  rw [slice_ok (by omega) (by omega), ok_bind]
  dsimp only
  rw [hcut]
  by_cases his : b.option = option ∧ b.suboption = suboption
  · have hyes : b.is option suboption = true := decide_eq_true his
    rw [if_pos his, if_pos hyes]
    rfl
  · have hnot : ¬ b.is option suboption = true := fun h => his (of_decide_eq_true h)
    rw [if_neg his, if_neg hnot]
    exact b.skip hlength hfits (getBlocks option suboption)

/-- **The walk finds the first matching block among those it visits.** -/
theorem getBlocks_ok (option suboption : UInt8) {blocks : List Block} {trailing : List UInt8}
    (hfits : (blockBytes blocks).length < 65536)
    (hshort : (blockBytes blocks ++ trailing).length < 2 ^ 63) :
    getBlocks option suboption (blockBytes blocks ++ trailing) (blockBytes blocks).length
      = .ok (((visited blocks).find? (Block.is option suboption)).map Block.payload) := by
  -- on the blocks, as in an Identify response, but the first that is asked for ends the search
  induction blocks with
  | nil =>
    rw [getBlocks, if_neg (by decide)]
    rfl
  | cons b rest ih =>
    have hstop := visited_stop b rest
    have hcons := blockBytes_cons_append b rest trailing
    have hlen := blockBytes_cons_length b rest
    rw [visited]
    by_cases hlast : rest = [] ∧ b.payload = []
    · have hend : ¬ 6 < (blockBytes (b :: rest)).length := fun h => hstop.mp h hlast
      rw [if_pos hlast, getBlocks, if_neg (by omega)]
      rfl
    · have hgo := hstop.mpr hlast
      have hroom : (blockBytes (b :: rest)).length
          ≤ (b.bytes ++ (blockBytes rest ++ trailing)).length := by
        rw [← hcons, List.length_append]
        omega
      rw [hcons] at hshort ⊢
      rw [if_neg hlast, getBlocks_cons option suboption b hgo hfits (by omega) hroom hshort, List.find?_cons]
      cases b.is option suboption with
      | true => rfl
      | false =>
        have hrest := ih (by omega) (by
          rw [List.length_append] at hshort
          exact Nat.lt_of_le_of_lt (Nat.le_add_left ..) hshort)
        have hleft : (blockBytes (b :: rest)).length - b.bytes.length = (blockBytes rest).length := by
          omega
        rw [hleft]
        exact hrest

/-! ## The answer -/

/-- The payload that was asked for: that of the first block with this option and suboption. -/
def requested (option suboption : UInt8) (blocks : List Block) : Option (List UInt8) :=
  (blocks.find? (Block.is option suboption)).map Block.payload

/-- The first block with this option and suboption is the last of all, and has no payload. -/
def EndsEmpty (option suboption : UInt8) (blocks : List Block) : Prop :=
  ∃ pre b, blocks = pre ++ [b] ∧ b.is option suboption = true ∧ b.payload = []
    ∧ ∀ b' ∈ pre, b'.is option suboption = false

theorem endsEmpty_snoc {option suboption : UInt8} {pre : List Block} {b : Block} :
    EndsEmpty option suboption (pre ++ [b])
      ↔ b.is option suboption = true ∧ b.payload = []
        ∧ ∀ b' ∈ pre, b'.is option suboption = false := by
  constructor
  · rintro ⟨pre', b', heq, h⟩
    obtain ⟨rfl, hlast⟩ := List.append_inj' heq rfl
    obtain rfl := List.singleton_inj.mp hlast
    exact h
  · intro h
    exact ⟨pre, b, rfl, h⟩

/-- The walk returns what was asked for, but for a match at the very end without payload. -/
theorem visited_requested (option suboption : UInt8) (blocks : List Block) :
    requested option suboption (visited blocks) = requested option suboption blocks
      ↔ ¬ EndsEmpty option suboption blocks := by
  -- only the last block may go unvisited, and only if it has no payload
  rcases List.eq_nil_or_concat' blocks with rfl | ⟨pre, b, rfl⟩
  · refine iff_of_true rfl ?_
    rintro ⟨pre, b, hnil, -⟩
    exact List.append_ne_nil_of_right_ne_nil pre (List.cons_ne_nil b []) hnil.symm
  · rw [visited_snoc, endsEmpty_snoc]
    by_cases hempty : b.payload = []
    · rw [if_pos hempty]
      unfold requested
      rw [List.find?_append]
      -- found before it, found in it, or not found at all
      cases hfind : pre.find? (Block.is option suboption) with
      | some found =>
        refine iff_of_true rfl ?_
        rintro ⟨-, -, hnone⟩
        have hno := hnone found (List.mem_of_find?_eq_some hfind)
        rw [List.find?_some hfind] at hno
        cases hno
      | none =>
        have hpre : ∀ b' ∈ pre, b'.is option suboption = false := fun b' hb' =>
          Bool.eq_false_iff.mpr (List.find?_eq_none.mp hfind b' hb')
        rw [List.find?_cons]
        cases his : b.is option suboption with
        | true =>
          refine iff_of_false ?_ fun hnot => hnot ⟨rfl, hempty, hpre⟩
          intro heq
          cases heq
        | false =>
          refine iff_of_true rfl ?_
          rintro ⟨htrue, -⟩
          cases htrue
    · rw [if_neg hempty]
      exact iff_of_true rfl fun h => hempty h.2.1

/-- A response of ours is walked through. -/
theorem parseGetResponse_frame (m : Message) (serviceId option suboption : UInt8) :
    parseGetResponse (m.frame dcpGetSetFrameId serviceId dcpServiceTypeResponseSuccess) option
        suboption m.xid = .ok (.ok (requested option suboption (visited m.blocks))) := by
  have hshort := m.short
  have hlen := m.payload_length dcpGetSetFrameId serviceId dcpServiceTypeResponseSuccess
  have h := m.payload_header dcpGetSetFrameId serviceId dcpServiceTypeResponseSuccess
  unfold parseGetResponse
  rw [m.dcpPayload_frame, ok_bind]
  generalize m.payload dcpGetSetFrameId serviceId dcpServiceTypeResponseSuccess = payload at h hlen ⊢
  have hbound : payload.length < 2 ^ 63 := by omega
  dsimp only
  rw [if_neg (by omega), u16At_ok hbound (by omega), ok_bind, u32At_ok hbound (by omega), ok_bind,
    h.frameId, h.xid, if_neg (by simp), index_ok (by omega), ok_bind, h.serviceType,
    if_neg (by simp), u16At_ok hbound (by omega), ok_bind, sliceFrom_ok (by omega), ok_bind]
  dsimp only
  rw [h.length, h.blocks, getBlocks_ok option suboption m.fits (by
    rw [List.length_append]
    omega)]
  rfl

/-- **When GET finds its block**: for every response of ours, the answer is the payload of the first
    matching block unless that block is the last one and has no payload. -/
theorem get_finds_iff (m : Message) (serviceId option suboption : UInt8) :
    parseGetResponse (m.frame dcpGetSetFrameId serviceId dcpServiceTypeResponseSuccess) option
        suboption m.xid = .ok (.ok (requested option suboption m.blocks))
      ↔ ¬ EndsEmpty option suboption m.blocks := by
  rw [parseGetResponse_frame m serviceId option suboption, ← visited_requested]
  constructor
  · intro heq
    exact Except.ok.inj (Except.ok.inj heq)
  · intro heq
    exact congrArg (fun r => Except.ok (Except.ok r)) heq

/-- The name of a station that has none. -/
def benchNoName : Block := ⟨dcpOptionDevice, dcpSuboptionDeviceName, [0, 0], ⟨[], rfl⟩⟩

/-- An empty name at the end is reported as absent. -/
theorem get_misses_name :
    parseGetResponse ((benchResponse [benchNoName] (by decide)).frame dcpGetSetFrameId 0x03
        dcpServiceTypeResponseSuccess) dcpOptionDevice dcpSuboptionDeviceName 7
      ≠ .ok (.ok (requested dcpOptionDevice dcpSuboptionDeviceName [benchNoName])) := by
  have hframe := parseGetResponse_frame (benchResponse [benchNoName] (by decide)) 0x03
    dcpOptionDevice dcpSuboptionDeviceName
  intro heq
  have hfound := Except.ok.inj (Except.ok.inj (hframe.symm.trans heq))
  exact absurd hfound (by decide)

end Profinet.Dcp
