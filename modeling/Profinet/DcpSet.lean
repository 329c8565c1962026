/-
  DCP SET: which frames answer a SET, and with what.

  Cyclic frames and alarms share the EtherType of DCP, so the answer to a SET is told from them by
  five header fields (`OwnAnswer`).  `set_response_cases` is the whole decision, for any frame: the
  error of a header that is none, an answer of ours with its value, the refusal of a device that
  does not support the service, or nothing.  The value is the error byte of the first
  Control/Response block, wherever it stands (`setBlocks_ok`).
-/
import Profinet.DcpMessage

namespace Profinet.Dcp

open Wire Checked Util

/-! ## Which frames are ours -/

/-- The payload is the answer to our SET, of this type. -/
structure OwnAnswer (payload : List UInt8) (xid : UInt32) (serviceType : UInt8) : Prop where
  long : 12 ≤ payload.length
  frameId : rdU16 payload 0 false = dcpGetSetFrameId
  serviceId : payload.getD 2 0 = dcpServiceIdSet
  serviceType : payload.getD 3 0 = serviceType
  xid : rdU32 payload 4 false = xid

/-- What is made of a frame: the error of its header, if that is none; the value of an answer of
    ours; an error for the refusal of ours; and nothing otherwise. -/
def SetOutcome (frame : List UInt8) (xid : UInt32) : Prop :=
  (∃ e, dcpPayload frame = .ok (.error e) ∧ parseSetResponse frame xid = .ok (.error e))
    ∨ ∃ payload, dcpPayload frame = .ok (.ok payload)
      ∧ ((OwnAnswer payload xid dcpServiceTypeResponseSuccess
            ∧ ∃ v, parseSetResponse frame xid = .ok (.ok (some v)))
        ∨ (OwnAnswer payload xid dcpServiceTypeResponseUnsupported
            ∧ ∃ e, parseSetResponse frame xid = .ok (.error e))
        ∨ (¬ OwnAnswer payload xid dcpServiceTypeResponseSuccess
            ∧ ¬ OwnAnswer payload xid dcpServiceTypeResponseUnsupported
            ∧ parseSetResponse frame xid = .ok (.ok none)))

/-- **What is made of any frame.** -/
theorem set_response_cases {frame : List UInt8} (hframe : frame.length < 2 ^ 63) (xid : UInt32) :
    SetOutcome frame xid := by
  obtain ⟨r, hr, hbound⟩ := stripEth_returns hframe profinetEthertype
  have hpayload : dcpPayload frame = .ok r := hr
  unfold SetOutcome parseSetResponse
  rw [hpayload, ok_bind]
  cases r with
  | error e => exact .inl ⟨e, rfl, rfl⟩
  | ok payload =>
    have hlen := hbound payload rfl
    refine .inr ⟨payload, rfl, ?_⟩
    dsimp only
    -- the tests in the order of the parser: length, header, then the two service types
    by_cases hshort : payload.length < 12
    · rw [if_pos hshort]
      have hnot (t : UInt8) : ¬ OwnAnswer payload xid t := fun h => by
        have := h.long
        omega
      exact .inr (.inr ⟨hnot _, hnot _, rfl⟩)
    -- from here on the header is read
    · rw [if_neg hshort, u16At_ok hlen (by omega), ok_bind, index_ok (by omega), ok_bind,
        index_ok (by omega), ok_bind, u32At_ok hlen (by omega), ok_bind]
      by_cases hforeign : rdU16 payload 0 false ≠ dcpGetSetFrameId
          ∨ payload.getD 2 0 ≠ dcpServiceIdSet ∨ rdU32 payload 4 false ≠ xid
      · rw [if_pos hforeign]
        have hnot (t : UInt8) : ¬ OwnAnswer payload xid t := by
          intro h
          rcases hforeign with hid | hservice | hxid
          · exact hid h.frameId
          · exact hservice h.serviceId
          · exact hxid h.xid
        exact .inr (.inr ⟨hnot _, hnot _, rfl⟩)
      · rw [if_neg hforeign]
        simp only [not_or, not_not] at hforeign
        obtain ⟨hid, hservice, hxid⟩ := hforeign
        -- a refusal is one of our own answers; what stands in its blocks is not read
        by_cases hunsupported : payload.getD 3 0 = dcpServiceTypeResponseUnsupported
        · rw [if_pos hunsupported]
          exact .inr (.inl ⟨⟨by omega, hid, hservice, hunsupported, hxid⟩, _, rfl⟩)
        · rw [if_neg hunsupported]
          by_cases hsuccess : payload.getD 3 0 = dcpServiceTypeResponseSuccess
          · rw [if_neg (not_not.mpr hsuccess), u16At_ok hlen (by omega), ok_bind,
              sliceFrom_ok (by omega), ok_bind]
            have hcount : ((rdU16 payload 10 false).toNat : Int) < 2147483648 := by
              have hword := (rdU16 payload 10 false).toNat_lt
              omega
            have hblocks : (payload.drop 12).length < 2 ^ 63 := by
              rw [List.length_drop]
              omega
            obtain ⟨v, hv, -⟩ := setBlocks_safe hblocks hcount
            dsimp only
            rw [hv]
            exact .inl ⟨⟨by omega, hid, hservice, hsuccess, hxid⟩, v, rfl⟩
          · rw [if_pos hsuccess]
            exact .inr (.inr ⟨fun h => hsuccess h.serviceType, fun h => hunsupported h.serviceType,
              rfl⟩)

/-! ## The value -/

/-- Is it the Control/Response block? -/
abbrev Block.responds (b : Block) : Bool := b.is dcpOptionControl dcpSuboptionControlResponse

/-- The BlockError byte of the first Control/Response block, success if there is none. -/
def blockError (blocks : List Block) : UInt8 :=
  match blocks.find? Block.responds with
  | some b => b.content.getD 2 0
  | none => dcpBlockErrorOk

/-- One turn of the walk. -/
theorem setBlocks_cons (b : Block) {more : List UInt8} {remaining : Nat}
    (hresponds : b.responds = true → b.content.length = 3) (hgo : 4 < remaining)
    (hremaining : remaining < 65536) (hfits : b.bytes.length ≤ remaining)
    (hshort : (b.bytes ++ more).length < 2 ^ 63) :
    setBlocks (b.bytes ++ more) remaining
      = if b.responds then .ok (b.content.getD 2 0)
        else setBlocks more (remaining - b.bytes.length : Nat) := by
  have hbytes := b.bytes_length
  obtain ⟨hoption, hsuboption, hblockLen, hcontent, hmore⟩ := b.head more (by omega)
  obtain ⟨data, hdata⟩ : ∃ data, data = b.bytes ++ more := ⟨_, rfl⟩
  have hdataLen : data.length = b.bytes.length + more.length := by rw [hdata, List.length_append]
  rw [← hdata] at hoption hsuboption hblockLen hcontent hmore hshort ⊢
  -- the content of the block is all of what its length announces
  have hcut : (data.drop 4).take (min (4 + b.content.length) data.length - 4) = b.content := by
    rw [hcontent]
    exact take_append_exact (by omega) _
  have hgo' : (4 : Int) < remaining := by omega
  rw [setBlocks, if_pos hgo', if_neg (by omega), index_ok (by omega), ok_bind, index_ok (by omega),
    ok_bind, u16At_ok hshort (by omega), ok_bind, hoption, hsuboption]
  dsimp only
  rw [hblockLen, add_ok (by omega), ok_bind]
  dsimp only
  rw [slice_ok (by omega) (by omega), ok_bind]
  dsimp only
  rw [hcut]
  -- the Control/Response block ends the search
  by_cases his : b.option = dcpOptionControl ∧ b.suboption = dcpSuboptionControlResponse
  · have hyes : b.responds = true := decide_eq_true his
    have hthree := hresponds hyes
    rw [if_pos his, if_pos hyes, if_neg (by omega), if_neg (by omega), index_ok (by omega)]
  · have hnot : ¬ b.responds = true := fun h => his (of_decide_eq_true h)
    rw [if_neg his, if_neg hnot, add_ok (by omega), ok_bind]
    dsimp only
    rw [sliceFrom_ok (by omega), ok_bind]
    dsimp only
    rw [asI32_eq (by omega), subI32_ok (by omega) (by omega), ok_bind]
    dsimp only
    have hstop : min (4 + b.content.length + b.content.length % 2) data.length
        = 4 + (b.content.length + b.content.length % 2) := by omega
    rw [hstop, hmore]
    congr 1
    omega

/-- **The walk finds the error byte of the first Control/Response block**, behind any others. -/
theorem setBlocks_ok {blocks : List Block} {trailing : List UInt8}
    (hresponds : ∀ b ∈ blocks, b.responds = true → b.content.length = 3)
    (hfits : (blockBytes blocks).length < 65536)
    (hshort : (blockBytes blocks ++ trailing).length < 2 ^ 63) :
    setBlocks (blockBytes blocks ++ trailing) (blockBytes blocks).length
      = .ok (blockError blocks) := by
  induction blocks with
  | nil =>
    rw [setBlocks, if_neg (by decide)]
    rfl
  | cons b rest ih =>
    have hb := hresponds b List.mem_cons_self
    have hbytes := b.bytes_length
    have hcons := blockBytes_cons_append b rest trailing
    have hlen := blockBytes_cons_length b rest
    by_cases hgo : 4 < (blockBytes (b :: rest)).length
    · have hrest := ih (fun b' hb' => hresponds b' (List.mem_cons_of_mem b hb')) (by omega) (by
        rw [hcons, List.length_append] at hshort
        exact Nat.lt_of_le_of_lt (Nat.le_add_left ..) hshort)
      have hleft : (blockBytes (b :: rest)).length - b.bytes.length = (blockBytes rest).length := by
        omega
      rw [hcons] at hshort ⊢
      rw [setBlocks_cons b hb hgo hfits (by omega) hshort, hleft, hrest, blockError, blockError,
        List.find?_cons]
      cases b.responds with
      | true => rfl
      | false => rfl
    · -- four bytes are a last block without content, which is no Control/Response block
      have hnot : b.responds = false := by
        refine Bool.eq_false_iff.mpr ?_
        intro h
        have hthree := hb h
        omega
      have hnil : rest = [] := by
        cases rest with
        | nil => rfl
        | cons b' rest =>
          have hbytes' := b'.bytes_length
          have hlen' := blockBytes_cons_length b' rest
          omega
      rw [setBlocks, if_neg (by omega), blockError, hnil, List.find?_cons, hnot]
      rfl

/-- **The answer to a SET.**  Any frame is an answer of ours, a refusal of ours, none of either or no
    DCP frame at all; and the value of a well-formed answer is that of its first Control/Response
    block. -/
theorem set_response :
    (∀ (frame : Slice) (xid : UInt32), SetOutcome frame.val xid)
    ∧ ∀ m : Message, (∀ b ∈ m.blocks, b.responds = true → b.content.length = 3) →
        parseSetResponse
            (m.frame dcpGetSetFrameId dcpServiceIdSet dcpServiceTypeResponseSuccess) m.xid
          = .ok (.ok (some (blockError m.blocks))) := by
  refine ⟨fun frame xid => set_response_cases frame.2 xid, fun m hresponds => ?_⟩
  have hshort := m.short
  have hlen := m.payload_length dcpGetSetFrameId dcpServiceIdSet dcpServiceTypeResponseSuccess
  have h := m.payload_header dcpGetSetFrameId dcpServiceIdSet dcpServiceTypeResponseSuccess
  unfold parseSetResponse
  rw [m.dcpPayload_frame, ok_bind]
  generalize m.payload dcpGetSetFrameId dcpServiceIdSet dcpServiceTypeResponseSuccess = payload
    at h hlen ⊢
  have hbound : payload.length < 2 ^ 63 := by omega
  dsimp only
  rw [if_neg (by omega), u16At_ok hbound (by omega), ok_bind, index_ok (by omega), ok_bind,
    index_ok (by omega), ok_bind, u32At_ok hbound (by omega), ok_bind, h.frameId, h.serviceId,
    h.serviceType, h.xid, if_neg (by simp), if_neg (by decide), if_neg (by simp),
    u16At_ok hbound (by omega), ok_bind, sliceFrom_ok (by omega), ok_bind]
  dsimp only
  rw [h.length, h.blocks, setBlocks_ok hresponds m.fits (by
    rw [List.length_append]
    omega)]
  rfl

/-- An answer that reports error 3 behind another block, of odd length. -/
theorem set_response_error :
    parseSetResponse
        (Message.frame
          { dst := ⟨[2, 0, 0, 0, 0, 1], rfl⟩
            src := ⟨[2, 0, 0, 0, 0, 2], rfl⟩
            tags := []
            xid := 7
            responseDelay := 0
            blocks := [⟨dcpOptionDevice, dcpSuboptionDeviceName, [0x61], ⟨[0], rfl⟩⟩,
              ⟨dcpOptionControl, dcpSuboptionControlResponse, [0x02, 0x02, 3], ⟨[0], rfl⟩⟩]
            trailing := []
            fits := by decide
            short := by decide }
          dcpGetSetFrameId dcpServiceIdSet dcpServiceTypeResponseSuccess) 7
      = .ok (.ok (some 3)) :=
  set_response.2 _ (by decide)

end Profinet.Dcp
