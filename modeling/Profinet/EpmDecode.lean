/-
  EPM DECODE: the reader of lookup responses finds every entry, and reads it as it was laid out.

  Each loop is at the offset where the next item stands, and an item that stands there is read and
  leads to where the one behind it stands.  Inside a tower that is the end of the floor; in the body
  it is the end of the entry, filled up to a multiple of four from the beginning of the body, which
  is a multiple of four from the beginning of the entry, since all entries are filled up.
-/
import Profinet.EpmLayout
import Profinet.Lib.Stands

namespace Profinet.Epm

open Wire Checked Utf8 LastWrite

/-! ## Lengths in front

  Counted bytes: a length and what it counts. -/

section Lengths

variable {data bs : List UInt8} {off : Nat} (hdata : data.length < 2 ^ 63)
include hdata

/-- A length of two bytes, and the bytes behind it. -/
theorem counted16_read (h : Stands data off (counted16 bs)) (hlen : bs.length < 65536) :
    u16At data off true = .ok (UInt16.ofNat bs.length) ∧
      (UInt16.ofNat bs.length).toNat = bs.length ∧ Stands data (off + 2) bs := by
  obtain ⟨hfront, hbytes⟩ := h.split (wrU16_length (UInt16.ofNat bs.length) true)
  refine ⟨hfront.u16Of hdata, ?_, hbytes⟩
  rw [UInt16.toNat_ofNat']
  exact Nat.mod_eq_of_lt hlen

/-- A length of four bytes, and the bytes behind it. -/
theorem counted32_read {fill : Bytes 3} (h : Stands data off (counted32 fill bs))
    (hlen : bs.length < 4294967296) :
    u32At data off true = .ok (UInt32.ofNat bs.length) ∧
      (UInt32.ofNat bs.length).toNat = bs.length ∧ Stands data (off + 4) bs := by
  obtain ⟨hfront, hbytes⟩ := h.split (wrU32_length (UInt32.ofNat bs.length) true)
  refine ⟨hfront.u32Of hdata, ?_, hbytes.left⟩
  rw [UInt32.toNat_ofNat']
  exact Nat.mod_eq_of_lt hlen

end Lengths

/-! ## Floors

  A floor is two counted parts.  Its protocol is the first byte of the first one, and its address
  the second one. -/

/-- The endpoint with what a floor behind the first says of it. -/
def EpmEndpoint.learn (endpoint : EpmEndpoint) (f : Floor) : EpmEndpoint :=
  { endpoint with
    protocol := if f.isRpc then "ncadg_ip_udp" else endpoint.protocol
    port := if f.isPort then f.port else endpoint.port
    address := if f.isIpv4 then f.address else endpoint.address }

/-- A floor behind the first, by the protocol it begins with. -/
theorem withFloor_cons (endpoint : EpmEndpoint) (floorIdx : Nat) (protocol : UInt8)
    (more rhs : List UInt8) :
    endpoint.withFloor (floorIdx + 1) (protocol :: more) rhs =
      if protocol = 0x0D ∧ 19 ≤ (protocol :: more).length then .ok endpoint
      else if protocol = 0x0A then .ok { endpoint with protocol := "ncadg_ip_udp" }
      else if protocol = 0x08 ∧ 2 ≤ rhs.length then
        u16At rhs 0 false >>= fun port => .ok { endpoint with port }
      else if protocol = 0x09 ∧ 4 ≤ rhs.length then
        index rhs 0 >>= fun a => index rhs 1 >>= fun b => index rhs 2 >>= fun c =>
          index rhs 3 >>= fun d => .ok { endpoint with
            address := toString a.toNat ++ "." ++ toString b.toNat ++ "." ++ toString c.toNat ++ "."
              ++ toString d.toNat }
      else .ok endpoint := by
  have hsome : 1 ≤ (protocol :: more).length := Nat.succ_pos _
  unfold EpmEndpoint.withFloor
  rw [if_pos hsome, index_ok hsome, ok_bind]
  rfl

theorem withFloor_later (endpoint : EpmEndpoint) (floorIdx : Nat) (f : Floor)
    (hlen : f.rhs.length < 2 ^ 63) :
    endpoint.withFloor (floorIdx + 1) f.lhs f.rhs = .ok (endpoint.learn f) := by
  cases f with
  | udpPort port more rest =>
    have hport : Stands (be16 port ++ rest) 0 (be16 port) := stands_front _ _
    have hrhs : (be16 port ++ rest).length < 2 ^ 63 := hlen
    show endpoint.withFloor (floorIdx + 1) (0x08 :: more) (be16 port ++ rest) = _
    rw [withFloor_cons, if_neg (by simp), if_neg (by decide), if_pos ⟨rfl, hport.fits⟩,
      hport.u16At hrhs, ok_bind]
    rfl
  | ipv4 a b c d more rest =>
    have hlong : 4 ≤ ([a, b, c, d] ++ rest).length := by simp
    show endpoint.withFloor (floorIdx + 1) (0x09 :: more) ([a, b, c, d] ++ rest) = _
    rw [withFloor_cons, if_neg (by simp), if_neg (by decide), if_neg (by simp), if_pos ⟨rfl, hlong⟩,
      index_ok (by omega), ok_bind, index_ok (by omega), ok_bind, index_ok (by omega), ok_bind,
      index_ok (by omega), ok_bind]
    rfl
  | other lhs rhs noPort noAddress =>
    cases lhs with
    | nil => rfl
    | cons protocol more =>
      have hlearn : endpoint.learn (.other (protocol :: more) rhs noPort noAddress) =
          if protocol = 0x0A then { endpoint with protocol := "ncadg_ip_udp" } else endpoint := by
        by_cases hrpc : protocol = 0x0A
        · rw [if_pos hrpc]
          subst hrpc
          rfl
        · rw [if_neg hrpc]
          simp [EpmEndpoint.learn, Floor.isRpc, Floor.lhs, Floor.isPort, Floor.isIpv4, hrpc]
      show endpoint.withFloor (floorIdx + 1) (protocol :: more) rhs = _
      rw [withFloor_cons, hlearn]
      by_cases huuid : protocol = 0x0D ∧ 19 ≤ (protocol :: more).length
      · have hrpc : protocol ≠ 0x0A := by
          rw [huuid.1]
          decide
        rw [if_pos huuid, if_neg hrpc]
      · by_cases hrpc : protocol = 0x0A
        · rw [if_neg huuid, if_pos hrpc, if_pos hrpc]
        · have hport : ¬ (protocol = 0x08 ∧ 2 ≤ rhs.length) := by simpa using noPort
          have hip : ¬ (protocol = 0x09 ∧ 4 ≤ rhs.length) := by simpa using noAddress
          rw [if_neg huuid, if_neg hrpc, if_neg hport, if_neg hip, if_neg hrpc]

/-- The floor that names the interface. -/
theorem withFloor_interface (t : Tower) (hlhs : t.interfaceLhs.length < 2 ^ 63)
    (hrhs : t.interfaceRhs.length < 2 ^ 63) :
    EpmEndpoint.empty.withFloor 0 t.interfaceLhs t.interfaceRhs =
      .ok { EpmEndpoint.empty with
        interfaceUuid := t.interface.text
        interfaceVersionMajor := t.versionMajor
        interfaceVersionMinor := t.versionMinor } := by
  have hwhole : Stands t.interfaceLhs 0
      ([0x0D] ++ (t.interface.encode ++ (wrU16 t.versionMajor true ++ t.more))) := stands_whole _
  obtain ⟨hprotocol, hrest⟩ := hwhole.split (n := 1) rfl
  obtain ⟨huuid, hmajor⟩ := hrest.split t.interface.encode_length
  have hminor : Stands t.interfaceRhs 0 (wrU16 t.versionMinor true) := stands_front _ _
  have hlong := hmajor.left.fits
  have hlong' := hminor.fits
  rw [wrU16_length] at hlong hlong'
  unfold EpmEndpoint.withFloor
  rw [if_pos (show 1 ≤ t.interfaceLhs.length by omega), hprotocol.index, ok_bind,
    if_pos ⟨rfl, show 19 ≤ t.interfaceLhs.length by omega⟩, if_pos rfl,
    slice_ok (by omega) (by omega), ok_bind]
  dsimp only
  rw [huuid.take_eq (by rw [Uuid.encode_length]), uuidBytesToString_encode, ok_bind,
    hmajor.left.u16Of hlhs, ok_bind, if_pos (show 2 ≤ t.interfaceRhs.length by omega),
    hminor.u16Of hrhs, ok_bind]
  rfl

/-! ## A tower

  The loop over the floors stands at the next floor or at the end of the tower. -/

/-- One round of the loop: a floor that stands at the offset. -/
theorem epmFloors_step {tower lhs rhs : List UInt8} {offset : Nat}
    (h : Stands tower offset (counted16 lhs ++ counted16 rhs)) (htower : tower.length < 65536)
    (endpoint : EpmEndpoint) (floorIdx floors : Nat) :
    epmFloors tower endpoint offset floorIdx (floors + 1) =
      endpoint.withFloor floorIdx lhs rhs >>= fun endpoint =>
        epmFloors tower endpoint (offset + (4 + lhs.length + rhs.length)) (floorIdx + 1) floors := by
  have hdata : tower.length < 2 ^ 63 := by omega
  have hfits := h.fits
  rw [List.length_append, counted16_length, counted16_length] at hfits
  obtain ⟨hleft, hright⟩ := h.split (counted16_length lhs)
  rw [← Nat.add_assoc] at hright
  obtain ⟨hlhsLen, hlhsVal, hlhs⟩ := counted16_read hdata hleft (by omega)
  obtain ⟨hrhsLen, hrhsVal, hrhs⟩ := counted16_read hdata hright (by omega)
  rw [epmFloors, add_ok (by omega), ok_bind]
  dsimp only
  rw [if_neg (by omega), hlhsLen, ok_bind, add_ok (by omega), ok_bind]
  dsimp only
  rw [add_ok (by rw [hlhsVal]; omega), ok_bind]
  dsimp only
  rw [hlhsVal, if_neg (by omega), slice_ok (by omega) (by omega), ok_bind, add_ok (by omega), ok_bind]
  dsimp only
  rw [if_neg (by omega), hrhsLen, ok_bind, add_ok (by rw [hrhsVal]; omega), ok_bind]
  dsimp only
  rw [if_neg (by rw [hrhsVal]; omega), slice_ok (by omega) (by rw [hrhsVal]; omega), ok_bind]
  dsimp only
  -- the right side is read to a length of its own, which `hrhsVal` turns into its length
  have hend : offset + 2 + lhs.length + 2 + rhs.length = offset + (4 + lhs.length + rhs.length) := by
    omega
  show (endpoint.withFloor floorIdx ((tower.drop (offset + 2)).take _)
    ((tower.drop (offset + 2 + lhs.length + 2)).take _) >>= fun endpoint =>
      epmFloors tower endpoint (offset + 2 + lhs.length + 2 + (UInt16.ofNat rhs.length).toNat)
        (floorIdx + 1) floors) = _
  rw [hlhs.take_eq (by omega), hrhs.take_eq (by rw [hrhsVal]; omega), hrhsVal, hend]

/-- The floors behind the first, wherever they stand. -/
theorem epmFloors_later {tower : List UInt8} (htower : tower.length < 65536) (floors : List Floor)
    {offset : Nat} (h : Stands tower offset (floors.flatMap Floor.encode)) (endpoint : EpmEndpoint)
    (floorIdx : Nat) :
    epmFloors tower endpoint offset (floorIdx + 1) floors.length =
      .ok (floors.foldl EpmEndpoint.learn endpoint) := by
  induction floors generalizing offset endpoint floorIdx with
  | nil => rfl
  | cons f floors ih =>
    obtain ⟨hfloor, hrest⟩ := h.split (Floor.encode_length f)
    have hfits := hfloor.fits
    rw [Floor.encode_length] at hfits
    rw [List.length_cons, epmFloors_step hfloor htower,
      withFloor_later endpoint floorIdx f (by omega), ok_bind]
    exact ih hrest (endpoint.learn f) (floorIdx + 1)

attribute [ext] EpmEndpoint

/-- What the floors leave of the endpoint. -/
theorem learn_floors (t : Tower) :
    t.floors.foldl EpmEndpoint.learn { EpmEndpoint.empty with
      interfaceUuid := t.interface.text
      interfaceVersionMajor := t.versionMajor
      interfaceVersionMinor := t.versionMinor } = t.endpoint := by
  have hkept {γ : Type} (field : EpmEndpoint → γ)
      (hfield : ∀ (e : EpmEndpoint) (f : Floor), field (e.learn f) = field e) (e : EpmEndpoint) :
      field (t.floors.foldl EpmEndpoint.learn e) = field e := foldl_kept hfield t.floors e
  apply EpmEndpoint.ext
  · exact hkept EpmEndpoint.interfaceUuid (fun _ _ => rfl) _
  · exact hkept EpmEndpoint.interfaceVersionMajor (fun _ _ => rfl) _
  · exact hkept EpmEndpoint.interfaceVersionMinor (fun _ _ => rfl) _
  · exact hkept EpmEndpoint.objectUuid (fun _ _ => rfl) _
  · exact foldl_mark (f := EpmEndpoint.protocol) (fun _ _ => rfl) t.floors _
  -- the last one wins, and there is at most one
  · rw [foldl_field (f := EpmEndpoint.port) (fun _ _ _ => rfl), t.onePort.find?_reverse]
    rfl
  · rw [foldl_field (f := EpmEndpoint.address) (fun _ _ _ => rfl), t.oneAddress.find?_reverse]
    rfl
  · exact hkept EpmEndpoint.annotation (fun _ _ => rfl) _

/-- The text of a UUID is not empty. -/
theorem Uuid.text_ne_empty (u : Uuid) : u.text ≠ "" := by
  intro h
  have hparts := uuidText_parts u
  have hlow : HexField 8 _ _ := hexField_lowerHex (by decide) u.timeLow.toNat_lt
  have hlen := congrArg List.length hparts
  rw [h, List.length_append, hlow.length] at hlen
  simp at hlen
  omega

theorem parseEpmTower_encode (t : Tower) (htower : t.encode.length < 65536) :
    parseEpmTower t.encode = .ok (some t.endpoint) := by
  have hdata : t.encode.length < 2 ^ 63 := by omega
  obtain ⟨hcount, hrest⟩ := (stands_whole t.encode).split (wrU16_length _ true)
  obtain ⟨hfirst, hfloors⟩ := hrest.split rfl
  have hfits := hfloors.fits
  have hmany := floors_length_le t.floors
  rw [List.length_append, counted16_length, counted16_length] at hfits hfloors
  have hcount' : (UInt16.ofNat (t.floors.length + 1)).toNat = t.floors.length + 1 := by
    rw [UInt16.toNat_ofNat']
    omega
  unfold parseEpmTower
  rw [if_neg (by omega), hcount.u16Of hdata, ok_bind, hcount', epmFloors_step hfirst htower,
    withFloor_interface t (by omega) (by omega), ok_bind, epmFloors_later htower t.floors ?_,
    ok_bind, learn_floors]
  · exact if_neg t.interface.text_ne_empty
  · have hend : 0 + 2 + (2 + t.interfaceLhs.length + (2 + t.interfaceRhs.length)) =
        2 + (4 + t.interfaceLhs.length + t.interfaceRhs.length) := by omega
    rw [← hend]
    exact hfloors

/-! ## An entry

  An entry is its object, its annotation and its tower, each filled up to a multiple of four. -/

/-- An annotation is read without its trailing NULs. -/
theorem annotationAt_utf8 {body : List UInt8} {offset : Nat} {s : List Char}
    (h : Stands body offset (utf8 s)) (hbody : body.length < 2 ^ 63) :
    annotationAt body offset (utf8 s).length =
      .ok (String.ofList (s.rdropWhile (· = Char.ofNat 0))) := by
  have hfits := h.fits
  unfold annotationAt
  by_cases hsome : 0 < (utf8 s).length
  · rw [if_pos hsome, add_ok (by omega), ok_bind]
    dsimp only
    rw [if_pos hfits, slice_ok (by omega) hfits, ok_bind]
    dsimp only
    rw [h.take_eq (by omega)]
    show Except.ok (fromUtf8Lossy ((utf8 s).rdropWhile (· = 0))) = _
    rw [trimZeros_utf8, fromUtf8Lossy, lossyChars_utf8]
  · have hnil : utf8 s = [] := List.eq_nil_of_length_eq_zero (by omega)
    have hs : s = [] := by rw [← lossyChars_utf8 s, hnil, lossyChars]
    rw [if_neg hsome, hs]
    rfl

/-- One round of the loop: an entry that stands at a multiple of four. -/
theorem epmEntries_step {body : List UInt8} {offset : Nat} {e : EpmEntry}
    (h : Stands body offset e.encode) (hbody : body.length < 65536) (halign : offset % 4 = 0)
    (entries : Nat) :
    epmEntries body offset (entries + 1) =
      epmEntries body (offset + e.encode.length) entries >>= fun more =>
        .ok (e.endpoint :: more) := by
  have hdata : body.length < 2 ^ 63 := by omega
  have hfits := h.fits
  rw [EpmEntry.encode_length] at hfits
  obtain ⟨hfront, hcounted⟩ := h.split (n := 20)
    (by rw [List.length_append, Uuid.encode_length, e.towerPointer.property])
  obtain ⟨hobject, hpointer⟩ := hfront.split e.objectUuid.encode_length
  obtain ⟨hnote, htower⟩ := hcounted.split (counted32_length e.annotationFill (utf8 e.annotation))
  obtain ⟨htextLen, htextVal, htext⟩ := counted32_read hdata hnote (by omega)
  -- filling up from the beginning of the entry is filling up from the beginning of the body
  have hpad : offset + 20 + (4 + ((utf8 e.annotation).length + 3) / 4 * 4) =
      (offset + 16 + 4 + 4 + (utf8 e.annotation).length + 3) / 4 * 4 := by omega
  rw [hpad] at htower
  obtain ⟨htowerLen, htowerVal, htowerBytes⟩ := counted32_read hdata htower (by omega)
  -- the loop computes with the two lengths it reads, and only their values matter
  generalize UInt32.ofNat (utf8 e.annotation).length = textLen at htextLen htextVal
  generalize UInt32.ofNat e.tower.encode.length = towerLen at htowerLen htowerVal
  rw [← htextVal] at htowerLen htowerBytes hpad
  have hnote : annotationAt body (offset + 16 + 4 + 4) textLen.toNat = .ok e.text := by
    rw [htextVal]
    exact annotationAt_utf8 htext hdata
  rw [epmEntries, add_ok (by omega), ok_bind]
  dsimp only
  rw [if_neg (by omega), add_ok (by omega), ok_bind]
  dsimp only
  rw [if_neg (by omega), slice_ok (by omega) (by omega), ok_bind]
  dsimp only
  rw [hobject.take_eq (by rw [Uuid.encode_length]; omega), uuidBytesToString_encode, ok_bind,
    add_ok (by omega), ok_bind]
  dsimp only
  rw [if_neg (by omega), add_ok (by omega), ok_bind]
  dsimp only
  rw [if_neg (by omega), htextLen, ok_bind, hnote, ok_bind, add_ok (by omega), ok_bind]
  dsimp only
  rw [align4_ok (by omega), ok_bind]
  dsimp only
  rw [add_ok (by omega), ok_bind]
  dsimp only
  rw [if_neg (by omega), htowerLen, ok_bind, add_ok (by omega), ok_bind]
  dsimp only
  rw [if_neg (by omega), slice_ok (by omega) (by omega), ok_bind]
  dsimp only
  rw [align4_ok (by omega), ok_bind]
  dsimp only
  have hnext : ((offset + 16 + 4 + 4 + textLen.toNat + 3) / 4 * 4 + 4 + towerLen.toNat + 3) / 4 * 4 =
      offset + e.encode.length := by
    rw [EpmEntry.encode_length]
    omega
  rw [htowerBytes.take_eq (by omega), parseEpmTower_encode e.tower (by omega), ok_bind, hnext]
  rfl

theorem epmEntries_encode {body : List UInt8} (hbody : body.length < 65536)
    (entries : List EpmEntry) {offset : Nat}
    (h : Stands body offset (entries.flatMap EpmEntry.encode)) (halign : offset % 4 = 0) :
    epmEntries body offset entries.length = .ok (entries.map EpmEntry.endpoint) := by
  induction entries generalizing offset with
  | nil => rfl
  | cons e entries ih =>
    obtain ⟨hentry, hrest⟩ := h.split rfl
    have hnext : (offset + e.encode.length) % 4 = 0 := by
      rw [EpmEntry.encode_length]
      omega
    rw [List.length_cons, epmEntries_step hentry hbody halign, ih hrest hnext]
    rfl

/-! ## The response

  The handle and the count in front, and the entries behind them. -/

/-- Every entry has its fixed fields. -/
theorem entries_length_le (entries : List EpmEntry) :
    28 * entries.length ≤ (entries.flatMap EpmEntry.encode).length := by
  induction entries with
  | nil => exact Nat.le_refl 0
  | cons e entries ih =>
    rw [List.flatMap_cons, List.length_append, List.length_cons, EpmEntry.encode_length]
    omega

/-- Where the count and the entries stand in a body. -/
theorem epmBody_stands (b : EpmBody) (hfits : b.encode.length < 65536) :
    Stands b.encode 4 (wrU32 (UInt32.ofNat b.entries.length) true) ∧
      (UInt32.ofNat b.entries.length).toNat = b.entries.length ∧
      Stands b.encode 20 (b.entries.flatMap EpmEntry.encode) := by
  have hhandle := b.entryHandle.property
  have hmetadata := b.arrayMetadata.property
  obtain ⟨hfront, hentries⟩ := (stands_whole b.encode).split (n := 20) (by simp [hhandle, hmetadata])
  have hsize := hentries.left.fits
  have hmany := entries_length_le b.entries
  obtain ⟨-, hcount⟩ := hfront.left.split hhandle
  rw [Nat.zero_add] at hcount
  refine ⟨hcount, ?_, hentries.left⟩
  rw [UInt32.toNat_ofNat']
  omega

theorem parseEpmResponse_encode (r : EpmResponse) :
    parseEpmResponse r.encode = .ok (r.body.entries.map EpmEntry.endpoint) := by
  have hfits := r.fits
  have hheader := r.header.property
  have hheader' := r.header'.property
  obtain ⟨hfront, hbody⟩ := (stands_whole r.encode).split (n := 80) (by simp [hheader, hheader'])
  obtain ⟨hfront, -⟩ := hfront.split (n := 76) (by simp [hheader])
  obtain ⟨hfront, hlen⟩ := hfront.split (n := 74) (by simp [hheader])
  have htype : Stands r.encode 1 [0x02] := (hfront.left.split (a := [r.version]) (n := 1) rfl).2
  have hwhole : r.encode.length = 80 + r.body.encode.length := by
    simp [EpmResponse.encode, hheader, hheader']
    omega
  have hdata : r.encode.length < 2 ^ 63 := by omega
  have hval : (UInt16.ofNat r.body.encode.length).toNat = r.body.encode.length := by
    rw [UInt16.toNat_ofNat']
    exact Nat.mod_eq_of_lt hfits
  generalize UInt16.ofNat r.body.encode.length = bodyLen at hlen hval
  obtain ⟨hcount, hcount', hentries⟩ := epmBody_stands r.body hfits
  have hsize := hentries.fits
  unfold parseEpmResponse
  rw [if_neg (by omega), htype.index, ok_bind, if_neg (by decide), hlen.u16Of hdata, ok_bind]
  dsimp only
  rw [add_ok (by omega), ok_bind]
  dsimp only
  rw [slice_ok (by omega) (by omega), ok_bind]
  dsimp only
  rw [hbody.take_eq (by omega), if_neg (by omega), hcount.u32Of (by omega), ok_bind, hcount']
  exact epmEntries_encode hfits r.body.entries hentries rfl

/-- **Lookup responses.**  A response that is laid out as described, with any entries, is read as one
    endpoint for each of them, in order, with what the entry says of it; and sixteen bytes that are
    written as a UUID are read back from the text. -/
theorem epm_decode :
    (∀ r : EpmResponse, parseEpmResponse r.encode = .ok (r.body.entries.map EpmEntry.endpoint)) ∧
      ∀ b : Bytes 16, ∃ text, uuidBytesToString b.val = .ok text ∧
        (stringToUuidBytes text).run = .ok (.ok b.val) :=
  ⟨parseEpmResponse_encode, stringToUuidBytes_bytes⟩

/-- A device with a port and an address, and an annotation that is filled up with NULs. -/
def benchEntry : EpmEntry where
  objectUuid := ⟨0xdea00000, 0x6c97, 0x11d1, 0x8271, ⟨[0, 1, 0, 2, 0, 3], by decide⟩⟩
  towerPointer := ⟨[3, 0, 0, 0], by decide⟩
  annotation := ['E', 'T', ' ', '2', '0', '0', 'é', Char.ofNat 0, Char.ofNat 0]
  annotationFill := ⟨[0, 0, 0xE1], rfl⟩
  tower :=
    { interface := ⟨0xdea00001, 0x6c97, 0x11d1, 0x8271,
        ⟨[0x00, 0xa0, 0x24, 0x42, 0xdf, 0x7d], by decide⟩⟩
      versionMajor := 1
      versionMinor := 0
      more := []
      rest := []
      floors := [.other [0x0A] [0, 0] (by decide) (by decide), .udpPort 34964 [] [],
        .ipv4 192 168 0 50 [] []]
      onePort := by decide
      oneAddress := by decide }
  towerFill := ⟨[0xFF, 0, 0], rfl⟩

/-- The endpoint mapper itself, without an address or an annotation. -/
def benchMapper : EpmEntry where
  objectUuid := ⟨0, 0, 0, 0, ⟨[0, 0, 0, 0, 0, 0], by decide⟩⟩
  towerPointer := ⟨[4, 0, 0, 0], by decide⟩
  annotation := []
  annotationFill := ⟨[0xE2, 0, 0], rfl⟩
  tower :=
    { interface := ⟨0xe1af8308, 0x5d1f, 0x11c9, 0x91a4,
        ⟨[0x08, 0x00, 0x2b, 0x14, 0xa0, 0xfa], by decide⟩⟩
      versionMajor := 3
      versionMinor := 0
      more := [2, 0]
      rest := []
      floors := [.udpPort 135 [] [7]]
      onePort := by decide
      oneAddress := by decide }
  towerFill := ⟨[0, 0xE3, 0], rfl⟩

/-- Two entries, with something behind them. -/
theorem epm_decode_bench : ∃ r : EpmResponse, r.body.entries = [benchEntry, benchMapper] ∧
    parseEpmResponse r.encode = .ok
      [⟨"dea00001-6c97-11d1-8271-00a02442df7d", 1, 0, "dea00000-6c97-11d1-8271-000100020003",
          "ncadg_ip_udp", 34964, "192.168.0.50", "ET 200é"⟩,
        ⟨"e1af8308-5d1f-11c9-91a4-08002b14a0fa", 3, 0, "00000000-0000-0000-0000-000000000000",
          "", 135, "", ""⟩] := by
  refine ⟨
    { version := 4
      header := ⟨List.replicate 72 0, by decide⟩
      header' := ⟨[0, 0, 0, 0], by decide⟩
      body :=
        { entryHandle := ⟨[0, 0, 0, 0], by decide⟩
          arrayMetadata := ⟨List.replicate 12 0, by decide⟩
          entries := [benchEntry, benchMapper]
          tail := [0xAA] }
      fits := by decide +kernel }, rfl, ?_⟩
  exact (epm_decode.1 _).trans (congrArg Except.ok (by decide +kernel))

end Profinet.Epm
