/-
  PROCESS RECORDS: what the two readers of a process image make of the records of a device.

      input    block header (6)  count, IOCS  count, IOPS  LengthIOData  data
      output   0x0016, rest of the header  SubstituteActiveFlag  LengthIOCS  LengthIOPS
               LengthDataItem  IOCS, data, IOPS

  Both put the data behind as many status bytes as the device likes, so that where it stands depends
  on the record.  The reader of the input accepts exactly the records of this layout, with anything
  behind them; the reader of the output finds the first data byte behind the IOCS.
-/
import Profinet.Lib.Stands
import Profinet.ProcessImage

namespace Profinet

open Wire Checked

/-- Status bytes, few enough for a count of one byte. -/
abbrev StatusBytes := { s : List UInt8 // s.length ≤ 255 }

/-- Data, short enough for a length of two bytes. -/
abbrev DataBytes := { d : List UInt8 // d.length < 65536 }

/-- How many status bytes there are, as the record says it. -/
def StatusBytes.count (s : StatusBytes) : UInt8 := UInt8.ofNat s.val.length

/-- How many data bytes there are, as the record says it. -/
def DataBytes.len (d : DataBytes) : UInt16 := UInt16.ofNat d.val.length

@[simp] theorem StatusBytes.count_toNat (s : StatusBytes) : s.count.toNat = s.val.length := by
  have hs := s.property
  rw [StatusBytes.count, UInt8.toNat_ofNat']
  omega

@[simp] theorem DataBytes.len_toNat (d : DataBytes) : d.len.toNat = d.val.length := by
  rw [DataBytes.len, UInt16.toNat_ofNat']
  exact Nat.mod_eq_of_lt d.property

/-- A RecordInputDataObjectElement. -/
structure InputRecord where
  blockHeader : Bytes 6
  iocs : StatusBytes
  iops : StatusBytes
  data : DataBytes

/-- The input record as bytes. -/
def InputRecord.encode (r : InputRecord) : List UInt8 :=
  r.blockHeader.val ++ (r.iocs.count :: r.iocs.val ++ (r.iops.count :: r.iops.val ++
    (be16 r.data.len ++ r.data.val)))

/-- A RecordOutputDataObjectElement; the type stands in front of the rest of the block header. -/
structure OutputRecord where
  blockHeader : Bytes 4
  substituteActive : UInt16
  iocs : StatusBytes
  iops : StatusBytes
  data : DataBytes

/-- The output record as bytes. -/
def OutputRecord.encode (r : OutputRecord) : List UInt8 :=
  [0x00, 0x16] ++ r.blockHeader.val ++ be16 r.substituteActive ++ [r.iocs.count, r.iops.count] ++
    be16 r.data.len ++ (r.iocs.val ++ (r.data.val ++ r.iops.val))

/-! ## The input -/

/-- Where counted bytes end. -/
theorem statusBytesEnd_eq_some {record : List UInt8} {pos stop : Nat} :
    statusBytesEnd record pos = some stop ↔
      ∃ count, record[pos]? = some count ∧ pos + 1 + count.toNat < 2 ^ 64 ∧
        pos + 1 + count.toNat = stop := by
  unfold statusBytesEnd
  simp only [Option.bind_eq_bind, Option.bind_eq_some_iff, checkedAdd_eq_some]
  constructor
  · rintro ⟨count, hcount, first, ⟨-, rfl⟩, hbound, rfl⟩
    exact ⟨count, hcount, hbound, rfl⟩
  · rintro ⟨count, hcount, hbound, rfl⟩
    exact ⟨count, hcount, pos + 1, ⟨by omega, rfl⟩, hbound, rfl⟩

/-- The counted bytes, and what is behind them. -/
theorem statusBytes_apart {record : List UInt8} {pos : Nat} {count : UInt8}
    (hcount : record[pos]? = some count) (hfits : pos + 1 + count.toNat ≤ record.length) :
    ∃ s : StatusBytes, s.val.length = count.toNat ∧
      record.drop pos = s.count :: s.val ++ record.drop (pos + 1 + count.toNat) := by
  have hlt := count.toNat_lt
  have hlen : ((record.drop (pos + 1)).take count.toNat).length = count.toNat := by
    rw [List.length_take, List.length_drop]
    omega
  have htail : (record.drop (pos + 1)).take count.toNat ++ record.drop (pos + 1 + count.toNat) =
      record.drop (pos + 1) := by
    rw [← @List.drop_drop _ count.toNat (pos + 1) record, List.take_append_drop]
  refine ⟨⟨(record.drop (pos + 1)).take count.toNat, by omega⟩, hlen, ?_⟩
  show record.drop pos = UInt8.ofNat ((record.drop (pos + 1)).take count.toNat).length ::
    ((record.drop (pos + 1)).take count.toNat ++ record.drop (pos + 1 + count.toNat))
  obtain ⟨hpos, hget⟩ := List.getElem?_eq_some_iff.mp hcount
  rw [hlen, UInt8.ofNat_toNat, htail, List.drop_eq_getElem_cons hpos, hget]

/-- The length is read behind both counts, and the data has to be there. -/
theorem parseInputDataLength_eq_some {record : List UInt8} {n : Nat} :
    parseInputDataLength record = some n ↔ ∃ iocs iops high low pos,
      record[6]? = some iocs ∧ record[7 + iocs.toNat]? = some iops ∧
      pos = 7 + iocs.toNat + 1 + iops.toNat ∧ record[pos]? = some high ∧
      record[pos + 1]? = some low ∧ (ofBe16 high low).toNat = n ∧ pos + 2 + n ≤ record.length := by
  unfold parseInputDataLength
  simp only [Option.bind_eq_bind, Option.bind_eq_some_iff, statusBytesEnd_eq_some,
    checkedAdd_eq_some, Option.ite_none_left_eq_some, Option.some.injEq, Nat.not_lt]
  constructor
  · rintro ⟨_, ⟨iocs, hiocs, -, rfl⟩, pos, ⟨iops, hiops, -, hpos⟩, high, hhigh, _, ⟨-, rfl⟩, low,
      hlow, _, ⟨-, rfl⟩, _, ⟨-, rfl⟩, hfits, rfl⟩
    exact ⟨iocs, iops, high, low, pos, hiocs, hiops, hpos.symm, hhigh, hlow, rfl, hfits⟩
  · rintro ⟨iocs, iops, high, low, pos, hiocs, hiops, hpos, hhigh, hlow, rfl, hfits⟩
    -- the counts are bytes and the length is a word, so no sum overflows
    have hiocs' := iocs.toNat_lt
    have hiops' := iops.toNat_lt
    have hlen := (ofBe16 high low).toNat_lt
    refine ⟨_, ⟨iocs, hiocs, by omega, rfl⟩, pos, ⟨iops, hiops, by omega, hpos.symm⟩, high, hhigh, ?_⟩
    refine ⟨_, ⟨by omega, rfl⟩, low, hlow, _, ⟨by omega, rfl⟩, _, ⟨by omega, rfl⟩, hfits, rfl⟩

/-- A record of this layout, whatever is behind it. -/
theorem parseInputDataLength_encode (r : InputRecord) (trailing : List UInt8) :
    parseInputDataLength (r.encode ++ trailing) = some r.data.val.length := by
  obtain ⟨-, hrest⟩ := (stands_front r.encode trailing).split r.blockHeader.property
  obtain ⟨hiocs, hrest⟩ := hrest.split rfl
  obtain ⟨hiops, hrest⟩ := hrest.split rfl
  obtain ⟨hlen, hdata⟩ := hrest.split (be16_length r.data.len)
  rw [List.length_cons] at hiops hlen hdata
  rw [List.length_cons] at hlen hdata
  generalize r.encode ++ trailing = record at hiocs hiops hlen hdata
  have hsecond : 0 + 6 + (r.iocs.val.length + 1) = 7 + r.iocs.count.toNat := by
    rw [StatusBytes.count_toNat]
    omega
  have hpos : 7 + r.iocs.count.toNat + (r.iops.val.length + 1) =
      7 + r.iocs.count.toNat + 1 + r.iops.count.toNat := by
    rw [r.iops.count_toNat]
    omega
  rw [hsecond] at hiops hlen hdata
  rw [hpos] at hlen hdata
  refine parseInputDataLength_eq_some.mpr ⟨r.iocs.count, r.iops.count,
    UInt8.ofNat (r.data.len.toNat / 256), UInt8.ofNat r.data.len.toNat, _,
    hiocs.getElem? (i := 0) (Nat.succ_pos _), hiops.getElem? (i := 0) (Nat.succ_pos _), rfl,
    hlen.getElem? (i := 0) (Nat.succ_pos 1), hlen.getElem? (i := 1) (Nat.lt_succ_self 1), ?_,
    hdata.fits⟩
  rw [ofBe16_be16, DataBytes.len_toNat]

/-- A record that is accepted has this layout. -/
theorem input_shape {record : List UInt8} {n : Nat} (h : parseInputDataLength record = some n) :
    ∃ (r : InputRecord) (trailing : List UInt8),
      record = r.encode ++ trailing ∧ r.data.val.length = n := by
  obtain ⟨iocs, iops, high, low, pos, hiocs, hiops, hpos, hhigh, hlow, hword, hfits⟩ :=
    parseInputDataLength_eq_some.mp h
  obtain ⟨s, hs, hfirst⟩ := statusBytes_apart hiocs (by omega)
  obtain ⟨t, ht, hsecond⟩ := statusBytes_apart hiops (by omega)
  have hdata : ((record.drop (pos + 2)).take n).length = n := by
    rw [List.length_take, List.length_drop]
    omega
  have hlen := (ofBe16 high low).toNat_lt
  have hhead : (record.take 6).length = 6 := by
    rw [List.length_take]
    omega
  have hfield : record.drop pos = be16 (UInt16.ofNat n) ++ record.drop (pos + 2) := by
    obtain ⟨hlt, hget⟩ := List.getElem?_eq_some_iff.mp hhigh
    obtain ⟨hlt', hget'⟩ := List.getElem?_eq_some_iff.mp hlow
    rw [List.drop_eq_getElem_cons hlt, List.drop_eq_getElem_cons hlt', hget, hget', ← hword,
      UInt16.ofNat_toNat, be16_ofBe16]
    rfl
  have hword' : UInt16.ofNat ((record.drop (pos + 2)).take n).length = UInt16.ofNat n := by
    rw [hdata]
  refine ⟨⟨⟨record.take 6, hhead⟩, s, t, ⟨(record.drop (pos + 2)).take n, by omega⟩⟩,
    record.drop (pos + 2 + n), ?_, hdata⟩
  calc record = record.take 6 ++ record.drop 6 := (List.take_append_drop 6 record).symm
    _ = record.take 6 ++ (s.count :: s.val ++ (t.count :: t.val ++ record.drop pos)) := by
        rw [hfirst, hpos, ← hsecond]
    _ = record.take 6 ++ (s.count :: s.val ++ (t.count :: t.val ++ (be16 (UInt16.ofNat n) ++
          ((record.drop (pos + 2)).take n ++ record.drop (pos + 2 + n))))) := by
        rw [hfield, ← @List.drop_drop _ n (pos + 2) record, List.take_append_drop]
    _ = _ := by
        simp only [InputRecord.encode, DataBytes.len, hword', List.append_assoc]

/-! ## The output -/

/-- Without data there is no control byte, whatever else the record says. -/
theorem parseOutputControlByte_empty {record : List UInt8} (h : beU16 record 10 = 0) :
    parseOutputControlByte record = none := by
  unfold parseOutputControlByte
  by_cases hhead : record.length < 12 ∨ record.getD 0 0 ≠ 0x00 ∨ record.getD 1 0 ≠ 0x16
  · rw [if_pos hhead]
  · rw [if_neg hhead]
    exact if_pos h

/-- The first byte of the data, if there is one. -/
theorem parseOutputControlByte_encode (r : OutputRecord) (trailing : List UInt8) :
    parseOutputControlByte (r.encode ++ trailing) = r.data.val.head? := by
  have hhead := r.blockHeader.property
  obtain ⟨hfront, hitem⟩ := (stands_front r.encode trailing).split (n := 12) (by simp [hhead])
  obtain ⟨hfront, hlen⟩ := hfront.split (n := 10) (by simp [hhead])
  obtain ⟨hfront, hcounts⟩ := hfront.split (n := 8) (by simp [hhead])
  have htype := hfront.left.left
  generalize r.encode ++ trailing = record at htype hcounts hlen hitem
  have hword : beU16 record 10 = r.data.len := hlen.rdU16
  have hiocs : record.getD 8 0 = r.iocs.count := hcounts.getD (i := 0) (Nat.succ_pos 1)
  cases hdata : r.data.val with
  | nil =>
    refine parseOutputControlByte_empty ?_
    rw [hword, DataBytes.len, hdata]
    rfl
  | cons b rest =>
    have hsome : r.data.len ≠ 0 := by
      intro hzero
      have hnat := r.data.len_toNat
      rw [hzero, hdata] at hnat
      cases hnat
    have hlong : 12 ≤ record.length := hlen.fits
    have hfirst : record.getD 0 0 = 0x00 := htype.getD (i := 0) (Nat.succ_pos 1)
    have hsecond : record.getD 1 0 = 0x16 := htype.getD (i := 1) (Nat.lt_succ_self 1)
    have hcheck : ¬ (record.length < 12 ∨ record.getD 0 0 ≠ 0x00 ∨ record.getD 1 0 ≠ 0x16) := by
      rw [hfirst, hsecond]
      simp [hlong]
    obtain ⟨-, hbytes⟩ := hitem.split rfl
    rw [hdata] at hbytes
    unfold parseOutputControlByte
    simp only
    rw [if_neg hcheck, hword, if_neg hsome, hiocs, StatusBytes.count_toNat]
    exact hbytes.left.getElem? (i := 0) (Nat.succ_pos _)

/-- **The records of a process image.**  The reader of the input accepts a record with `n` bytes of
    data exactly if it has the layout of one, with anything behind it; the reader of the output
    finds the first data byte behind as many IOCS bytes as there are, and none without data. -/
theorem process_records :
    (∀ record n, parseInputDataLength record = some n ↔
      ∃ (r : InputRecord) (trailing : List UInt8),
        record = r.encode ++ trailing ∧ r.data.val.length = n) ∧
    (∀ (r : OutputRecord) (trailing : List UInt8),
      parseOutputControlByte (r.encode ++ trailing) = r.data.val.head?) ∧
    ∀ record, beU16 record 10 = 0 → parseOutputControlByte record = none := by
  refine ⟨fun record n => ⟨input_shape, ?_⟩, parseOutputControlByte_encode, ?_⟩
  · rintro ⟨r, trailing, rfl, rfl⟩
    exact parseInputDataLength_encode r trailing
  · intro record
    exact parseOutputControlByte_empty

/-- Two IOCS bytes, three bytes of data and an IOPS byte. -/
def benchOutput : OutputRecord where
  blockHeader := ⟨[0x00, 0x10, 0x01, 0x00], rfl⟩
  substituteActive := 0
  iocs := ⟨[0x80, 0x80], by decide⟩
  iops := ⟨[0x80], by decide⟩
  data := ⟨[0x05, 0x06, 0x07], by decide⟩

/-- Three IOCS bytes, two IOPS bytes and four bytes of data; an output record with data, something
    behind it, and one without. -/
theorem process_records_bench :
    parseInputDataLength [0x00, 0x15, 0x00, 0x36, 0x01, 0x00, 3, 0, 0, 0, 2, 0x80, 0x80, 0, 4,
      0xDE, 0xAD, 0xBE, 0xEF] = some 4 ∧
    parseOutputControlByte [0x00, 0x16, 0x00, 0x10, 0x01, 0x00, 0, 0, 2, 1, 0, 3, 0x80, 0x80, 0x05,
      0x06, 0x07, 0x80, 0xAA] = some 0x05 ∧
    parseOutputControlByte [0x00, 0x16, 0x00, 0x0C, 0x01, 0x00, 0, 0, 1, 1, 0, 0, 0x80, 0x80] =
      none := by
  refine ⟨(process_records.1 _ 4).mpr ?_, process_records.2.1 benchOutput [0xAA],
    process_records.2.2 _ (by decide)⟩
  refine ⟨⟨⟨[0x00, 0x15, 0x00, 0x36, 0x01, 0x00], rfl⟩, ⟨[0, 0, 0], by decide⟩,
    ⟨[0x80, 0x80], by decide⟩, ⟨[0xDE, 0xAD, 0xBE, 0xEF], by decide⟩⟩, [], ?_, rfl⟩
  decide

end Profinet
