import Mathlib.Data.List.Induction
import PimSync.ClockTime
import PimSync.Proofs.Text.Spelling

namespace PimSync

open Wire Text

namespace ClockTime

variable {t : ClockTime} {text : String} {digits : Bytes} {b : UInt8} {width n : Nat}

lemma isDigit_iff : PimSync.isDigit b = true ↔ 0x30 ≤ b ∧ b ≤ 0x39 := by
  rw [PimSync.isDigit, Bool.and_eq_true, decide_eq_true_iff, decide_eq_true_iff]

lemma isDigit_ofNat : ∀ n < 10, PimSync.isDigit (.ofNat (0x30 + n)) = true := by decide

lemma value_ofNat : ∀ n < 10, (UInt8.ofNat (0x30 + n) - 0x30).toNat = n := by decide

lemma exists_of_isDigit (h : PimSync.isDigit b = true) : ∃ n < 10, b = .ofNat (0x30 + n) := by
  obtain ⟨hl, hh⟩ := isDigit_iff.mp h
  have hlow : 0x30 ≤ b.toNat := UInt8.le_iff_toNat_le.mp hl
  have hhigh : b.toNat ≤ 0x39 := UInt8.le_iff_toNat_le.mp hh
  exact ⟨b.toNat - 0x30, by omega, (Utf8.ofNat_eq_of_toNat (by omega)).symm⟩

@[simp] lemma length_decimals (width n : Nat) : (decimals width n).length = width := by
  induction width generalizing n with
  | zero => rfl
  | succ width ih => rw [decimals, List.length_append, ih, List.length_singleton]

lemma isDigit_decimals (width n : Nat) : ∀ b ∈ decimals width n, PimSync.isDigit b = true := by
  induction width generalizing n with
  | zero => exact fun b hb => absurd hb List.not_mem_nil
  | succ width ih =>
    rw [decimals, List.forall_mem_append, List.forall_mem_singleton]
    exact ⟨ih (n / 10), isDigit_ofNat _ (Nat.mod_lt n (by decide))⟩

def numeral (digits : Bytes) : Nat := digits.foldl (fun n b => n * 10 + (b - 0x30).toNat) 0

lemma numeral_concat (digits : Bytes) (hn : n < 10) :
    numeral (digits ++ [.ofNat (0x30 + n)]) = numeral digits * 10 + n := by
  rw [numeral, List.foldl_append, List.foldl_cons, List.foldl_nil, value_ofNat n hn]
  rfl

lemma numeral_decimals (hn : n < 10 ^ width) : numeral (decimals width n) = n := by
  induction width generalizing n with
  | zero => exact (Nat.lt_one_iff.mp hn).symm
  | succ width ih =>
    have hfront : n / 10 < 10 ^ width := Nat.div_lt_of_lt_mul (by rwa [Nat.pow_succ'] at hn)
    rw [decimals, numeral_concat _ (Nat.mod_lt n (by decide)), ih hfront]
    omega

lemma numeral_lt (h : ∀ b ∈ digits, PimSync.isDigit b = true) : numeral digits < 10 ^ digits.length := by
  induction digits using List.reverseRecOn with
  | nil => exact Nat.one_pos
  | append_singleton digits b ih =>
    rw [List.forall_mem_append, List.forall_mem_singleton] at h
    obtain ⟨n, hn, rfl⟩ := exists_of_isDigit h.2
    have hfront := ih h.1
    rw [numeral_concat _ hn, List.length_append, List.length_singleton, Nat.pow_succ]
    omega

lemma decimals_numeral (h : ∀ b ∈ digits, PimSync.isDigit b = true) :
    decimals digits.length (numeral digits) = digits := by
  induction digits using List.reverseRecOn with
  | nil => rfl
  | append_singleton digits b ih =>
    rw [List.forall_mem_append, List.forall_mem_singleton] at h
    obtain ⟨n, hn, rfl⟩ := exists_of_isDigit h.2
    have hfront : (numeral digits * 10 + n) / 10 = numeral digits := by omega
    have hlast : (numeral digits * 10 + n) % 10 = n := by omega
    rw [List.length_append, List.length_singleton, decimals, numeral_concat _ hn, hfront, hlast, ih h.1]

def push? (n : UInt16) (b : UInt8) : Option UInt16 :=
  if 0x30 ≤ b ∧ n.toNat * 10 + (b - 0x30).toNat < UInt16.size then some (n * 10 + (b - 0x30).toUInt16) else none

def word? (t : ClockTime) (start width : Nat) : Option UInt16 := (t.slice start width).foldlM push? 0

lemma foldlM_push? (h : ∀ b ∈ digits, PimSync.isDigit b = true) (hl : digits.length ≤ 4) :
    digits.foldlM push? 0 = some (.ofNat (numeral digits)) := by
  induction digits using List.reverseRecOn with
  | nil => rfl
  | append_singleton digits b ih =>
    rw [List.forall_mem_append, List.forall_mem_singleton] at h
    rw [List.length_append, List.length_singleton] at hl
    obtain ⟨n, hn, rfl⟩ := exists_of_isDigit h.2
    have hfront : numeral digits < 10 ^ 3 :=
      Nat.lt_of_lt_of_le (numeral_lt h.1) (Nat.pow_le_pow_right (by decide) (by omega))
    have hword : (UInt16.ofNat (numeral digits)).toNat = numeral digits := by
      rw [UInt16.toNat_ofNat']
      omega
    have hten : (10 : UInt16).toNat = 10 := rfl
    have hstep : push? (.ofNat (numeral digits)) (.ofNat (0x30 + n)) = some (.ofNat (numeral digits * 10 + n)) := by
      have hsmall : numeral digits * 10 + n < UInt16.size := by
        rw [UInt16.size]
        omega
      rw [push?, value_ofNat n hn, hword, if_pos ⟨(isDigit_iff.mp (isDigit_ofNat n hn)).1, hsmall⟩]
      refine congrArg some (UInt16.toNat_inj.mp ?_)
      simp only [UInt16.toNat_add, UInt16.toNat_mul, UInt8.toNat_toUInt16, value_ofNat n hn, hword, hten,
        UInt16.toNat_ofNat']
      omega
    rw [List.foldlM_append, ih h.1 (by omega), numeral_concat _ hn]
    simpa using hstep

lemma ofBytes_eq_ok : ofBytes digits = .ok t ↔ t.digits.val = digits := by
  constructor
  · intro h
    simp only [ofBytes, ofBlock] at h
    split at h <;> [split at h; skip] <;> cases h
    rfl
  · rintro rfl
    rw [ofBytes, dif_pos t.digits.property, ofBlock, dif_pos t.isDigit]

lemma exists_ofBytes_iff : (∃ t, ofBytes digits = .ok t) ↔
    digits.length = 14 ∧ ∀ b ∈ digits, PimSync.isDigit b = true := by
  simp only [ofBytes_eq_ok]
  constructor
  · rintro ⟨t, rfl⟩
    exact ⟨t.digits.property, List.all_eq_true.mp t.isDigit⟩
  · rintro ⟨hl, hd⟩
    exact ⟨⟨⟨digits, hl⟩, List.all_eq_true.mpr hd⟩, rfl⟩

lemma charIsDigit_iff {c : Char} : c.isDigit = true ↔ 0x30 ≤ c.toNat ∧ c.toNat ≤ 0x39 := by
  rw [Char.isDigit, Bool.and_eq_true, decide_eq_true_iff, decide_eq_true_iff]
  exact Iff.rfl

lemma encodeChar_of_isDigit {c : Char} (h : c.isDigit = true) : String.utf8EncodeChar c = [.ofNat c.toNat] := by
  obtain ⟨-, hh⟩ := charIsDigit_iff.mp h
  rw [← Utf8.encode_one (show c.toNat ≤ 0x7f by omega), Char.ofNat_toNat]

lemma isDigit_encodeChar {c : Char} :
    (∀ b ∈ String.utf8EncodeChar c, PimSync.isDigit b = true) ↔ c.isDigit = true := by
  constructor
  · intro h
    obtain ⟨b, x, hc⟩ := List.exists_cons_of_ne_nil (String.utf8EncodeChar_ne_nil (c := c))
    obtain ⟨n, hn, rfl⟩ := exists_of_isDigit (h b (hc ▸ List.mem_cons_self))
    have hcompletes := Utf8.completes_of_encode hc
    rw [Utf8.toNat_ofNat (by omega), Utf8.lead, if_pos (by omega)] at hcompletes
    obtain ⟨-, rfl⟩ := hcompletes
    exact (show ∀ n < 10, (Char.ofNat (0x30 + n)).isDigit = true by decide) n hn
  · intro h
    obtain ⟨hl, hh⟩ := charIsDigit_iff.mp h
    rw [encodeChar_of_isDigit h, List.forall_mem_singleton, ← Nat.add_sub_cancel' hl]
    exact isDigit_ofNat _ (by omega)

lemma isDigit_encode : (∀ b ∈ Utf8.encode text, PimSync.isDigit b = true) ↔ ∀ c ∈ text.toList, c.isDigit = true := by
  simp only [Utf8.encode, List.forall_mem_flatMap, isDigit_encodeChar]

lemma length_encode (h : ∀ c ∈ text.toList, c.isDigit = true) : (Utf8.encode text).length = text.length := by
  have hone : ∀ c ∈ text.toList, (String.utf8EncodeChar c).length = 1 := fun c hc => by
    rw [encodeChar_of_isDigit (h c hc), List.length_singleton]
  rw [Utf8.encode, List.length_flatMap, List.map_congr_left hone, ← String.length_toList]
  simp

lemma exists_parse_iff : (∃ t, parse text = .ok t) ↔ text.length = 14 ∧ ∀ c ∈ text.toList, c.isDigit = true := by
  rw [parse, exists_ofBytes_iff, isDigit_encode]
  exact and_congr_left fun h => by rw [length_encode h]

lemma exists_ofBlock_iff (digits : Block 14) : (∃ t, ofBlock digits = .ok t) ↔
    ∀ b ∈ digits.val, 0x30 ≤ b ∧ b ≤ 0x39 := by
  have hbytes : ofBytes digits.val = ofBlock digits := dif_pos digits.property
  simp only [← hbytes, exists_ofBytes_iff, digits.property, true_and, isDigit_iff]

section Columns

variable {start : Nat}

lemma isDigit_slice (t : ClockTime) (start width : Nat) : ∀ b ∈ t.slice start width, PimSync.isDigit b = true :=
  fun b hb => List.all_eq_true.mp t.isDigit b (List.mem_of_mem_drop (List.mem_of_mem_take hb))

lemma length_slice (h : start + width ≤ 14) : (t.slice start width).length = width := by
  rw [slice, List.length_take, List.length_drop, t.digits.property]
  omega

lemma drop_eq_slice_append (t : ClockTime) (start width : Nat) :
    t.digits.val.drop start = t.slice start width ++ t.digits.val.drop (start + width) := by
  rw [slice, ← List.drop_drop, List.take_append_drop]

lemma digits_eq_slices (t : ClockTime) : t.digits.val = t.slice 0 4 ++ (t.slice 4 2 ++ (t.slice 6 2 ++ (t.slice 8 2 ++
    (t.slice 10 2 ++ t.slice 12 2)))) := by
  have hend : t.digits.val.drop 14 = [] := List.drop_eq_nil_of_le (Nat.le_of_eq t.digits.property)
  rw [← List.drop_zero (l := t.digits.val), drop_eq_slice_append t 0 4, drop_eq_slice_append t 4 2,
    drop_eq_slice_append t 6 2, drop_eq_slice_append t 8 2, drop_eq_slice_append t 10 2, drop_eq_slice_append t 12 2, hend, List.append_nil]

lemma number_lt (h : start + width ≤ 14) : t.number start width < 10 ^ width := by
  have hlt := numeral_lt (isDigit_slice t start width)
  rwa [length_slice h] at hlt

lemma decimals_number (h : start + width ≤ 14) : decimals width (t.number start width) = t.slice start width := by
  have hback := decimals_numeral (isDigit_slice t start width)
  rwa [length_slice h] at hback

lemma slice_eq_decimals_iff (h : start + width ≤ 14) (hn : n < 10 ^ width) :
    t.slice start width = decimals width n ↔ t.number start width = n := by
  constructor
  · intro hslice
    rw [← numeral_decimals hn, ← hslice]
    rfl
  · rintro rfl
    exact (decimals_number h).symm

lemma word?_eq (h : start + width ≤ 14) (hw : width ≤ 4) : t.word? start width = some (.ofNat (t.number start width)) :=
  foldlM_push? (isDigit_slice t start width) (by rwa [length_slice h])

end Columns

section Parts

variable {year : UInt16} {month day hour minute second : UInt8}

def Fit (year : UInt16) (month day hour minute second : UInt8) : Prop :=
  year ≤ 9999 ∧ month ≤ 99 ∧ day ≤ 99 ∧ hour ≤ 99 ∧ minute ≤ 99 ∧ second ≤ 99

def writeParts (year : UInt16) (month day hour minute second : UInt8) : Bytes :=
  decimals 4 year.toNat ++ (decimals 2 month.toNat ++ (decimals 2 day.toNat ++ (decimals 2 hour.toNat ++
    (decimals 2 minute.toNat ++ decimals 2 second.toNat))))

lemma ofParts_of_fit (h : Fit year month day hour minute second) :
    ofParts year month day hour minute second = ofBytes (writeParts year month day hour minute second) := by
  obtain ⟨hy, hmo, hd, hh, hmi, hs⟩ := h
  have hfew : ¬ (year > 9999 ∨ month > 99 ∨ day > 99 ∨ hour > 99 ∨ minute > 99 ∨ second > 99) := by
    simp only [gt_iff_lt, not_or, UInt16.not_lt, UInt8.not_lt]
    exact ⟨hy, hmo, hd, hh, hmi, hs⟩
  rw [ofParts, if_neg hfew, writeParts]
  simp only [List.append_assoc]

lemma ofParts_of_not_fit (h : ¬ Fit year month day hour minute second) :
    ofParts year month day hour minute second = .error .badTime := by
  rw [ofParts, if_pos]
  by_contra hfew
  simp only [gt_iff_lt, not_or, UInt16.not_lt, UInt8.not_lt] at hfew
  exact h hfew

lemma exists_ofParts_iff : (∃ t, ofParts year month day hour minute second = .ok t) ↔
    Fit year month day hour minute second := by
  constructor
  · rintro ⟨t, ht⟩
    by_contra h
    rw [ofParts_of_not_fit h] at ht
    cases ht
  · intro h
    rw [ofParts_of_fit h, exists_ofBytes_iff, writeParts]
    simp only [List.length_append, length_decimals, List.forall_mem_append]
    exact ⟨trivial, isDigit_decimals _ _, isDigit_decimals _ _, isDigit_decimals _ _, isDigit_decimals _ _,
      isDigit_decimals _ _, isDigit_decimals _ _⟩

lemma digits_eq_writeParts_iff (h : Fit year month day hour minute second) :
    t.digits.val = writeParts year month day hour minute second ↔ t.year = year.toNat ∧ t.month = month.toNat ∧
      t.day = day.toNat ∧ t.hour = hour.toNat ∧ t.minute = minute.toNat ∧ t.second = second.toNat := by
  obtain ⟨hy, hmo, hd, hh, hmi, hs⟩ := h
  have htwo {part : UInt8} (hp : part ≤ 99) : part.toNat < 10 ^ 2 := Nat.lt_succ_of_le (UInt8.le_iff_toNat_le.mp hp)
  have hfour : year.toNat < 10 ^ 4 := Nat.lt_succ_of_le (UInt16.le_iff_toNat_le.mp hy)
  have hcolumn {start width n : Nat} (hfits : start + width ≤ 14) {rest rest' : Bytes} :
      t.slice start width ++ rest = decimals width n ++ rest' ↔ t.slice start width = decimals width n ∧ rest = rest' :=
    ⟨fun h => List.append_inj h (by rw [length_slice hfits, length_decimals]), fun ⟨hs, hr⟩ => by rw [hs, hr]⟩
  rw [digits_eq_slices, writeParts, hcolumn (by decide), hcolumn (by decide), hcolumn (by decide), hcolumn (by decide),
    hcolumn (by decide), slice_eq_decimals_iff (by decide) hfour, slice_eq_decimals_iff (by decide) (htwo hmo),
    slice_eq_decimals_iff (by decide) (htwo hd), slice_eq_decimals_iff (by decide) (htwo hh),
    slice_eq_decimals_iff (by decide) (htwo hmi), slice_eq_decimals_iff (by decide) (htwo hs)]
  exact Iff.rfl

lemma ofParts_eq_ok : ofParts year month day hour minute second = .ok t ↔ Fit year month day hour minute second ∧
    t.year = year.toNat ∧ t.month = month.toNat ∧ t.day = day.toNat ∧ t.hour = hour.toNat ∧
    t.minute = minute.toNat ∧ t.second = second.toNat := by
  by_cases h : Fit year month day hour minute second
  · rw [ofParts_of_fit h, ofBytes_eq_ok, digits_eq_writeParts_iff h]
    exact (and_iff_right h).symm
  · rw [ofParts_of_not_fit h]
    exact iff_of_false (fun he => nomatch he) fun hp => h hp.1

end Parts

lemma ofParts_accessors (t : ClockTime) : ofParts (.ofNat t.year) (.ofNat t.month) (.ofNat t.day) (.ofNat t.hour)
    (.ofNat t.minute) (.ofNat t.second) = .ok t := by
  have hyear : UInt16.ofNat t.year ≤ 9999 ∧ t.year = (UInt16.ofNat t.year).toNat := by
    have hlt : t.year < 10 ^ 4 := number_lt (by decide)
    have hword : (UInt16.ofNat t.year).toNat = t.year := by
      rw [UInt16.toNat_ofNat', Nat.mod_eq_of_lt (Nat.lt_trans hlt (by decide))]
    refine ⟨UInt16.le_iff_toNat_le.mpr ?_, hword.symm⟩
    rw [hword]
    exact Nat.le_of_lt_succ hlt
  have hpart {start : Nat} (h : start + 2 ≤ 14) :
      UInt8.ofNat (t.number start 2) ≤ 99 ∧ t.number start 2 = (UInt8.ofNat (t.number start 2)).toNat := by
    have hlt : t.number start 2 < 10 ^ 2 := number_lt h
    have hbyte := Utf8.toNat_ofNat (Nat.lt_trans hlt (by decide))
    refine ⟨UInt8.le_iff_toNat_le.mpr ?_, hbyte.symm⟩
    rw [hbyte]
    exact Nat.le_of_lt_succ hlt
  have hmonth := hpart (show 4 + 2 ≤ 14 by decide)
  have hday := hpart (show 6 + 2 ≤ 14 by decide)
  have hhour := hpart (show 8 + 2 ≤ 14 by decide)
  have hminute := hpart (show 10 + 2 ≤ 14 by decide)
  have hsecond := hpart (show 12 + 2 ≤ 14 by decide)
  exact ofParts_eq_ok.mpr ⟨⟨hyear.1, hmonth.1, hday.1, hhour.1, hminute.1, hsecond.1⟩,
    hyear.2, hmonth.2, hday.2, hhour.2, hminute.2, hsecond.2⟩

/-- Clock times and calendar parts correspond one to one. -/
theorem parts_correspond :
    (∀ digits : Block 14, ((∃ t, ofBlock digits = .ok t) ↔ ∀ b ∈ digits.val, 0x30 ≤ b ∧ b ≤ 0x39) ∧
      ∀ t, ofBlock digits = .ok t ↔ t.digits = digits) ∧
    (∀ text : String, ((∃ t, parse text = .ok t) ↔ text.length = 14 ∧ ∀ c ∈ text.toList, c.isDigit = true) ∧
      ∀ t, parse text = .ok t ↔ t.digits.val = Utf8.encode text) ∧
    (∀ (year : UInt16) (month day hour minute second : UInt8),
      ((∃ t, ofParts year month day hour minute second = .ok t) ↔
        year ≤ 9999 ∧ month ≤ 99 ∧ day ≤ 99 ∧ hour ≤ 99 ∧ minute ≤ 99 ∧ second ≤ 99) ∧
      ∀ t, ofParts year month day hour minute second = .ok t ↔
        (year ≤ 9999 ∧ month ≤ 99 ∧ day ≤ 99 ∧ hour ≤ 99 ∧ minute ≤ 99 ∧ second ≤ 99) ∧
          t.year = year.toNat ∧ t.month = month.toNat ∧ t.day = day.toNat ∧ t.hour = hour.toNat ∧
          t.minute = minute.toNat ∧ t.second = second.toNat) ∧
    ∀ t : ClockTime,
      (t.word? 0 4 = some (.ofNat t.year) ∧ t.word? 4 2 = some (.ofNat t.month) ∧ t.word? 6 2 = some (.ofNat t.day) ∧
        t.word? 8 2 = some (.ofNat t.hour) ∧ t.word? 10 2 = some (.ofNat t.minute) ∧
        t.word? 12 2 = some (.ofNat t.second)) ∧
      (t.year < 10 ^ 4 ∧ t.month < 10 ^ 2 ∧ t.day < 10 ^ 2 ∧ t.hour < 10 ^ 2 ∧ t.minute < 10 ^ 2 ∧ t.second < 10 ^ 2) ∧
      ofParts (.ofNat t.year) (.ofNat t.month) (.ofNat t.day) (.ofNat t.hour) (.ofNat t.minute) (.ofNat t.second) =
        .ok t := by
  refine ⟨fun digits => ⟨exists_ofBlock_iff digits, fun t => ?_⟩,
    fun text => ⟨exists_parse_iff, fun t => ofBytes_eq_ok⟩,
    fun year month day hour minute second => ⟨exists_ofParts_iff, fun t => ofParts_eq_ok⟩, fun t => ⟨?_, ?_, ?_⟩⟩
  · have hbytes : ofBytes digits.val = ofBlock digits := dif_pos digits.property
    rw [← hbytes, ofBytes_eq_ok, Subtype.ext_iff]
  · refine ⟨?_, ?_, ?_, ?_, ?_, ?_⟩ <;> exact word?_eq (by decide) (by decide)
  · refine ⟨?_, ?_, ?_, ?_, ?_, ?_⟩ <;> exact number_lt (by decide)
  · exact ofParts_accessors t

theorem parts_correspond_leap_second :
    (∃ t, parse "20161231235960" = .ok t) ∧ ¬ (∃ t, parse "2016123123596٠" = .ok t) ∧
    (∃ t, ofParts 9999 99 0 24 0 60 = .ok t) ∧ ¬ (∃ t, ofParts 10000 1 1 0 0 0 = .ok t) := by
  obtain ⟨-, htext, hparts, -⟩ := parts_correspond
  refine ⟨(htext _).1.mpr ⟨by decide, List.all_eq_true.mp (by decide)⟩, fun h => ?_,
    (hparts 9999 99 0 24 0 60).1.mpr (by decide), fun h => ?_⟩
  · exact absurd (List.all_eq_true.mpr ((htext _).1.mp h).2) (by decide)
  · exact absurd ((hparts 10000 1 1 0 0 0).1.mp h) (by decide)

end ClockTime

end PimSync
