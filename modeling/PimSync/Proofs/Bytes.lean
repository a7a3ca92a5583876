import Mathlib.Algebra.Ring.Nat
import PimSync.Bytes

namespace PimSync.Bytes

lemma split?_append {n : Nat} {bytes : Bytes} (h : bytes.length = n) (rest : Bytes) :
    split? n (bytes ++ rest) = some (⟨bytes, h⟩, rest) := by
  subst h
  simp [split?]

lemma split?_block {n : Nat} (b : Block n) (rest : Bytes) : split? n (b.val ++ rest) = some (b, rest) :=
  split?_append b.property rest

@[simp] lemma length_ofNat (width n : Nat) : (ofNat width n).length = width := by
  induction width generalizing n with
  | zero => rfl
  | succ width ih => simp [ofNat, ih]

lemma toNat_ofNat (width n : Nat) : toNat (ofNat width n) = n % 256 ^ width := by
  induction width generalizing n with
  | zero => simp [ofNat, toNat, Nat.mod_one]
  | succ width ih =>
    rw [ofNat, toNat, ih, Nat.pow_succ', Nat.mod_mul]
    simp

lemma ofNat_toNat (bytes : Bytes) : ofNat bytes.length (toNat bytes) = bytes := by
  induction bytes with
  | nil => rfl
  | cons b bs ih =>
    have hb := b.toNat_lt
    have hhead : UInt8.ofNat (toNat (b :: bs)) = b := by simp [toNat]
    have htail : toNat (b :: bs) / 256 = toNat bs := by
      rw [toNat]
      omega
    rw [List.length_cons, ofNat, hhead, htail, ih]

lemma toNat_lt (bytes : Bytes) : toNat bytes < 256 ^ bytes.length := by
  induction bytes with
  | nil => simp [toNat]
  | cons b bs ih =>
    have hb := b.toNat_lt
    rw [toNat, List.length_cons, Nat.pow_succ]
    omega

@[simp] lemma length_ofWord (w : UInt16) : (ofWord w).length = 2 := length_ofNat _ _

@[simp] lemma length_ofLong (w : UInt32) : (ofLong w).length = 4 := length_ofNat _ _

@[simp] lemma toByte_singleton (b : UInt8) : toByte [b] = b := by
  simp [toByte, toNat]

@[simp] lemma toWord_ofWord (w : UInt16) : toWord (ofWord w) = w := by
  have := w.toNat_lt
  rw [toWord, ofWord, toNat_ofNat, Nat.mod_eq_of_lt (by omega)]
  exact UInt16.ofNat_toNat

@[simp] lemma toLong_ofLong (w : UInt32) : toLong (ofLong w) = w := by
  have := w.toNat_lt
  rw [toLong, ofLong, toNat_ofNat, Nat.mod_eq_of_lt (by omega)]
  exact UInt32.ofNat_toNat

lemma ofByte_toByte {bytes : Bytes} (h : bytes.length = 1) : [bytes.toByte] = bytes := by
  obtain ⟨b, rfl⟩ := List.length_eq_one_iff.mp h
  rw [toByte_singleton]

lemma ofWord_toWord {bytes : Bytes} (h : bytes.length = 2) : ofWord bytes.toWord = bytes := by
  have hlt := toNat_lt bytes
  rw [h] at hlt
  rw [ofWord, toWord, UInt16.toNat_ofNat', Nat.mod_eq_of_lt (by omega), ← h]
  exact ofNat_toNat bytes

lemma ofLong_toLong {bytes : Bytes} (h : bytes.length = 4) : ofLong bytes.toLong = bytes := by
  have hlt := toNat_lt bytes
  rw [h] at hlt
  rw [ofLong, toLong, UInt32.toNat_ofNat', Nat.mod_eq_of_lt (by omega), ← h]
  exact ofNat_toNat bytes

lemma split?_eq_none {n : Nat} {bytes : Bytes} : split? n bytes = none ↔ bytes.length < n := by
  simp only [split?, List.length_take, dite_eq_right_iff, reduceCtorEq, imp_false]
  omega

lemma split?_eq_some {n : Nat} {bytes : Bytes} {b : Block n} {rest : Bytes} :
    split? n bytes = some (b, rest) ↔ bytes = b.val ++ rest := by
  constructor
  · intro h
    simp only [split?] at h
    split at h
    · cases h
      exact (List.take_append_drop n bytes).symm
    · cases h
  · rintro rfl
    exact split?_block b rest

lemma drop_eq_pair {n : Nat} {bytes : Bytes} (hl : bytes.length = n + 2) : bytes.drop n = [bytes[n], bytes[n + 1]] := by
  rw [List.drop_eq_getElem_cons (by omega), List.drop_eq_getElem_cons (by omega), List.drop_eq_nil_of_le (by omega)]

lemma eq_slices {n : Nat} {bytes : Bytes} (h3 : 3 ≤ n) (hl : bytes.length = n + 2) :
    bytes = [bytes[0], bytes[1], bytes[2]] ++ (bytes.extract 3 n ++ [bytes[n], bytes[n + 1]]) := by
  have hfront : bytes = [bytes[0], bytes[1], bytes[2]] ++ bytes.drop 3 := by
    have h := List.drop_eq_getElem_cons (l := bytes) (i := 0) (by omega)
    rwa [List.drop_eq_getElem_cons (i := 0 + 1), List.drop_eq_getElem_cons (i := 0 + 1 + 1), List.drop_zero] at h
  have hmiddle : bytes.drop 3 = bytes.extract 3 n ++ bytes.drop n := by
    have h := (List.take_append_drop (n - 3) (bytes.drop 3)).symm
    rwa [List.drop_drop, Nat.add_sub_cancel' h3] at h
  rw [← drop_eq_pair hl, ← hmiddle]
  exact hfront

end PimSync.Bytes
