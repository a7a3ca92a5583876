import Mathlib.Algebra.Ring.Nat
import PimSync.Log

namespace PimSync

namespace Bytes

variable {width fuel : Nat} {bytes as bs : Bytes}

lemma flatten_chunks_go (hw : 0 < width) (hf : bytes.length ≤ fuel) : (chunks.go width fuel bytes).flatten = bytes := by
  induction fuel generalizing bytes with
  | zero => rw [List.eq_nil_of_length_eq_zero (Nat.le_zero.mp hf), chunks.go, List.flatten_nil]
  | succ fuel ih =>
    cases bytes with
    | nil => rfl
    | cons b bs =>
      have hdrop : ((b :: bs).drop width).length ≤ fuel := by
        rw [List.length_drop]
        omega
      rw [chunks.go, List.flatten_cons, ih hdrop, List.take_append_drop]

lemma flatten_chunks (hw : 0 < width) (bytes : Bytes) : (chunks width bytes).flatten = bytes :=
  flatten_chunks_go hw le_rfl

lemma lengths_chunks_go (hl : as.length = bs.length) :
    (chunks.go width fuel as).map List.length = (chunks.go width fuel bs).map List.length := by
  induction fuel generalizing as bs with
  | zero => rfl
  | succ fuel ih =>
    cases as with
    | nil => rw [List.eq_nil_of_length_eq_zero hl.symm]
    | cons a as =>
      obtain ⟨b, bs, rfl⟩ := List.exists_cons_of_length_eq_add_one hl.symm
      have hdrop : ((a :: as).drop width).length = ((b :: bs).drop width).length := by
        rw [List.length_drop, List.length_drop, hl]
      rw [chunks.go, chunks.go, List.map_cons, List.map_cons, ih hdrop, List.length_take, List.length_take, hl]

lemma lengths_chunks (hl : as.length = bs.length) :
    (chunks width as).map List.length = (chunks width bs).map List.length := by
  rw [chunks, chunks, hl]
  exact lengths_chunks_go hl

end Bytes

namespace Text

lemma hexDigit_inj : ∀ m < 16, ∀ n < 16, hexDigit m = hexDigit n → m = n := by decide

lemma hexPair_inj {a b : UInt8} (h : hexPair a = hexPair b) : a = b := by
  have ha := a.toNat_lt
  have hb := b.toNat_lt
  obtain ⟨hhigh, hlow, -⟩ : _ ∧ _ ∧ True := by simpa only [hexPair, List.cons.injEq] using h
  have h₁ := hexDigit_inj _ (by omega) _ (by omega) hhigh
  have h₂ := hexDigit_inj _ (by omega) _ (by omega) hlow
  exact UInt8.toNat_inj.mp (by omega)

def hexPairs (bytes : Bytes) : List Char := [' '].intercalate (bytes.map hexPair)

lemma hexPairs_cons_cons (a b : UInt8) (bytes : Bytes) :
    hexPairs (a :: b :: bytes) = hexPair a ++ (' ' :: hexPairs (b :: bytes)) := by
  rw [hexPairs, List.map_cons, List.map_cons, List.intercalate_cons_cons, List.append_assoc]
  rfl

lemma hexPairs_inj {as bs : Bytes} (hl : as.length = bs.length) (h : hexPairs as = hexPairs bs) : as = bs := by
  induction as generalizing bs with
  | nil => exact (List.eq_nil_of_length_eq_zero hl.symm).symm
  | cons a as ih =>
    obtain ⟨b, bs, rfl⟩ := List.exists_cons_of_length_eq_add_one hl.symm
    cases as with
    | nil =>
      obtain rfl := List.eq_nil_of_length_eq_zero (Nat.succ_inj.mp hl).symm
      rw [hexPairs, hexPairs, List.map_singleton, List.map_singleton, List.intercalate_singleton,
        List.intercalate_singleton] at h
      rw [hexPair_inj h]
    | cons a' as =>
      obtain ⟨b', bs, rfl⟩ := List.exists_cons_of_length_eq_add_one (Nat.succ_inj.mp hl).symm
      rw [hexPairs_cons_cons, hexPairs_cons_cons] at h
      obtain ⟨hhead, htail⟩ := List.append_inj h rfl
      rw [hexPair_inj hhead, ih (Nat.succ_inj.mp hl) (List.cons.inj htail).2]

lemma length_hexPairs (bytes : Bytes) : (hexPairs bytes).length = 3 * bytes.length - 1 := by
  induction bytes with
  | nil => rfl
  | cons b bytes ih =>
    cases bytes with
    | nil => rfl
    | cons b' bytes =>
      rw [hexPairs_cons_cons, List.length_append, List.length_cons, ih]
      simp only [hexPair, List.length_cons, List.length_nil]
      omega

end Text

namespace Log.Entry

open Text

variable {e e' : Entry} {as bs : Bytes} {offset : Nat}

lemma toList_row (offset : Nat) (bytes : Bytes) : ∃ shown : List Char, shown.length = bytes.length ∧
    (row offset bytes).toList = ("  " ++ hex 4 offset ++ "  ").toList ++ (hexPairs bytes ++
      (List.replicate (47 - (hexPairs bytes).length) ' ' ++ (' ' :: ' ' :: (shown ++ ['\n'])))) := by
  refine ⟨bytes.map fun b => if isGraphic b then graphic b else '.', List.length_map _, ?_⟩
  have hpairs : (" ".intercalate (bytes.map fun b => String.ofList (hexPair b))).toList = hexPairs bytes := by
    rw [String.toList_intercalate, List.map_map]
    simp only [Function.comp_def, String.toList_ofList]
    rfl
  simp only [row, padRight, String.toList_append, String.toList_ofList, hpairs, ← String.length_toList,
    List.append_assoc]
  rfl

lemma length_row (hl : as.length = bs.length) : (row offset as).toList.length = (row offset bs).toList.length := by
  obtain ⟨shown, hshown, has⟩ := toList_row offset as
  obtain ⟨shown', hshown', hbs⟩ := toList_row offset bs
  simp only [has, hbs, List.length_append, List.length_cons, List.length_replicate, length_hexPairs, hshown,
    hshown', hl]

lemma row_append_inj {s t : List Char} (hl : as.length = bs.length)
    (h : (row offset as).toList ++ s = (row offset bs).toList ++ t) : as = bs ∧ s = t := by
  obtain ⟨hrow, hst⟩ := List.append_inj h (length_row hl)
  obtain ⟨shown, -, has⟩ := toList_row offset as
  obtain ⟨shown', -, hbs⟩ := toList_row offset bs
  rw [has, hbs] at hrow
  have hpairs : (hexPairs as).length = (hexPairs bs).length := by rw [length_hexPairs, length_hexPairs, hl]
  exact ⟨hexPairs_inj hl (List.append_inj ((List.append_right_inj _).mp hrow) hpairs).1, hst⟩

def rows (offset : Nat → Nat) (chunks : List Bytes) : List Char :=
  (chunks.mapIdx fun i bytes => row (offset i) bytes).flatMap String.toList

lemma rows_cons (offset : Nat → Nat) (chunk : Bytes) (chunks : List Bytes) :
    rows offset (chunk :: chunks) = (row (offset 0) chunk).toList ++ rows (fun i => offset (i + 1)) chunks := by
  rw [rows, List.mapIdx_cons, List.flatMap_cons]
  rfl

lemma length_rows {offset : Nat → Nat} {as bs : List Bytes} (hl : as.map List.length = bs.map List.length) :
    (rows offset as).length = (rows offset bs).length := by
  induction as generalizing bs offset with
  | nil => rw [List.map_eq_nil_iff.mp hl.symm]
  | cons a as ih =>
    obtain ⟨b, bs, rfl, hb, hbs⟩ := List.map_eq_cons_iff.mp hl.symm
    rw [rows_cons, rows_cons, List.length_append, List.length_append, length_row hb.symm, ih hbs.symm]

lemma rows_inj {offset : Nat → Nat} {as bs : List Bytes} (hl : as.map List.length = bs.map List.length)
    (h : rows offset as = rows offset bs) : as = bs := by
  induction as generalizing bs offset with
  | nil => rw [List.map_eq_nil_iff.mp hl.symm]
  | cons a as ih =>
    obtain ⟨b, bs, rfl, hb, hbs⟩ := List.map_eq_cons_iff.mp hl.symm
    rw [rows_cons, rows_cons] at h
    obtain ⟨rfl, hrest⟩ := row_append_inj hb.symm h
    rw [ih hbs.symm hrest]

lemma toList_text (e : Entry) :
    e.text.toList = (e.header ++ "\n").toList ++ rows (16 * ·) (e.bytes.chunks 16) := by
  rw [text, String.toList_append, String.toList_join]
  rfl

lemma bytes_eq_of_text_eq (hl : e.bytes.length = e'.bytes.length) (h : e.text = e'.text) : e.bytes = e'.bytes := by
  have hchunks : (e.bytes.chunks 16).map List.length = (e'.bytes.chunks 16).map List.length :=
    Bytes.lengths_chunks hl
  have hflatten (bytes : Bytes) : (bytes.chunks 16).flatten = bytes := Bytes.flatten_chunks (by decide) bytes
  have htext := congrArg String.toList h
  rw [toList_text, toList_text] at htext
  have hrows := rows_inj hchunks (List.append_inj' htext (length_rows hchunks)).2
  rw [← hflatten e.bytes, hrows, hflatten]

end Log.Entry

end PimSync
