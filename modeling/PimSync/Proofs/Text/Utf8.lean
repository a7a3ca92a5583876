import Mathlib.Algebra.Ring.Nat
import PimSync.Text.Utf8

namespace PimSync.Text.Utf8

variable {b n : Nat} {p : Partial} {c : Char} {chars : List Char} {st : State}

lemma lead_two (hb : 0xc2 ≤ b) (h : b < 0xe0) : lead b = .start ⟨0, 0x80, 0xbf, b - 0xc0⟩ := by
  rw [lead, if_neg (by omega), if_neg (by omega), if_pos h]

lemma lead_three (hb : 0xe0 ≤ b) (h : b < 0xf0) :
    lead b = .start ⟨1, if b = 0xe0 then 0xa0 else 0x80, if b = 0xed then 0x9f else 0xbf, b - 0xe0⟩ := by
  rw [lead, if_neg (by omega), if_neg (by omega), if_neg (by omega)]
  by_cases h₁ : b = 0xe0
  · subst h₁
    rfl
  rw [if_neg h₁, if_neg h₁]
  by_cases h₂ : b = 0xed
  · subst h₂
    rfl
  rw [if_neg h₂, if_neg h₂, if_pos h]

lemma lead_four (hb : 0xf0 ≤ b) (h : b ≤ 0xf4) :
    lead b = .start ⟨2, if b = 0xf0 then 0x90 else 0x80, if b = 0xf4 then 0x8f else 0xbf, b - 0xf0⟩ := by
  rw [lead, if_neg (by omega), if_neg (by omega), if_neg (by omega), if_neg (by omega), if_neg (by omega),
    if_neg (by omega)]
  by_cases h₁ : b = 0xf0
  · subst h₁
    rfl
  rw [if_neg h₁, if_neg h₁]
  by_cases h₂ : b = 0xf4
  · subst h₂
    rfl
  rw [if_pos (show b < 0xf4 by omega), if_neg h₂]

lemma toNat_ofNat (hn : n < 256) : (UInt8.ofNat n).toNat = n := by
  rw [UInt8.toNat_ofNat']
  exact Nat.mod_eq_of_lt hn

def Completes : Bytes → Partial → Char → Prop
  | [], _, _ => False
  | b :: rest, p, c => (p.low ≤ b.toNat ∧ b.toNat ≤ p.high) ∧
    match p.missing with
    | 0 => rest = [] ∧ c = Char.ofNat (p.bits * 64 + (b.toNat - 0x80))
    | missing + 1 => Completes rest ⟨missing, 0x80, 0xbf, p.bits * 64 + (b.toNat - 0x80)⟩ c

def Lead.Completes : Lead → Bytes → Char → Prop
  | .single c', x, c => x = [] ∧ c = c'
  | .start p, x, c => Utf8.Completes x p c
  | .stray, _, _ => False

lemma completes_of_encode {b : UInt8} {x : Bytes} (h : String.utf8EncodeChar c = b :: x) : (lead b.toNat).Completes x c := by
  have hchar : Char.ofNat c.val.toNat = c := Char.ofNat_toNat c
  have hvalid : c.val.toNat < 0xd800 ∨ 0xdfff < c.val.toNat ∧ c.val.toNat < 0x110000 := c.valid
  unfold String.utf8EncodeChar at h
  generalize c.val.toNat = v at hchar hvalid h
  dsimp only at h
  split at h
  · obtain ⟨rfl, rfl⟩ := List.cons.inj h
    rw [toNat_ofNat (by omega), show lead v = .single (Char.ofNat v) from if_pos (by omega)]
    exact ⟨rfl, hchar.symm⟩
  split at h
  · obtain ⟨rfl, rfl⟩ := List.cons.inj h
    rw [toNat_ofNat (by omega), lead_two (by omega) (by omega)]
    simp only [Lead.Completes, Completes, toNat_ofNat (show v % 64 + 128 < 256 by omega), ← hchar]
    exact ⟨by omega, trivial, congrArg Char.ofNat (by omega)⟩
  split at h
  · obtain ⟨rfl, rfl⟩ := List.cons.inj h
    rw [toNat_ofNat (by omega), lead_three (by omega) (by omega)]
    simp only [Lead.Completes, Completes, toNat_ofNat (show v % 64 + 128 < 256 by omega),
      toNat_ofNat (show v / 64 % 64 + 128 < 256 by omega), ← hchar]
    exact ⟨⟨by split <;> omega, by split <;> omega⟩, by omega, trivial, congrArg Char.ofNat (by omega)⟩
  · obtain ⟨rfl, rfl⟩ := List.cons.inj h
    rw [toNat_ofNat (by omega), lead_four (by omega) (by omega)]
    simp only [Lead.Completes, Completes, toNat_ofNat (show v % 64 + 128 < 256 by omega),
      toNat_ofNat (show v / 64 % 64 + 128 < 256 by omega), toNat_ofNat (show v / 4096 % 64 + 128 < 256 by omega),
      ← hchar]
    exact ⟨⟨by split <;> omega, by split <;> omega⟩, by omega, by omega, trivial, congrArg Char.ofNat (by omega)⟩

lemma Completes.foldl_step {x : Bytes} (h : Completes x p c) (chars : List Char) :
    x.foldl step (some p, chars) = (none, c :: chars) := by
  induction x generalizing p with
  | nil => exact h.elim
  | cons b x ih =>
    obtain ⟨hb, h⟩ := h
    rw [List.foldl_cons, step, if_pos hb]
    cases hm : p.missing with
    | zero =>
      rw [hm] at h
      rw [h.1, h.2, List.foldl_nil]
    | succ missing =>
      rw [hm] at h
      exact ih h

lemma foldl_step_char (c : Char) (chars : List Char) :
    (String.utf8EncodeChar c).foldl step (none, chars) = (none, c :: chars) := by
  obtain ⟨b, x, hc⟩ := List.exists_cons_of_ne_nil (String.utf8EncodeChar_ne_nil (c := c))
  have h := completes_of_encode hc
  rw [hc, List.foldl_cons, step, first]
  cases hlead : lead b.toNat with
  | single c' =>
    rw [hlead] at h
    obtain ⟨rfl, rfl⟩ := h
    rfl
  | start p =>
    rw [hlead] at h
    exact Completes.foldl_step h chars
  | stray =>
    rw [hlead] at h
    exact h.elim

lemma foldl_step_chars (text chars : List Char) :
    (text.flatMap String.utf8EncodeChar).foldl step (none, chars) = (none, text.reverse ++ chars) := by
  induction text generalizing chars with
  | nil => rfl
  | cons c text ih =>
    rw [List.flatMap_cons, List.foldl_append, foldl_step_char, ih, List.reverse_cons, List.append_assoc]
    rfl

lemma decode_encode (text : String) : decode (encode text) = text := by
  rw [decode, encode, foldl_step_chars, finish, List.append_nil, List.reverse_reverse, String.ofList_toList]

lemma first_ne_start (chars : List Char) (b : Nat) : first chars b ≠ (none, []) := by
  unfold first
  split <;> simp

lemma step_ne_start (st : State) (b : UInt8) : step st b ≠ (none, []) := by
  obtain ⟨_ | p, chars⟩ := st
  · exact first_ne_start chars _
  · rw [step]
    split
    · dsimp only
      split <;> simp
    · exact first_ne_start _ _

lemma foldl_step_ne_start {bytes : Bytes} (h : bytes ≠ [] ∨ st ≠ (none, [])) : bytes.foldl step st ≠ (none, []) := by
  induction bytes generalizing st with
  | nil => exact h.resolve_left fun hn => hn rfl
  | cons b bytes ih => exact ih (.inr (step_ne_start st b))

lemma finish_ne_nil (h : st ≠ (none, [])) : finish st ≠ [] := by
  obtain ⟨_ | p, _ | ⟨c, chars⟩⟩ := st
  · exact absurd rfl h
  all_goals simp [finish]

lemma decode_ne_empty {bytes : Bytes} (h : bytes ≠ []) : decode bytes ≠ "" := by
  intro he
  have htext := congrArg String.toList he
  rw [decode, String.toList_ofList] at htext
  exact finish_ne_nil (foldl_step_ne_start (.inl h)) htext

lemma encode_ne_nil {text : String} (h : text ≠ "") : encode text ≠ [] := by
  intro he
  apply h
  rw [← decode_encode text, he]
  rfl

end PimSync.Text.Utf8
