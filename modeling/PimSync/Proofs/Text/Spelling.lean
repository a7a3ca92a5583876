import Mathlib.Data.List.Basic
import PimSync.Proofs.Text.Utf8

/-! What text a byte string spells: characters as they are encoded, and a replacement character for each flaw. -/

namespace PimSync.Text.Utf8

variable {b : UInt8} {x y bytes front rest : Bytes} {p : Partial} {c c' : Char} {n : Nat} {chars text : List Char}

def Begins (bytes : Bytes) : Prop := ∃ c, bytes <+: String.utf8EncodeChar c

/-- The front begins a character and goes no further with what comes next, or it is one byte and begins none. -/
structure Flaw (front rest : Bytes) : Prop where
  begins : Begins front ∨ front.length = 1
  nonempty : front ≠ []
  incomplete : ∀ c, front ≠ String.utf8EncodeChar c
  longest : ∀ b ∈ rest.head?, ¬ Begins (front ++ [b])

/-- A byte string read from left to right, a replacement character for each flaw in it. -/
inductive Spells : Bytes → List Char → Prop
  | nil : Spells [] []
  | char (c : Char) {rest : Bytes} {text : List Char} : Spells rest text →
      Spells (String.utf8EncodeChar c ++ rest) (c :: text)
  | flaw {front rest : Bytes} {text : List Char} : Flaw front rest → Spells rest text →
      Spells (front ++ rest) (replacement :: text)

lemma val_ofNat (h : n.isValidChar) : (Char.ofNat n).val.toNat = n := by
  rw [Char.ofNat, dif_pos h]
  rfl

lemma ofNat_eq_of_toNat (h : n = b.toNat) : UInt8.ofNat n = b := by
  rw [h, UInt8.ofNat_toNat]

lemma encode_one (hh : n ≤ 0x7f) : String.utf8EncodeChar (Char.ofNat n) = [.ofNat n] := by
  unfold String.utf8EncodeChar
  rw [val_ofNat (.inl (by omega))]
  exact if_pos hh

lemma encode_two (hl : 0x7f < n) (hh : n ≤ 0x7ff) :
    String.utf8EncodeChar (Char.ofNat n) = [.ofNat (n / 64 % 32 + 192), .ofNat (n % 64 + 128)] := by
  unfold String.utf8EncodeChar
  rw [val_ofNat (.inl (by omega))]
  dsimp only
  rw [if_neg (by omega), if_pos hh]

lemma encode_three (hl : 0x7ff < n) (hh : n ≤ 0xffff) (hv : n.isValidChar) : String.utf8EncodeChar (Char.ofNat n) =
    [.ofNat (n / 4096 % 16 + 224), .ofNat (n / 64 % 64 + 128), .ofNat (n % 64 + 128)] := by
  unfold String.utf8EncodeChar
  rw [val_ofNat hv]
  dsimp only
  rw [if_neg (by omega), if_neg (by omega), if_pos hh]

lemma encode_four (hl : 0xffff < n) (hv : n.isValidChar) : String.utf8EncodeChar (Char.ofNat n) =
    [.ofNat (n / 262144 % 8 + 240), .ofNat (n / 4096 % 64 + 128), .ofNat (n / 64 % 64 + 128),
      .ofNat (n % 64 + 128)] := by
  unfold String.utf8EncodeChar
  rw [val_ofNat hv]
  dsimp only
  rw [if_neg (by omega), if_neg (by omega), if_neg (by omega)]

lemma Completes.length {x : Bytes} {p : Partial} (h : Completes x p c) : x.length = p.missing + 1 := by
  induction x generalizing p with
  | nil => exact h.elim
  | cons b rest ih =>
    obtain ⟨missing, low, high, bits⟩ := p
    cases missing with
    | zero => simp [h.2.1]
    | succ missing => simpa using ih h.2

lemma encode_of_completes_two (hl : 0xc2 ≤ b.toNat) (hh : b.toNat < 0xe0)
    (h : Completes x ⟨0, 0x80, 0xbf, b.toNat - 0xc0⟩ c) : String.utf8EncodeChar c = b :: x := by
  obtain ⟨b₁, rfl⟩ := List.length_eq_one_iff.1 h.length
  simp only [Completes] at h
  obtain ⟨hrange, -, hc⟩ := h
  rw [hc, encode_two (by omega) (by omega), ofNat_eq_of_toNat (b := b) (by omega),
    ofNat_eq_of_toNat (b := b₁) (by omega)]

lemma encode_of_completes_three (hl : 0xe0 ≤ b.toNat) (hh : b.toNat < 0xf0)
    (h : Completes x ⟨1, if b.toNat = 0xe0 then 0xa0 else 0x80, if b.toNat = 0xed then 0x9f else 0xbf,
      b.toNat - 0xe0⟩ c) : String.utf8EncodeChar c = b :: x := by
  obtain ⟨b₁, b₂, rfl⟩ := List.length_eq_two.1 h.length
  simp only [Completes] at h
  obtain ⟨hrange, hrange', -, hc⟩ := h
  have hsecond : 0x80 ≤ b₁.toNat ∧ b₁.toNat ≤ 0xbf ∧ (b.toNat = 0xe0 → 0xa0 ≤ b₁.toNat) ∧
      (b.toNat = 0xed → b₁.toNat ≤ 0x9f) := by
    split at hrange <;> split at hrange <;> omega
  have hvalid : Nat.isValidChar (((b.toNat - 0xe0) * 64 + (b₁.toNat - 0x80)) * 64 + (b₂.toNat - 0x80)) := by
    unfold Nat.isValidChar
    omega
  rw [hc, encode_three (by omega) (by omega) hvalid, ofNat_eq_of_toNat (b := b) (by omega),
    ofNat_eq_of_toNat (b := b₁) (by omega), ofNat_eq_of_toNat (b := b₂) (by omega)]

lemma encode_of_completes_four (hl : 0xf0 ≤ b.toNat) (hh : b.toNat ≤ 0xf4)
    (h : Completes x ⟨2, if b.toNat = 0xf0 then 0x90 else 0x80, if b.toNat = 0xf4 then 0x8f else 0xbf,
      b.toNat - 0xf0⟩ c) : String.utf8EncodeChar c = b :: x := by
  obtain ⟨b₁, b₂, b₃, rfl⟩ := List.length_eq_three.1 h.length
  simp only [Completes] at h
  obtain ⟨hrange, hrange', hrange'', -, hc⟩ := h
  have hsecond : 0x80 ≤ b₁.toNat ∧ b₁.toNat ≤ 0xbf ∧ (b.toNat = 0xf0 → 0x90 ≤ b₁.toNat) ∧
      (b.toNat = 0xf4 → b₁.toNat ≤ 0x8f) := by
    split at hrange <;> split at hrange <;> omega
  have hvalid : Nat.isValidChar ((((b.toNat - 0xf0) * 64 + (b₁.toNat - 0x80)) * 64 + (b₂.toNat - 0x80)) * 64 +
      (b₃.toNat - 0x80)) := by
    unfold Nat.isValidChar
    omega
  rw [hc, encode_four (by omega) hvalid, ofNat_eq_of_toNat (b := b) (by omega),
    ofNat_eq_of_toNat (b := b₁) (by omega), ofNat_eq_of_toNat (b := b₂) (by omega),
    ofNat_eq_of_toNat (b := b₃) (by omega)]

lemma encode_of_completes (h : (lead b.toNat).Completes x c) : String.utf8EncodeChar c = b :: x := by
  by_cases h₁ : b.toNat < 0x80
  · rw [show lead b.toNat = .single (Char.ofNat b.toNat) from if_pos h₁] at h
    obtain ⟨rfl, rfl⟩ := h
    rw [encode_one (by omega), ofNat_eq_of_toNat rfl]
  by_cases h₂ : b.toNat < 0xc2
  · rw [show lead b.toNat = .stray by rw [lead, if_neg h₁, if_pos h₂]] at h
    exact h.elim
  by_cases h₃ : b.toNat < 0xe0
  · rw [lead_two (by omega) h₃] at h
    exact encode_of_completes_two (by omega) h₃ h
  by_cases h₄ : b.toNat < 0xf0
  · rw [lead_three (by omega) h₄] at h
    exact encode_of_completes_three (by omega) h₄ h
  by_cases h₅ : b.toNat ≤ 0xf4
  · rw [lead_four (by omega) h₅] at h
    exact encode_of_completes_four (by omega) h₅ h
  · rw [show lead b.toNat = .stray by
      rw [lead, if_neg h₁, if_neg h₂, if_neg h₃, if_neg (by omega), if_neg (by omega), if_neg h₄, if_neg (by omega),
        if_neg (by omega), if_neg (by omega)]] at h
    exact h.elim

lemma encode_eq_cons_iff : String.utf8EncodeChar c = b :: x ↔ (lead b.toNat).Completes x c :=
  ⟨completes_of_encode, encode_of_completes⟩

structure Pending (front : Bytes) (p : Partial) : Prop where
  begins : Begins front ∨ front.length = 1
  nonempty : front ≠ []
  completes : ∀ x c, String.utf8EncodeChar c = front ++ x ↔ Completes x p c

lemma exists_completes (hl : p.low ≤ b.toNat) (hh : b.toNat ≤ p.high) : ∃ x c, Completes (b :: x) p c := by
  obtain ⟨missing, low, high, bits⟩ := p
  induction missing generalizing b low high bits with
  | zero => exact ⟨[], _, ⟨hl, hh⟩, rfl, rfl⟩
  | succ missing ih =>
    have hnext : (0x80 : Nat) ≤ (0x80 : UInt8).toNat ∧ (0x80 : UInt8).toNat ≤ 0xbf := by decide
    obtain ⟨x, c, h⟩ := ih 0x80 0xbf (bits * 64 + (b.toNat - 0x80)) hnext.1 hnext.2
    exact ⟨0x80 :: x, c, ⟨hl, hh⟩, h⟩

lemma Begins.of_append (h : Begins (front ++ x)) : Begins front := by
  obtain ⟨c, h⟩ := h
  exact ⟨c, (List.prefix_append front x).trans h⟩

lemma Pending.begins_iff (h : Pending front p) : Begins (front ++ [b]) ↔ p.low ≤ b.toNat ∧ b.toNat ≤ p.high := by
  constructor
  · rintro ⟨c, x, hx⟩
    rw [List.append_assoc] at hx
    exact ((h.completes _ c).1 hx.symm).1
  · rintro ⟨hl, hh⟩
    obtain ⟨x, c, hx⟩ := exists_completes hl hh
    rw [← h.completes] at hx
    exact ⟨c, x, by rw [hx, List.append_assoc]; rfl⟩

lemma Pending.flaw (h : Pending front p) (hrest : ∀ b ∈ rest.head?, ¬ (p.low ≤ b.toNat ∧ b.toNat ≤ p.high)) :
    Flaw front rest where
  begins := h.begins
  nonempty := h.nonempty
  incomplete c hc := (h.completes [] c).1 (by rw [List.append_nil, hc])
  longest b hb := fun hn => hrest b hb (h.begins_iff.1 hn)

lemma pending_start (h : lead b.toNat = .start p) : Pending [b] p where
  begins := .inr rfl
  nonempty := List.cons_ne_nil _ _
  completes x c := by
    rw [List.singleton_append, encode_eq_cons_iff, h]
    rfl

lemma Pending.more (h : Pending front p) (hb : p.low ≤ b.toNat ∧ b.toNat ≤ p.high) (hm : p.missing = n + 1) :
    Pending (front ++ [b]) ⟨n, 0x80, 0xbf, p.bits * 64 + (b.toNat - 0x80)⟩ where
  begins := .inl (h.begins_iff.2 hb)
  nonempty := by simp
  completes x c := by
    rw [List.append_assoc, h.completes, List.singleton_append, Completes, hm]
    exact and_iff_right hb

lemma Pending.last (h : Pending front p) (hb : p.low ≤ b.toNat ∧ b.toNat ≤ p.high) (hm : p.missing = 0) :
    String.utf8EncodeChar c = front ++ b :: x ↔ x = [] ∧ c = Char.ofNat (p.bits * 64 + (b.toNat - 0x80)) := by
  rw [h.completes, Completes, hm]
  exact and_iff_right hb

lemma encode_single (h : lead b.toNat = .single c) : String.utf8EncodeChar c = [b] :=
  encode_eq_cons_iff.2 (by rw [h]; exact ⟨rfl, rfl⟩)

lemma flaw_stray (h : lead b.toNat = .stray) : Flaw [b] rest where
  begins := .inr rfl
  nonempty := List.cons_ne_nil _ _
  incomplete c hc := by
    have hn := encode_eq_cons_iff.1 hc.symm
    rwa [h] at hn
  longest b' _ := by
    rintro ⟨c, x, hx⟩
    have hn := encode_eq_cons_iff.1 hx.symm
    rwa [h] at hn

lemma exists_spells (bytes : Bytes) :
    (∀ chars, ∃ text, finish (bytes.foldl step (none, chars)) = chars.reverse ++ text ∧ Spells bytes text) ∧
    ∀ front p chars, Pending front p →
      ∃ text, finish (bytes.foldl step (some p, chars)) = chars.reverse ++ text ∧ Spells (front ++ bytes) text := by
  -- Both states at once, for a byte may lead from either to the other.
  induction bytes with
  | nil =>
    refine ⟨fun chars => ⟨[], (List.append_nil _).symm, .nil⟩, fun front p chars hp => ?_⟩
    exact ⟨[replacement], List.reverse_cons, .flaw (hp.flaw (by simp)) .nil⟩
  | cons b rest ih =>
    obtain ⟨ihNone, ihSome⟩ := ih
    have hnone : ∀ chars, ∃ text, finish ((b :: rest).foldl step (none, chars)) = chars.reverse ++ text ∧
        Spells (b :: rest) text := by
      intro chars
      rw [List.foldl_cons, step, first]
      cases hlead : lead b.toNat with
      | single c =>
        obtain ⟨text, htext, hs⟩ := ihNone (c :: chars)
        have hchar := Spells.char c hs
        rw [encode_single hlead] at hchar
        exact ⟨c :: text, by simpa using htext, hchar⟩
      | start p => exact ihSome [b] p chars (pending_start hlead)
      | stray =>
        obtain ⟨text, htext, hs⟩ := ihNone (replacement :: chars)
        exact ⟨replacement :: text, by simpa using htext, .flaw (flaw_stray hlead) hs⟩
    refine ⟨hnone, fun front p chars hp => ?_⟩
    by_cases hb : p.low ≤ b.toNat ∧ b.toNat ≤ p.high
    · rw [List.foldl_cons, step, if_pos hb]
      cases hm : p.missing with
      | zero =>
        obtain ⟨text, htext, hs⟩ := ihNone (Char.ofNat (p.bits * 64 + (b.toNat - 0x80)) :: chars)
        have hchar := (hp.last hb hm).2 ⟨rfl, rfl⟩
        refine ⟨_ :: text, by simpa using htext, ?_⟩
        rw [List.append_cons, ← hchar]
        exact .char _ hs
      | succ missing =>
        obtain ⟨text, htext, hs⟩ := ihSome (front ++ [b]) _ chars (hp.more hb hm)
        exact ⟨text, htext, by rwa [List.append_cons]⟩
    · obtain ⟨text, htext, hs⟩ := hnone (replacement :: chars)
      refine ⟨replacement :: text, ?_, .flaw (hp.flaw (by simpa using hb)) hs⟩
      rw [List.foldl_cons, step, if_neg hb]
      simpa [step] using htext

lemma Pending.foldl_step (hp : Pending front p) (chars : List Char) (hbegins : Begins (front ++ x))
    (hx : ∀ c, front ++ x ≠ String.utf8EncodeChar c) :
    ∃ p', x.foldl step (some p, chars) = (some p', chars) ∧ Pending (front ++ x) p' := by
  induction x generalizing front p with
  | nil => exact ⟨p, rfl, by rwa [List.append_nil]⟩
  | cons b x ih =>
    rw [List.append_cons] at hbegins hx ⊢
    have hb := hp.begins_iff.1 hbegins.of_append
    rw [List.foldl_cons, step, if_pos hb]
    cases hm : p.missing with
    | zero =>
      obtain ⟨c, y, hy⟩ := hbegins
      rw [List.append_assoc, List.append_assoc, List.singleton_append] at hy
      obtain ⟨hnil, -⟩ := (hp.last hb hm).1 hy.symm
      obtain ⟨rfl, rfl⟩ := List.append_eq_nil_iff.1 hnil
      exact (hx c (by rw [← hy, List.append_nil]; rfl)).elim
    | succ missing => exact ih (hp.more hb hm) hbegins hx

lemma Begins.exists_completes (h : Begins (b :: x)) : ∃ y c, (lead b.toNat).Completes (x ++ y) c := by
  obtain ⟨c, y, hc⟩ := h
  exact ⟨y, c, encode_eq_cons_iff.1 hc.symm⟩

lemma Flaw.foldl_front (h : Flaw front rest) (chars : List Char) :
    front.foldl step (none, chars) = (none, replacement :: chars) ∨
      ∃ p, front.foldl step (none, chars) = (some p, chars) ∧ Pending front p := by
  obtain ⟨b, x, rfl⟩ := List.exists_cons_of_ne_nil h.nonempty
  have hbegins : Begins (b :: x) ∨ x = [] := h.begins.imp_right fun hl => by simpa using hl
  rw [List.foldl_cons, step, first]
  cases hlead : lead b.toNat with
  | single c =>
    have hx : x = [] := by
      obtain hbegins | hx := hbegins
      · obtain ⟨y, c', hc⟩ := hbegins.exists_completes
        rw [hlead] at hc
        exact (List.append_eq_nil_iff.1 hc.1).1
      · exact hx
    subst hx
    exact (h.incomplete c (encode_single hlead).symm).elim
  | start p =>
    right
    obtain hbegins | rfl := hbegins
    · exact (pending_start hlead).foldl_step chars hbegins h.incomplete
    · exact ⟨p, rfl, pending_start hlead⟩
  | stray =>
    left
    obtain hbegins | rfl := hbegins
    · obtain ⟨y, c', hc⟩ := hbegins.exists_completes
      rw [hlead] at hc
      exact hc.elim
    · rfl

lemma Flaw.foldl_step (h : Flaw front rest) (chars : List Char) :
    finish ((front ++ rest).foldl step (none, chars)) = finish (rest.foldl step (none, replacement :: chars)) := by
  rw [List.foldl_append]
  obtain hfront | ⟨p, hfront, hp⟩ := h.foldl_front chars
  · rw [hfront]
  · rw [hfront]
    cases rest with
    | nil => rfl
    | cons b rest =>
      have hb := fun hn => h.longest b rfl (hp.begins_iff.2 hn)
      rw [List.foldl_cons, step, if_neg hb]
      rfl

lemma Spells.foldl_step (h : Spells bytes text) (chars : List Char) :
    finish (bytes.foldl step (none, chars)) = chars.reverse ++ text := by
  induction h generalizing chars with
  | nil => exact (List.append_nil _).symm
  | char c _ ih => rw [List.foldl_append, foldl_step_char, ih, List.reverse_cons, List.append_assoc]; rfl
  | flaw hf _ ih => rw [hf.foldl_step, ih, List.reverse_cons, List.append_assoc]; rfl

theorem decode_eq_iff {text : String} : decode bytes = text ↔ Spells bytes text.toList := by
  constructor
  · rintro rfl
    obtain ⟨text, htext, hs⟩ := (exists_spells bytes).1 []
    rwa [decode, String.toList_ofList, htext]
  · intro hs
    rw [decode, hs.foldl_step, List.reverse_nil, List.nil_append, String.ofList_toList]

example : decode [0x61, 0xe2, 0x82, 0x62, 0xe0, 0x80] = "a\uFFFDb\uFFFD\uFFFD" := by decide

end PimSync.Text.Utf8
