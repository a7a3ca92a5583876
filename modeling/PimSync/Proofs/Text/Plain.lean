import PimSync.Proofs.Text.Spelling
import PimSync.Text.Columns
import PimSync.Text.Lines

namespace PimSync.Text

def Printed (c : Char) : Prop := 0x20 ≤ c.toNat ∧ c.toNat ≤ 0x7e

instance (c : Char) : Decidable (Printed c) := inferInstanceAs (Decidable (_ ∧ _))

def Plain (text : String) : Prop := ∀ c ∈ text.toList, Printed c

instance (text : String) : Decidable (Plain text) := List.decidableBAll Printed text.toList

variable {text text' : String}

lemma Plain.append (h : Plain text) (h' : Plain text') : Plain (text ++ text') := by
  intro c hc
  rw [String.toList_append, List.mem_append] at hc
  exact hc.elim (h c) (h' c)

lemma plain_ofList {chars : List Char} (h : ∀ c ∈ chars, Printed c) : Plain (String.ofList chars) := by
  rwa [Plain, String.toList_ofList]

lemma plain_intercalate {separator : String} {texts : List String} (hs : Plain separator)
    (h : ∀ text ∈ texts, Plain text) : Plain (separator.intercalate texts) := by
  induction texts with
  | nil => exact nofun
  | cons text texts ih =>
    obtain ⟨htext, hrest⟩ := List.forall_mem_cons.mp h
    cases texts with
    | nil => rwa [String.intercalate_singleton]
    | cons text' texts =>
      rw [String.intercalate_cons_cons]
      exact (htext.append hs).append (ih hrest)

lemma plain_padRight {fill : Char} (hf : Printed fill) (width : Nat) (h : Plain text) :
    Plain (padRight fill width text) :=
  h.append (plain_ofList fun _ hc => (List.eq_of_mem_replicate hc).symm ▸ hf)

lemma digitChar_printed (n : Nat) : Printed n.digitChar := by
  rcases Nat.lt_or_ge n 16 with h | h
  · exact (show ∀ n < 16, Printed n.digitChar by decide) n h
  · rw [Nat.digitChar_eq_star.mpr h]
    decide

lemma toDigits_printed {base n : Nat} (hb : 1 < base) : ∀ c ∈ Nat.toDigits base n, Printed c := by
  induction n using Nat.strongRecOn with
  | ind n ih =>
    rcases Nat.lt_or_ge n base with h | h
    · rw [Nat.toDigits_of_lt_base h, List.forall_mem_singleton]
      exact digitChar_printed n
    · rw [Nat.toDigits_of_base_le hb h, List.forall_mem_append, List.forall_mem_singleton]
      exact ⟨ih (n / base) (Nat.div_lt_self (by omega) hb), digitChar_printed _⟩

lemma plain_decimal (n : Nat) : Plain (toString n) := by
  rw [Plain, Nat.toString_eq_repr, Nat.toList_repr]
  exact toDigits_printed (by decide)

lemma plain_hex (width n : Nat) : Plain (hex width n) := by
  refine (plain_ofList fun c hc => ?_).append (plain_ofList (toDigits_printed (by decide)))
  rw [List.eq_of_mem_replicate hc]
  decide

lemma hexPair_printed (b : UInt8) : ∀ c ∈ hexPair b, Printed c := by
  rw [hexPair, List.forall_mem_cons, List.forall_mem_singleton]
  exact ⟨digitChar_printed _, digitChar_printed _⟩

lemma graphic_printed {b : UInt8} (h : isGraphic b = true) : Printed (graphic b) := by
  rw [isGraphic, Bool.and_eq_true, decide_eq_true_eq, decide_eq_true_eq, UInt8.le_iff_toNat_le,
    UInt8.le_iff_toNat_le] at h
  obtain ⟨hlow, hhigh⟩ : 0x21 ≤ b.toNat ∧ b.toNat ≤ 0x7e := h
  have hval : (graphic b).toNat = b.toNat := Utf8.val_ofNat (.inl (by omega))
  exact ⟨by omega, by omega⟩

lemma escapeByte_printed (b : UInt8) : ∀ c ∈ escapeByte b, Printed c := by
  rw [escapeByte]
  split
  · rw [List.forall_mem_singleton]
    exact graphic_printed ‹_›
  · rw [List.forall_mem_cons, List.forall_mem_cons]
    exact ⟨by decide, by decide, hexPair_printed b⟩

lemma linesFrom_append (read rest : List Char) {line : List Char} (h : '\n' ∉ line) :
    linesFrom read (line ++ '\n' :: rest) =
      String.ofList (withoutReturn (read.reverse ++ line)) :: linesFrom [] rest := by
  induction line generalizing read with
  | nil => rw [List.append_nil, List.nil_append, linesFrom]
  | cons c line ih =>
    obtain ⟨hc, hline⟩ := List.ne_and_not_mem_of_not_mem_cons h
    rw [List.cons_append, linesFrom.eq_3 _ _ _ (by simpa using hc.symm), ih _ hline, List.reverse_cons,
      List.append_assoc, List.singleton_append]

lemma linesFrom_flatMap {lines : List String} (h : ∀ line ∈ lines, Plain line) :
    linesFrom [] (lines.flatMap fun line => line.toList ++ ['\n']) = lines := by
  induction lines with
  | nil => rfl
  | cons line lines ih =>
    obtain ⟨hline, hrest⟩ := List.forall_mem_cons.mp h
    have hfeed : '\n' ∉ line.toList := fun hc => absurd (hline _ hc) (by decide)
    have hreturn : withoutReturn line.toList = line.toList :=
      if_neg fun hlast => absurd (hline _ (List.mem_of_getLast? hlast)) (by decide)
    rw [List.flatMap_cons, List.append_assoc, List.singleton_append, linesFrom_append [] _ hfeed, ih hrest,
      List.reverse_nil, List.nil_append, hreturn, String.ofList_toList]

lemma lines_join {lines : List String} (h : ∀ line ∈ lines, Plain line) :
    Text.lines (String.join (lines.map (· ++ "\n"))) = lines := by
  rw [Text.lines, String.toList_join, List.flatMap_map]
  simp only [String.toList_append]
  exact linesFrom_flatMap h

end PimSync.Text
