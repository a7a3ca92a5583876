import PimSync.Proofs.Item.Values
import PimSync.Proofs.Text.Spelling

namespace PimSync

open Schema Text

section Positions

variable {α : Type} {P : α → Prop} {l : List α} {a b : α}

def First (P : α → Prop) (l : List α) (a : α) : Prop := ∃ front back, l = front ++ a :: back ∧ P a ∧ ∀ b ∈ front, ¬ P b

def Last (P : α → Prop) (l : List α) (a : α) : Prop := ∃ front back, l = front ++ a :: back ∧ P a ∧ ∀ b ∈ back, ¬ P b

lemma First.head (h : P a) : First P (a :: l) a := ⟨[], l, rfl, h, fun _ hb => absurd hb List.not_mem_nil⟩

lemma First.tail (h : First P l a) (hb : ¬ P b) : First P (b :: l) a := by
  obtain ⟨front, back, rfl, ha, hfront⟩ := h
  exact ⟨b :: front, back, rfl, ha, List.forall_mem_cons.2 ⟨hb, hfront⟩⟩

lemma first_cons_iff : First P (b :: l) a ↔ P b ∧ a = b ∨ ¬ P b ∧ First P l a := by
  constructor
  · rintro ⟨_ | ⟨c, front⟩, back, hl, ha, hfront⟩
    · obtain ⟨rfl, rfl⟩ := List.cons.inj hl
      exact .inl ⟨ha, rfl⟩
    · obtain ⟨rfl, rfl⟩ := List.cons.inj hl
      obtain ⟨hb, hfront⟩ := List.forall_mem_cons.1 hfront
      exact .inr ⟨hb, front, back, rfl, ha, hfront⟩
  · rintro (⟨hb, rfl⟩ | ⟨hb, h⟩)
    · exact .head hb
    · exact h.tail hb

lemma exists_first (ha : a ∈ l) (h : P a) : ∃ b, First P l b := by
  induction l with
  | nil => cases ha
  | cons c l ih =>
    by_cases hc : P c
    · exact ⟨c, .head hc⟩
    · obtain rfl | ha := List.mem_cons.1 ha
      · exact absurd h hc
      · obtain ⟨b, hb⟩ := ih ha
        exact ⟨b, hb.tail hc⟩

lemma First.mem (h : First P l a) : a ∈ l := by
  obtain ⟨front, back, rfl, -⟩ := h
  simp

lemma First.has (h : First P l a) : P a := by
  obtain ⟨front, back, -, ha, -⟩ := h
  exact ha

lemma getLast?_filter_eq_some [DecidablePred P] : (l.filter P).getLast? = some a ↔ Last P l a := by
  constructor
  · intro h
    obtain ⟨kept, hkept⟩ := List.getLast?_eq_some_iff.1 h
    obtain ⟨front, rest, rfl, -, hrest⟩ := List.filter_eq_append_iff.1 hkept
    obtain ⟨skipped, back, rfl, -, ha, hback⟩ := List.filter_eq_cons_iff.1 hrest
    refine ⟨front ++ skipped, back, by simp, by simpa using ha, fun b hb hn => ?_⟩
    have hmem : b ∈ back.filter P := List.mem_filter.2 ⟨hb, decide_eq_true hn⟩
    rw [hback] at hmem
    exact List.not_mem_nil hmem
  · rintro ⟨front, back, rfl, ha, hback⟩
    have hnone : back.filter P = [] := List.filter_eq_nil_iff.2 fun b hb => by simpa using hback b hb
    rw [List.filter_append, List.filter_cons_of_pos (by simpa using ha), hnone, List.getLast?_append]
    rfl

end Positions

namespace Bytes

variable {bytes : Bytes}

lemma toByte_eq_iff {v : UInt8} (h : bytes.length = 1) : bytes.toByte = v ↔ bytes.toNat = v.toNat := by
  have hlt := bytes.toNat_lt
  rw [h] at hlt
  rw [← UInt8.toNat_inj, toByte, UInt8.toNat_ofNat', Nat.mod_eq_of_lt (by omega)]

lemma toWord_eq_iff {v : UInt16} (h : bytes.length = 2) : bytes.toWord = v ↔ bytes.toNat = v.toNat := by
  have hlt := bytes.toNat_lt
  rw [h] at hlt
  rw [← UInt16.toNat_inj, toWord, UInt16.toNat_ofNat', Nat.mod_eq_of_lt (by omega)]

lemma toLong_eq_iff {v : UInt32} (h : bytes.length = 4) : bytes.toLong = v ↔ bytes.toNat = v.toNat := by
  have hlt := bytes.toNat_lt
  rw [h] at hlt
  rw [← UInt32.toNat_inj, toLong, UInt32.toNat_ofNat', Nat.mod_eq_of_lt (by omega)]

end Bytes

namespace Schema.FieldType

variable {t : FieldType} {bytes : Bytes} {v : t.Value} {n : Nat}

def Denotes : (t : FieldType) → Bytes → t.Value → Prop
  | .bit, bytes, v | .byte, bytes, v => bytes.length = 1 ∧ bytes.toNat = v.toNat
  | .word, bytes, v => bytes.length = 2 ∧ bytes.toNat = v.toNat
  | .long, bytes, v | .time, bytes, v => bytes.length = 4 ∧ bytes.toNat = v.toNat
  | .byteArray, bytes, v => bytes = v
  | .utf8, bytes, v => Utf8.Spells bytes v.toList

lemma ok_of_length_iff {α : Type} {a b : α} :
    (if bytes.length = n then Except.ok a else Except.error n) = .ok b ↔ bytes.length = n ∧ a = b := by
  split <;> simp [*]

lemma decode_eq_ok : t.decode bytes = .ok v ↔ t.Denotes bytes v := by
  cases t with
  | bit | byte => exact ok_of_length_iff.trans (and_congr_right Bytes.toByte_eq_iff)
  | word => exact ok_of_length_iff.trans (and_congr_right Bytes.toWord_eq_iff)
  | long | time => exact ok_of_length_iff.trans (and_congr_right Bytes.toLong_eq_iff)
  | byteArray => exact .of_eq (Except.ok.injEq _ _)
  | utf8 => exact (Iff.of_eq (Except.ok.injEq _ _)).trans Utf8.decode_eq_iff

lemma decode_eq_error : t.decode bytes = .error n ↔ t.width? = some n ∧ bytes.length ≠ n := by
  cases t with
  | bit | byte | word | long | time =>
    simp only [decode, width?]
    split
    · rename_i hl
      simp [hl]
    · rename_i hl
      constructor
      · intro h
        cases h
        exact ⟨rfl, hl⟩
      · rintro ⟨h, -⟩
        cases h
        rfl
  | byteArray | utf8 => simp [decode, width?]

end Schema.FieldType

namespace Record

variable {fs : List Field} {r r' : Record fs} {tag : FieldTag} {t : FieldType} {format : Format} {values : Values}
  {pairs : List (FormatEntry × Bytes)} {pair : FormatEntry × Bytes} {e : FormatEntry} {value : Bytes} {x : SchemaError}

instance (fs : List Field) : DecidablePred (Knows fs) := fun e =>
  match ht : e.type.field? with
  | none => .isFalse fun ⟨_, ht', _⟩ => by cases ht.symm.trans ht'
  | some t => decidable_of_iff (Declares fs e.tag t)
      ⟨fun hd => ⟨t, ht, hd⟩, fun ⟨_, ht', hd⟩ => Option.some.inj (ht.symm.trans ht') ▸ hd⟩

def Counts (fs : List Field) (pair : FormatEntry × Bytes) : Prop := Knows fs pair.1 ∧ pair.2 ≠ []

instance (fs : List Field) : DecidablePred (Counts fs) := fun _ => inferInstanceAs (Decidable (_ ∧ _))

def Misfit (fs : List Field) (pair : FormatEntry × Bytes) : Prop :=
  Counts fs pair ∧ ∃ width, pair.1.type.width? = some width ∧ pair.2.length ≠ width

def Told (pairs : List (FormatEntry × Bytes)) (tag : FieldTag) (t : FieldType) : Option t.Value → Prop
  | some v => ∃ pair, Last (Bears tag t) pairs pair ∧ t.Denotes pair.2 v
  | none => ∀ pair ∈ pairs, ¬ Bears tag t pair

lemma store_of_not_counts (r : Record fs) (h : ¬ Counts fs (e, value)) : r.store e value = .ok r := by
  unfold store
  split
  · rfl
  · rename_i t ht
    refine if_pos ?_
    by_contra hn
    obtain ⟨hv, hd⟩ := not_or.1 hn
    exact h ⟨⟨t, ht, not_not.1 hd⟩, fun he => hv (List.isEmpty_iff.2 he)⟩

lemma store_of_counts (r : Record fs) (ht : e.type.field? = some t) (h : Counts fs (e, value)) :
    r.store e value = match t.decode value with
      | .ok v => .ok (r.set e.tag t (some v))
      | .error width => .error (.fieldWidth e.tag width value.length) := by
  obtain ⟨⟨t', ht', hd⟩, hv⟩ := h
  obtain rfl := Option.some.inj (ht.symm.trans ht')
  simp only [store, ht]
  exact if_neg (by simpa [hd] using hv)

lemma store_eq_error : r.store e value = .error x ↔
    Misfit fs (e, value) ∧ ∃ width, e.type.width? = some width ∧ x = .fieldWidth e.tag width value.length := by
  by_cases h : Counts fs (e, value)
  · obtain ⟨t, ht, hd⟩ := h.1
    have hwidth : e.type.width? = t.width? := by rw [ParamType.width?, ht, Option.bind_some]
    rw [store_of_counts r ht h, Misfit, and_iff_right h]
    dsimp only
    rw [hwidth]
    cases hdecode : t.decode value with
    | ok v =>
      simp only [reduceCtorEq, false_iff]
      rintro ⟨⟨width, hw, hl⟩, -⟩
      rw [FieldType.decode_eq_error.2 ⟨hw, hl⟩] at hdecode
      cases hdecode
    | error width =>
      obtain ⟨hw, hl⟩ := FieldType.decode_eq_error.1 hdecode
      constructor
      · intro hx
        cases hx
        exact ⟨⟨width, hw, hl⟩, width, hw, rfl⟩
      · rintro ⟨-, width', hw', rfl⟩
        obtain rfl := Option.some.inj (hw.symm.trans hw')
        rfl
  · simp [store_of_not_counts r h, Misfit, h]

lemma foldlM_eq_error : pairs.foldlM (fun r (e, value) => r.store e value) r = .error x ↔
    ∃ pair, First (Misfit fs) pairs pair ∧
      ∃ width, pair.1.type.width? = some width ∧ x = .fieldWidth pair.1.tag width pair.2.length := by
  induction pairs generalizing r with
  | nil =>
    constructor
    · rintro ⟨⟩
    · rintro ⟨pair, ⟨front, back, hl, -⟩, -⟩
      simp at hl
  | cons pair pairs ih =>
    obtain ⟨e, value⟩ := pair
    rw [List.foldlM_cons]
    simp only [first_cons_iff]
    cases hstore : r.store e value with
    | error x' =>
      obtain ⟨hmisfit, width, hw, rfl⟩ := store_eq_error.1 hstore
      simp only [hmisfit, true_and, not_true_eq_false, false_and, or_false, exists_eq_left, hw]
      constructor
      · intro hx
        cases hx
        exact ⟨width, rfl, rfl⟩
      · rintro ⟨width', hw', rfl⟩
        cases hw'
        rfl
    | ok r₁ =>
      have hfit : ¬ Misfit fs (e, value) := by
        rintro ⟨hc, width, hw, hl⟩
        rw [store_eq_error.2 ⟨⟨hc, width, hw, hl⟩, width, hw, rfl⟩] at hstore
        cases hstore
      simp only [hfit, false_and, not_false_eq_true, true_and, false_or]
      exact ih

lemma told_of_ofValues (h : ofValues fs format values = .ok r) (hd : Declares fs tag t) :
    Told (format.zip values) tag t (r.get? tag t) := by
  obtain ⟨pair, v, hlast, hdecode, hget⟩ | ⟨hnone, hget⟩ := of_ofValues h hd
  · rw [hget]
    exact ⟨pair, getLast?_filter_eq_some.1 hlast, FieldType.decode_eq_ok.1 hdecode⟩
  · rw [hget]
    exact fun pair hpair => by simpa using List.filter_eq_nil_iff.1 hnone pair hpair

lemma Told.unique {o o' : Option t.Value} (h : Told pairs tag t o) (h' : Told pairs tag t o') : o = o' := by
  have habsent : ∀ {v : t.Value}, Told pairs tag t (some v) → ¬ Told pairs tag t none := by
    rintro v ⟨pair, ⟨front, back, rfl, hb, -⟩, -⟩ hnone
    exact hnone pair (by simp) hb
  match o, o' with
  | none, none => rfl
  | none, some v => exact absurd h (habsent h')
  | some v, none => exact absurd h' (habsent h)
  | some v, some v' =>
    obtain ⟨pair, hlast, hv⟩ := h
    obtain ⟨pair', hlast', hv'⟩ := h'
    obtain rfl := Option.some.inj ((getLast?_filter_eq_some.2 hlast).symm.trans (getLast?_filter_eq_some.2 hlast'))
    exact congrArg some (Except.ok.inj ((FieldType.decode_eq_ok.2 hv).symm.trans (FieldType.decode_eq_ok.2 hv')))

lemma ofValues_of_length (h : format.length = values.length) : ofValues fs format values =
    (format.zip values).foldlM (fun r (e, value) => r.store e value) (blank fs) := if_pos h

lemma ofValues_eq_ok_iff (hfs : (fs.map fun f => (f.tag, f.type)).Nodup) (hl : format.length = values.length) :
    ofValues fs format values = .ok r ↔ (∀ pair ∈ format.zip values, ¬ Misfit fs pair) ∧
      ∀ tag t, Declares fs tag t → Told (format.zip values) tag t (r.get? tag t) := by
  constructor
  · intro h
    refine ⟨fun pair hpair hmisfit => ?_, fun tag t => told_of_ofValues h⟩
    obtain ⟨first, hfirst⟩ := exists_first hpair hmisfit
    obtain ⟨-, width, hwidth, -⟩ := hfirst.has
    rw [ofValues_of_length hl, foldlM_eq_error.2 ⟨first, hfirst, width, hwidth, rfl⟩] at h
    cases h
  · rintro ⟨hfit, htold⟩
    cases h : ofValues fs format values with
    | error x =>
      rw [ofValues_of_length hl] at h
      obtain ⟨pair, hfirst, -⟩ := foldlM_eq_error.1 h
      exact absurd hfirst.has (hfit pair hfirst.mem)
    | ok r' => rw [ext hfs fun tag t hd => (told_of_ofValues h hd).unique (htold tag t hd)]

end Record

namespace Item

open Record

variable {c : Category} {item : Item} {format : Format} {values : Values} {result : Except SchemaError Item}
  {x : SchemaError}

inductive Reading (c : Category) (format : Format) (values : Values) : Except SchemaError Item → Prop
  | lengths : format.length ≠ values.length →
      Reading c format values (.error (.lengthMismatch format.length values.length))
  | width {pair : FormatEntry × Bytes} {width : Nat} : format.length = values.length →
      First (Misfit c.fields) (format.zip values) pair → pair.1.type.width? = some width →
      Reading c format values (.error (.fieldWidth pair.1.tag width pair.2.length))
  | item {r : Record c.fields} : format.length = values.length →
      (∀ pair ∈ format.zip values, ¬ Misfit c.fields pair) →
      (∀ tag t, Declares c.fields tag t → Told (format.zip values) tag t (r.get? tag t)) →
      Reading c format values (.ok ⟨c, r⟩)

lemma ofValues_eq_error :
    ofValues c format values = .error x ↔ Record.ofValues c.fields format values = .error x := by
  unfold ofValues
  cases Record.ofValues c.fields format values <;> simp [Except.map]

lemma reading_ofValues (c : Category) (format : Format) (values : Values) :
    Reading c format values (ofValues c format values) := by
  by_cases hl : format.length = values.length
  · cases h : ofValues c format values with
    | error x =>
      rw [ofValues_eq_error, ofValues_of_length hl, foldlM_eq_error] at h
      obtain ⟨pair, hfirst, width, hwidth, rfl⟩ := h
      exact .width hl hfirst hwidth
    | ok item =>
      obtain ⟨r, hread, rfl⟩ := ofValues_eq_ok.1 h
      obtain ⟨hfit, htold⟩ := (ofValues_eq_ok_iff c.nodup_fields hl).1 hread
      exact .item hl hfit htold
  · rw [ofValues_eq_error.2 (if_neg hl)]
    exact .lengths hl

example : ofValues .todo [⟨.ascii 'S' 'Y' 'I' 'D', .ofField .byte, []⟩, ⟨.ascii 'S' 'Y' 'I' 'D', .ofField .long, []⟩,
    ⟨.ascii 'P' 'R' 'T' 'Y', .ofField .byte, []⟩] [[1, 2], [1, 2], [1, 2]] =
      .error (.fieldWidth (.ascii 'S' 'Y' 'I' 'D') 4 2) := by decide

end Item

end PimSync
