import PimSync.Item.Slot
import PimSync.Proofs.Item.Records

namespace PimSync

open Schema

lemma Field.answers_field {f : Field} {tag : FieldTag} {t : FieldType} : f.Answers tag (.field t) ↔ f.Is tag t := by
  simp only [Field.Answers, Field.Is, TypeName.field.injEq, eq_comm]

namespace Record

variable {f : Field} {fs : List Field} {tag tag' : FieldTag} {t t' : TypeName} {s : Slot fs}

lemma slot?_head (h : f.Answers tag t) (value : Option f.type.Value) (rest : Record fs) :
    @slot? (f :: fs) (value, rest) tag t = some ⟨f.type, value, fun v => (v, rest)⟩ := if_pos h

lemma slot?_tail (h : ¬ f.Answers tag t) (value : Option f.type.Value) (rest : Record fs) :
    @slot? (f :: fs) (value, rest) tag t =
      (rest.slot? tag t).map fun s => ⟨s.type, s.held, fun v => (value, s.put v)⟩ := if_neg h

lemma field?_head (h : f.Answers tag t) (value : Option f.type.Value) (rest : Record fs) :
    @field? (f :: fs) (value, rest) tag t = value.map (⟨f.type, ·⟩) := if_pos h

lemma field?_tail (h : ¬ f.Answers tag t) (value : Option f.type.Value) (rest : Record fs) :
    @field? (f :: fs) (value, rest) tag t = rest.field? tag t := if_neg h

lemma exists_slot?_iff {r : Record fs} : (∃ s, r.slot? tag t = some s) ↔ ∃ f ∈ fs, f.Answers tag t := by
  induction fs with
  | nil => simp [slot?]
  | cons f fs ih =>
    obtain ⟨value, rest⟩ := r
    by_cases h : f.Answers tag t
    · rw [slot?_head h]
      exact iff_of_true ⟨_, rfl⟩ ⟨f, List.mem_cons_self, h⟩
    · rw [slot?_tail h, List.exists_mem_cons_iff, or_iff_right h, ← @ih rest]
      simp

/-- The slot is the place of the field in the record: what is put there is found there again and in no other place. -/
structure Lens (r : Record fs) (tag : FieldTag) (t : TypeName) (s : Slot fs) : Prop where
  type_eq : t = .field s.type
  field_eq : r.field? tag t = s.held.map (⟨s.type, ·⟩)
  put_held : s.put s.held = r
  slot_put : ∀ v, (s.put v).slot? tag t = some ⟨s.type, v, s.put⟩
  field_put : ∀ v, (s.put v).field? tag t = v.map (⟨s.type, ·⟩)
  field_put_of_ne : ∀ {tag' t'}, ¬ (tag' = tag ∧ t' = t) → ∀ v, (s.put v).field? tag' t' = r.field? tag' t'
  contents_put : ∃ i f, fs[i]? = some f ∧ f.Answers tag t ∧
    ∀ v, (s.put v).contents = r.contents.set i (v.map (⟨s.type, ·⟩))

lemma lens_head (h : f.Answers tag t) (value : Option f.type.Value) (rest : Record fs) :
    @Lens (f :: fs) (value, rest) tag t ⟨f.type, value, fun v => (v, rest)⟩ where
  type_eq := h.2
  field_eq := field?_head h value rest
  put_held := rfl
  slot_put v := slot?_head h v rest
  field_put v := field?_head h v rest
  field_put_of_ne {tag' t'} hne v := by
    have h' : ¬ f.Answers tag' t' := fun h' => hne ⟨h'.1.trans h.1.symm, h'.2.trans h.2.symm⟩
    rw [field?_tail h', field?_tail h']
  contents_put := ⟨0, f, rfl, h, fun v => rfl⟩

lemma Lens.tail {rest : Record fs} (hl : Lens rest tag t s) (h : ¬ f.Answers tag t) (value : Option f.type.Value) :
    @Lens (f :: fs) (value, rest) tag t ⟨s.type, s.held, fun v => (value, s.put v)⟩ where
  type_eq := hl.type_eq
  field_eq := (field?_tail h value rest).trans hl.field_eq
  put_held := congrArg (Prod.mk value) hl.put_held
  slot_put v := by rw [slot?_tail h, hl.slot_put v, Option.map_some]
  field_put v := (field?_tail h value _).trans (hl.field_put v)
  field_put_of_ne {tag' t'} hne v := by
    by_cases h' : f.Answers tag' t'
    · rw [field?_head h', field?_head h']
    · rw [field?_tail h', field?_tail h', hl.field_put_of_ne hne v]
  contents_put := by
    obtain ⟨i, g, hi, hg, hput⟩ := hl.contents_put
    exact ⟨i + 1, g, hi, hg, fun v => congrArg (List.cons (value.map (Sigma.mk f.type))) (hput v)⟩

lemma lens_of_slot? {r : Record fs} (hs : r.slot? tag t = some s) : Lens r tag t s := by
  induction fs with
  | nil => cases hs
  | cons f fs ih =>
    obtain ⟨value, rest⟩ := r
    by_cases h : f.Answers tag t
    · rw [slot?_head h] at hs
      cases hs
      exact lens_head h value rest
    · rw [slot?_tail h] at hs
      obtain ⟨s', hs', rfl⟩ := Option.map_eq_some_iff.mp hs
      exact (ih hs').tail h value

lemma declares_cons_iff {t : FieldType} (h : ¬ f.Is tag t) : Declares (f :: fs) tag t ↔ Declares fs tag t :=
  ⟨declares_tail h, fun ⟨g, hg, his⟩ => ⟨g, List.mem_cons_of_mem f hg, his⟩⟩

lemma slot?_field (r : Record fs) (tag : FieldTag) (t : FieldType) :
    r.slot? tag (.field t) = if Declares fs tag t then some ⟨t, r.get? tag t, r.set tag t⟩ else none := by
  induction fs with
  | nil => simp [slot?, Declares]
  | cons f fs ih =>
    obtain ⟨value, rest⟩ := r
    by_cases h : f.Is tag t
    · have hd : Declares (f :: fs) tag t := ⟨f, List.mem_cons_self, h⟩
      rw [slot?_head (Field.answers_field.mpr h), if_pos hd]
      obtain ⟨rfl, rfl⟩ := h
      rw [get?_head]
      exact congrArg some (congrArg (Slot.mk f.type value) (funext fun v => (set_head value v rest).symm))
    · rw [slot?_tail (mt Field.answers_field.mp h), ih, get?_tail h]
      simp only [declares_cons_iff h]
      split_ifs
      · exact congrArg some (congrArg (Slot.mk t (rest.get? tag t)) (funext fun v => (set_tail h value rest v).symm))
      · rfl

lemma field?_field (r : Record fs) (tag : FieldTag) (t : FieldType) :
    r.field? tag (.field t) = (r.get? tag t).map (⟨t, ·⟩) := by
  induction fs with
  | nil => rfl
  | cons f fs ih =>
    obtain ⟨value, rest⟩ := r
    by_cases h : f.Is tag t
    · rw [field?_head (Field.answers_field.mpr h)]
      obtain ⟨rfl, rfl⟩ := h
      rw [get?_head]
    · rw [field?_tail (mt Field.answers_field.mp h), get?_tail h, ih]

lemma not_answers_unknown {code : UInt8} : ¬ f.Answers tag (.unknown code) := by simp [Field.Answers]

lemma slot?_unknown (r : Record fs) (tag : FieldTag) (code : UInt8) : r.slot? tag (.unknown code) = none := by
  induction fs with
  | nil => rfl
  | cons f fs ih =>
    obtain ⟨value, rest⟩ := r
    rw [slot?_tail not_answers_unknown, ih, Option.map_none]

lemma field?_unknown (r : Record fs) (tag : FieldTag) (code : UInt8) : r.field? tag (.unknown code) = none := by
  induction fs with
  | nil => rfl
  | cons f fs ih =>
    obtain ⟨value, rest⟩ := r
    rw [field?_tail not_answers_unknown, ih]

lemma store_eq (r : Record fs) (entry : FormatEntry) (value : Bytes) :
    r.store entry value = if value.isEmpty then .ok r
      else ((r.slot? entry.tag entry.type.typeName).map (·.store entry.tag value)).getD (.ok r) := by
  rw [store, ParamType.typeName]
  cases entry.type.field? with
  | none =>
    rw [slot?_unknown]
    exact (ite_self _).symm
  | some t =>
    simp only [slot?_field]
    by_cases hd : Declares fs entry.tag t
    · simp only [hd, not_true_eq_false, or_false, if_true, Option.map_some, Option.getD_some, Slot.store]
      cases t.decode value <;> rfl
    · simp only [hd, not_false_eq_true, or_true, if_true, if_false]
      exact (ite_self _).symm

lemma value_eq (r : Record fs) (entry : FormatEntry) :
    r.value entry = ((r.field? entry.tag entry.type.typeName).map TypedValue.encode).getD [] := by
  rw [value, ParamType.typeName]
  cases entry.type.field? with
  | none =>
    rw [field?_unknown]
    rfl
  | some t =>
    simp only [field?_field, Option.map_map]
    rfl

lemma contents_eq (hfs : (fs.map fun f => (f.tag, f.type)).Nodup) (r : Record fs) :
    r.contents = fs.map fun f => r.field? f.tag (.field f.type) := by
  induction fs with
  | nil => rfl
  | cons f fs ih =>
    obtain ⟨value, rest⟩ := r
    obtain ⟨hnew, hfs⟩ := List.nodup_cons.mp hfs
    have hhead : @field? (f :: fs) (value, rest) f.tag (.field f.type) = value.map (⟨f.type, ·⟩) :=
      field?_head ⟨rfl, rfl⟩ value rest
    have htail : (fs.map fun g => @field? (f :: fs) (value, rest) g.tag (.field g.type)) =
        fs.map fun g => rest.field? g.tag (.field g.type) := by
      refine List.map_congr_left fun g hg => field?_tail (fun h => ?_) value rest
      obtain ⟨htag, htype⟩ := Field.answers_field.mp h
      exact hnew (List.mem_map.mpr ⟨g, hg, Prod.ext htag.symm htype.symm⟩)
    rw [List.map_cons, hhead, htail, ← ih hfs rest]
    rfl

lemma populated_eq (r : Record fs) : r.populated = r.contents.countP Option.isSome := by
  induction fs with
  | nil => rfl
  | cons f fs ih =>
    obtain ⟨value, rest⟩ := r
    rw [contents, List.countP_cons, ← ih rest]
    cases value with
    | none => rfl
    | some v => rfl

/-- The fields of a record obey the laws of lenses. -/
theorem slots_are_lenses (c : Category) (r : Record c.fields) :
    (∀ tag t, (∃ s, r.slot? tag t = some s) ↔ ∃ f ∈ c.fields, tag = f.tag ∧ t = .field f.type) ∧
    (∀ tag t s, r.slot? tag t = some s → Lens r tag t s) ∧
    (r.contents = c.fields.map fun f => r.field? f.tag (.field f.type)) ∧
    (r.populated = c.fields.countP fun f => (r.field? f.tag (.field f.type)).isSome) ∧
    (∀ tag t,
      r.slot? tag (.field t) = (if Declares c.fields tag t then some ⟨t, r.get? tag t, r.set tag t⟩ else none) ∧
        r.field? tag (.field t) = (r.get? tag t).map (⟨t, ·⟩)) ∧
    ∀ entry : FormatEntry,
      (∀ value, r.store entry value = if value.isEmpty then .ok r
        else ((r.slot? entry.tag entry.type.typeName).map (·.store entry.tag value)).getD (.ok r)) ∧
      r.value entry = ((r.field? entry.tag entry.type.typeName).map TypedValue.encode).getD [] := by
  have hcontents := contents_eq c.nodup_fields r
  refine ⟨fun tag t => exists_slot?_iff, fun tag t s => lens_of_slot?, hcontents, ?_,
    fun tag t => ⟨slot?_field r tag t, field?_field r tag t⟩, fun entry => ⟨store_eq r entry, value_eq r entry⟩⟩
  rw [populated_eq, hcontents, List.countP_map]
  rfl

theorem slots_are_lenses_location :
    let r := blank Category.calendar.fields
    let place := FieldTag.ascii 'P' 'L' 'C' 'E'
    let text := FieldTag.ascii 'D' 'S' 'C' 'R'
    ∃ s, r.slot? place (.field .utf8) = some s ∧
      (∀ v, (s.put v).field? place (.field .utf8) = v.map (⟨s.type, ·⟩)) ∧
      (∀ v, (s.put v).field? text (.field .utf8) = none) ∧
      ¬ (∃ s, r.slot? place (.unknown 7) = some s) ∧
      (r.set place .utf8 (some "Room 4")).populated = 1 := by
  intro r place text
  obtain ⟨hslot, hlens, -⟩ := slots_are_lenses .calendar r
  obtain ⟨s, hs⟩ := (hslot place (.field .utf8)).mpr (by decide)
  have hl := hlens _ _ s hs
  refine ⟨s, hs, hl.field_put, fun v => ?_, fun h => absurd ((hslot _ _).mp h) (by decide), ?_⟩
  · rw [hl.field_put_of_ne (by decide)]
    rfl
  · rw [(slots_are_lenses .calendar (r.set place .utf8 (some "Room 4"))).2.2.2.1]
    decide

end Record

end PimSync
