import PimSync.Proofs.Device.Keeping

namespace PimSync

open Schema

namespace Turn

def isInsertion : Turn → Bool
  | ⟨⟨.itemWrite, w⟩, .ok (.message ⟨.itemWritten, _⟩)⟩ => w.target = .insert
  | _ => false

def Inserts (t : Turn) (id : UInt32) : Prop := ∃ w, w.target = .insert ∧ t.Writes w id

end Turn

namespace Device

variable {d d' : Device} {t : Turn} {ts us : List Turn} {m : Message} {ms : List Message} {c : Category} {id : UInt32}

def Ordered (d : Device) : Prop := ∀ c, (d.collection c).items.Ordered

lemma Ordered.setCollection (h : d.Ordered) {x : Collection} (hx : x.items.Ordered) (c : Category) :
    (d.setCollection c x).Ordered := by
  intro c'
  by_cases hc : c' = c
  · subst hc
    rwa [collection_setCollection]
  · rw [collection_setCollection_of_ne hc]
    exact h c'

lemma Ordered.store (h : d.Ordered) (c : Category) (id : UInt32) (values : Values) : (d.store c id values).Ordered :=
  h.setCollection ((h c).insert id values) c

lemma Ordered.editIds (h : d.Ordered) (c : Category) (edit : IdLists → IdLists) : (d.editIds c edit).Ordered :=
  h.setCollection (x := { d.collection c with ids := edit (d.collection c).ids }) (h c) c

lemma Built.ordered (h : d.Built) : d.Ordered := by
  induction h with
  | new info time =>
    intro c
    cases c <;> exact .nil
  | lock _ _ ih | withFlags _ _ ih | withStoragePath _ _ ih => exact ih
  | @withFormat d c format _ ih => exact ih.setCollection (x := { d.collection c with format }) (ih c) c
  | addNew c id values _ ih | addModified c id values _ ih => exact (ih.store c id values).editIds c _
  | addDeleted c id _ ih => exact ih.editIds c _

lemma Ordered.handles (h : d.Ordered) (ht : d.Handles t d') : d'.Ordered := by
  have hcongr {d₁ : Device} (h₁ : d₁.Ordered) (hc : d'.collections = d₁.collections) : d'.Ordered := by
    intro c
    rw [collection_congr hc]
    exact h₁ c
  cases ht with
  | aside hc => exact hcongr h hc
  | consult c _ hc => exact hcongr (h.setCollection (h c) c) hc
  | erase x hc => exact hcongr (h.setCollection ((h x.category).foldl_erase x.ids) x.category) hc
  | store w id hc => exact hcongr (h.store w.category id w.values) hc

lemma Ordered.respondAll (h : d.Ordered) (ms : List Message) : (d.respondAll ms).2.Ordered :=
  respondAll_induction (Q := fun _ => True) (fun _ _ _ hhandles _ hd => hd.handles hhandles) h fun _ _ => trivial

lemma Built.nextId (h : d.Built) : d.nextId = firstInsertedId := by
  induction h with
  | new info time => rfl
  | lock _ _ ih | withFlags _ _ ih | withStoragePath _ _ ih | withFormat _ _ _ ih | addNew _ _ _ _ ih
  | addModified _ _ _ _ ih | addDeleted _ _ _ ih => exact ih

lemma isInsertion_write {w : ItemWrite} {id : UInt32} :
    Turn.isInsertion ⟨⟨.itemWrite, w⟩, .ok (.message ⟨.itemWritten, id⟩)⟩ = decide (w.target = .insert) := rfl

lemma isInsertion_iff : t.isInsertion ↔ ∃ id, t.Inserts id := by
  constructor
  · intro h
    unfold Turn.isInsertion at h
    split at h
    · rename_i w id
      exact ⟨id, w, of_decide_eq_true h, rfl⟩
    · cases h
  · rintro ⟨id, w, hw, rfl⟩
    exact decide_eq_true hw

lemma isInsertion_of_not_concerns (h : ∀ c id, ¬ t.Concerns c id) : t.isInsertion = false := by
  rw [← Bool.not_eq_true, isInsertion_iff]
  rintro ⟨id, w, -, ht⟩
  exact h w.category id (.inl ⟨w, rfl, ht⟩)

lemma nextId_of_handles (h : d.Handles t d') : d'.nextId = if t.isInsertion then d.nextId + 1 else d.nextId := by
  cases h with
  | aside _ hn ht => rw [isInsertion_of_not_concerns ht, hn, if_neg Bool.false_ne_true]
  | consult _ _ _ hn ht => rw [isInsertion_of_not_concerns ht, hn, if_neg Bool.false_ne_true]
  | erase _ _ hn => exact hn
  | store w id _ _ hn =>
    rw [isInsertion_write, hn]
    by_cases hw : w.target = .insert <;> simp [hw]

lemma eq_nextId_of_inserts (h : d.Handles t d') (ht : t.Inserts id) : id = d.nextId := by
  obtain ⟨w, hw, rfl⟩ := ht
  cases h with
  | aside _ _ ht => exact absurd (.inl ⟨w, rfl, rfl⟩) (ht w.category id)
  | consult _ _ _ _ ht => exact absurd (.inl ⟨w, rfl, rfl⟩) (ht w.category id)
  | store w id _ hid =>
    rw [hid, hw]
    rfl

lemma toNat_nextId_of_handles (h : d.Handles t d')
    (hroom : d.nextId.toNat + (if t.isInsertion then 1 else 0) < 2 ^ 32) :
    d'.nextId.toNat = d.nextId.toNat + if t.isInsertion then 1 else 0 := by
  rw [nextId_of_handles h]
  split
  · rename_i ht
    rw [if_pos ht] at hroom
    rw [UInt32.toNat_add, UInt32.toNat_one, Nat.mod_eq_of_lt hroom]
  · rfl

lemma isSome_item?_of_handles (h : d.Handles t d') : (d'.item? c id).isSome ↔
    (∃ w, w.category = c ∧ t.Writes w id) ∨ (d.item? c id).isSome ∧ ¬ t.Deletes c id := by
  by_cases hw : ∃ w, w.category = c ∧ t.Writes w id
  · obtain ⟨w, rfl, ht⟩ := hw
    rw [item?_of_writes h ht]
    exact iff_of_true rfl (.inl ⟨w, rfl, ht⟩)
  by_cases hd : t.Deletes c id
  · rw [item?_of_deletes h hd]
    exact iff_of_false Bool.false_ne_true (not_or.mpr ⟨hw, fun hkept => hkept.2 hd⟩)
  · rw [item?_of_not_concerns h (not_or.mpr ⟨hw, hd⟩), or_iff_right hw, and_iff_left hd]

lemma isSome_item?_respondAll : ((d.respondAll ms).2.item? c id).isSome ↔
    (∃ ts t us w, d.turns ms = ts ++ t :: us ∧ w.category = c ∧ t.Writes w id ∧ ∀ u ∈ us, ¬ u.Deletes c id) ∨
      (d.item? c id).isSome ∧ ∀ t ∈ d.turns ms, ¬ t.Deletes c id := by
  induction ms generalizing d with
  | nil => simp [turns, respondAll]
  | cons m ms ih =>
    rw [respondAll_cons, ih, isSome_item?_of_handles (handles_respond d m), turns_cons, List.forall_mem_cons]
    constructor
    · rintro (⟨ts, t, us, w, hturns, hkept⟩ | ⟨⟨w, hc, hw⟩ | ⟨hitem, hd⟩, hrest⟩)
      · exact .inl ⟨_ :: ts, t, us, w, congrArg (_ :: ·) hturns, hkept⟩
      · exact .inl ⟨[], _, _, w, rfl, hc, hw, hrest⟩
      · exact .inr ⟨hitem, hd, hrest⟩
    · rintro (⟨_ | ⟨t', ts⟩, t, us, w, hturns, hc, hw, hrest⟩ | ⟨hitem, hd, hrest⟩)
      · obtain ⟨rfl, rfl⟩ := List.cons.inj hturns
        exact .inr ⟨.inl ⟨w, hc, hw⟩, hrest⟩
      · exact .inl ⟨ts, t, us, w, (List.cons.inj hturns).2, hc, hw, hrest⟩
      · exact .inr ⟨.inr ⟨hitem, hd⟩, hrest⟩

lemma nextId_respondAll (hroom : d.nextId.toNat + (d.turns ms).countP Turn.isInsertion < 2 ^ 32) :
    (d.respondAll ms).2.nextId.toNat = d.nextId.toNat + (d.turns ms).countP Turn.isInsertion ∧
      ∀ t ∈ d.turns ms, ∀ i, t.Inserts i →
        d.nextId.toNat ≤ i.toNat ∧ i.toNat < d.nextId.toNat + (d.turns ms).countP Turn.isInsertion := by
  induction ms generalizing d with
  | nil => exact ⟨rfl, fun t ht => absurd ht List.not_mem_nil⟩
  | cons m ms ih =>
    have hhandles := handles_respond d m
    rw [turns_cons, List.countP_cons] at hroom ⊢
    have hnext := toNat_nextId_of_handles hhandles (by omega)
    obtain ⟨hlast, hids⟩ := ih (d := (d.respond m).2) (by omega)
    refine ⟨by rw [respondAll_cons]; omega, List.forall_mem_cons.mpr ⟨fun i hi => ?_, fun t ht i hi => ?_⟩⟩
    · rw [eq_nextId_of_inserts hhandles hi, if_pos (isInsertion_iff.mpr ⟨i, hi⟩)]
      omega
    · have := hids t ht i hi
      omega

/-- Inserted items get ids of their own, and replace only what was set up or updated under such an id before. -/
theorem inserted_id_taken_iff {w : ItemWrite} (hd : d.Built) (ms : List Message)
    (hroom : (d.turns ms).countP Turn.isInsertion < 2 ^ 32 - 1000) (hw : w.target = .insert)
    (h : (d.respondAll ms).2.respond ⟨.itemWrite, w⟩ = (.ok (.message ⟨.itemWritten, id⟩), d')) :
    let items := ((d.respondAll ms).2.collection w.category).items
    let items' := (d'.collection w.category).items
    id.toNat = 1000 + (d.turns ms).countP Turn.isInsertion ∧ (∀ t ∈ d.turns ms, ¬ t.Inserts id) ∧
    ((items.get? id).isSome ↔
      (∃ ts t us w', d.turns ms = ts ++ t :: us ∧ w'.category = w.category ∧ w'.target ≠ .insert ∧ t.Writes w' id ∧
        ∀ u ∈ us, ¬ u.Deletes w.category id) ∨
      ((d.collection w.category).items.get? id).isSome ∧ ∀ t ∈ d.turns ms, ¬ t.Deletes w.category id) ∧
    items'.get? id = some w.values ∧ (∀ i ≠ id, items'.get? i = items.get? i) ∧
    items'.entries.length = items.entries.length + if (items.get? id).isSome then 0 else 1 := by
  intro items items'
  have hhandles := handles_respond (d.respondAll ms).2 ⟨.itemWrite, w⟩
  rw [h] at hhandles
  have hfirst : d.nextId.toNat = 1000 := congrArg UInt32.toNat hd.nextId
  have hleft : d.nextId.toNat + (d.turns ms).countP Turn.isInsertion < 2 ^ 32 := by omega
  obtain ⟨hlast, hids⟩ := nextId_respondAll hleft
  have hid : id.toNat = 1000 + (d.turns ms).countP Turn.isInsertion := by
    rw [eq_nextId_of_inserts hhandles ⟨w, hw, rfl⟩, hlast, hfirst]
  have hown : ∀ t ∈ d.turns ms, ¬ t.Inserts id := by
    intro t ht hi
    have := hids t ht id hi
    omega
  have hitems : items' = items.insert id w.values := congrArg Collection.items (collection_of_writes hhandles rfl)
  rw [hitems]
  refine ⟨hid, hown, isSome_item?_respondAll.trans (or_congr_left ?_), Store.get?_insert_self _ id _,
    fun i hi => Store.get?_insert_of_ne hi _ _, (hd.ordered.respondAll ms w.category).length_insert id _⟩
  constructor
  · rintro ⟨ts, t, us, w', hturns, hc, ht, hus⟩
    have hmem : t ∈ d.turns ms := hturns ▸ List.mem_append_right ts List.mem_cons_self
    exact ⟨ts, t, us, w', hturns, hc, fun hw' => hown t hmem ⟨w', hw', ht⟩, ht, hus⟩
  · rintro ⟨ts, t, us, w', hturns, hc, -, ht, hus⟩
    exact ⟨ts, t, us, w', hturns, hc, ht, hus⟩

theorem inserted_id_taken_iff_second :
    let d := (Device.new Sample.info Sample.time).addNew .todo 7 [[1]]
    let ms : List Message := [⟨.itemWrite, ⟨.todo, .insert, [[2]]⟩⟩, ⟨.itemWrite, ⟨.todo, .update 1000, [[3]]⟩⟩,
      ⟨.deleteItems, ⟨.todo, [7]⟩⟩]
    ∃ d', (d.respondAll ms).2.respond ⟨.itemWrite, ⟨.todo, .insert, [[4]]⟩⟩ =
        (.ok (.message ⟨.itemWritten, 1001⟩), d') ∧ (∀ t ∈ d.turns ms, ¬ t.Inserts 1001) ∧
      ((d.respondAll ms).2.collection .todo).items.get? 1001 = none ∧
      (d'.collection .todo).items.get? 1000 = some [[3]] ∧ (d'.collection .todo).items.entries.length = 2 := by
  intro d ms
  have hd : d.Built := (Built.new _ _).addNew _ _ _
  have hrespond : (d.respondAll ms).2.respond ⟨.itemWrite, ⟨.todo, .insert, [[4]]⟩⟩ =
      (.ok (.message ⟨.itemWritten, 1001⟩), _) := rfl
  obtain ⟨-, hown, -, -, hothers, hlength⟩ := inserted_id_taken_iff hd ms (by decide) rfl hrespond
  exact ⟨_, hrespond, hown, by decide, (hothers 1000 (by decide)).trans (by decide), hlength.trans (by decide)⟩

theorem not_always_fresh : ¬ ∀ (d d' : Device) (ms : List Message) (w : ItemWrite) (id : UInt32), d.Built →
    (d.turns ms).countP Turn.isInsertion < 2 ^ 32 - 1000 → w.target = .insert →
    (d.respondAll ms).2.respond ⟨.itemWrite, w⟩ = (.ok (.message ⟨.itemWritten, id⟩), d') →
      ((d.respondAll ms).2.collection w.category).items.get? id = none := by
  intro hall
  let d := (Device.new Sample.info Sample.time).addNew .todo 1000 [[1]]
  have hfree := hall d _ [] ⟨.todo, .insert, [[2]]⟩ _ ((Built.new _ _).addNew _ _ _) (by decide) rfl rfl
  have htaken : (d.collection .todo).items.get? 1000 = some [[1]] := by decide
  cases htaken.symm.trans hfree

end Device

end PimSync
