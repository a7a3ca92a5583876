import PimSync.Proofs.Device.Locked
import PimSync.Proofs.Device.Stores
import PimSync.Proofs.Session.History
import PimSync.Session.Direct

/-! What an unlocked device tells of an item. Everything follows from the four ways in which a turn can leave what it
keeps. -/

namespace PimSync

open Schema

def WriteTarget.id? : WriteTarget → Option UInt32
  | insert => none
  | update id | flagged id _ => some id

namespace Turn

def Writes (t : Turn) (w : ItemWrite) (id : UInt32) : Prop :=
  t = ⟨⟨.itemWrite, w⟩, .ok (.message ⟨.itemWritten, id⟩)⟩

def Deletes (t : Turn) (c : Category) (id : UInt32) : Prop :=
  ∃ ids, id ∈ ids ∧ t = ⟨⟨.deleteItems, ⟨c, ids⟩⟩, .ok Device.complete⟩

def Concerns (t : Turn) (c : Category) (id : UInt32) : Prop :=
  (∃ w, w.category = c ∧ t.Writes w id) ∨ t.Deletes c id

end Turn

namespace Device

variable {d d' : Device} {t : Turn} {ts us : List Turn} {m : Message} {ms : List Message} {c : Category} {id : UInt32}

def turns (d : Device) (ms : List Message) : List Turn := ms.zipWith Turn.mk (d.respondAll ms).1

lemma turns_cons : d.turns (m :: ms) = ⟨m, (d.respond m).1⟩ :: (d.respond m).2.turns ms := rfl

lemma respondAll_cons : (d.respondAll (m :: ms)).2 = ((d.respond m).2.respondAll ms).2 := rfl

inductive Handles (d : Device) : Turn → Device → Prop
  | aside {t : Turn} {d' : Device} (hc : d'.collections = d.collections) (hn : d'.nextId = d.nextId)
      (ht : ∀ c id, ¬ t.Concerns c id) : Handles d t d'
  | consult {t : Turn} {d' : Device} (c : Category) (hcategory : t.request.category? = some c)
      (hc : d'.collections = (d.setCollection c (d.collection c)).collections) (hn : d'.nextId = d.nextId)
      (ht : ∀ c id, ¬ t.Concerns c id) : Handles d t d'
  | erase {d' : Device} (x : Deletion) (hc : d'.collections = (d.erase x.category x.ids).collections)
      (hn : d'.nextId = d.nextId) : Handles d ⟨⟨.deleteItems, x⟩, .ok complete⟩ d'
  | store {d' : Device} (w : ItemWrite) (id : UInt32)
      (hc : d'.collections = (d.store w.category id w.values).collections)
      (hid : id = w.target.id?.getD d.nextId)
      (hn : d'.nextId = if w.target = .insert then d.nextId + 1 else d.nextId) :
      Handles d ⟨⟨.itemWrite, w⟩, .ok (.message ⟨.itemWritten, id⟩)⟩ d'

lemma concerns_write {w : ItemWrite} {i : UInt32} :
    Turn.Concerns ⟨⟨.itemWrite, w⟩, .ok (.message ⟨.itemWritten, i⟩)⟩ c id ↔ w.category = c ∧ i = id := by
  constructor
  · rintro (⟨w', hc, h⟩ | ⟨ids, -, h⟩)
    · cases h
      exact ⟨hc, rfl⟩
    · cases h
  · rintro ⟨hc, rfl⟩
    exact .inl ⟨w, hc, rfl⟩

lemma concerns_delete {x : Deletion} :
    Turn.Concerns ⟨⟨.deleteItems, x⟩, .ok complete⟩ c id ↔ x.category = c ∧ id ∈ x.ids := by
  constructor
  · rintro (⟨w, -, h⟩ | ⟨ids, hid, h⟩)
    · cases h
    · cases h
      exact ⟨rfl, hid⟩
  · rintro ⟨rfl, hid⟩
    exact .inr ⟨x.ids, hid, rfl⟩

lemma not_concerns_of_type (hw : t.request.type ≠ .itemWrite) (hd : t.request.type ≠ .deleteItems) (c : Category)
    (id : UInt32) : ¬ t.Concerns c id := by
  rintro (⟨w, -, rfl⟩ | ⟨ids, -, rfl⟩)
  · exact hw rfl
  · exact hd rfl

lemma not_concerns_of_deny (m : Message) (c : Category) (id : UInt32) : ¬ Turn.Concerns ⟨m, .ok .deny⟩ c id := by
  rintro (⟨w, -, h⟩ | ⟨ids, -, h⟩) <;> cases congrArg Turn.reply h

lemma not_concerns_of_error (m : Message) (e : ExchangeError) (c : Category) (id : UInt32) :
    ¬ Turn.Concerns ⟨m, .error e⟩ c id := by
  rintro (⟨w, -, h⟩ | ⟨ids, -, h⟩) <;> cases congrArg Turn.reply h

lemma handles_write (d : Device) (w : ItemWrite) :
    d.Handles ⟨⟨.itemWrite, w⟩, .ok (d.write w).1⟩ (d.write w).2 := by
  obtain ⟨c, target, values⟩ := w
  cases target with
  | insert => exact .store ⟨c, .insert, values⟩ d.nextId rfl rfl rfl
  | update id => exact .store ⟨c, .update id, values⟩ id rfl rfl rfl
  | flagged id flags => exact .store ⟨c, .flagged id flags, values⟩ id rfl rfl rfl

lemma handles_answer {x : Reply × Device} (h : d.answer m = .ok x) : d.Handles ⟨m, .ok x.1⟩ x.2 := by
  unfold answer at h
  split at h <;> cases h
  case h_2 =>
    refine .aside ?_ ?_ (not_concerns_of_type nofun nofun) <;> unfold authorize <;> split <;> rfl
  case h_8 c => exact .consult c rfl rfl rfl (not_concerns_of_type nofun nofun)
  case h_9 c => exact .consult c rfl rfl rfl (not_concerns_of_type nofun nofun)
  case h_10 key => exact .consult key.category rfl rfl rfl (not_concerns_of_type nofun nofun)
  case h_11 x => exact .erase x rfl rfl
  case h_12 w => exact handles_write d w
  all_goals exact .aside rfl rfl (not_concerns_of_type nofun nofun)

lemma handles_respond (d : Device) (m : Message) : d.Handles ⟨m, (d.respond m).1⟩ (d.respond m).2 := by
  have hrecord {t : Turn} {d' : Device} (h : (d.record m).Handles t d') : d.Handles t d' := by
    cases h with
    | aside hc hn ht => exact .aside hc hn ht
    | consult c hcategory hc hn ht => exact .consult c hcategory hc hn ht
    | erase x hc hn => exact .erase x hc hn
    | store w id hc hid hn => exact .store w id hc hid hn
  apply hrecord
  simp only [respond]
  split
  · exact .aside rfl rfl (not_concerns_of_deny m)
  · split
    · rename_i h
      exact handles_answer h
    · exact .aside rfl rfl (not_concerns_of_error m _)

lemma collection_congr (h : d'.collections = d.collections) (c : Category) : d'.collection c = d.collection c := by
  rw [collection, collection, h]

lemma collection_erase (d : Device) (c : Category) (ids : List UInt32) :
    (d.erase c ids).collection c = { d.collection c with items := ids.foldl Store.erase (d.collection c).items } :=
  collection_setCollection d c _

lemma get_collections_of_handles (h : d.Handles t d') (hne : t.request.category? ≠ some c) :
    d'.collections.get c = d.collections.get c := by
  cases h with
  | aside hc => rw [hc]
  | consult c' hcategory hc =>
    rw [hc]
    exact PerCategory.get_set_of_ne (by rintro rfl; exact hne hcategory) _ _
  | erase x hc =>
    rw [hc]
    exact PerCategory.get_set_of_ne (by rintro rfl; exact hne rfl) _ _
  | store w id hc =>
    rw [hc]
    exact PerCategory.get_set_of_ne (by rintro rfl; exact hne rfl) _ _

lemma collection_of_handles_consult (hc : d'.collections = (d.setCollection c (d.collection c)).collections)
    (c' : Category) : d'.collection c' = d.collection c' :=
  (collection_congr hc c').trans (collection_setCollection_self d c c')

lemma format_ids_of_handles (h : d.Handles t d') (c : Category) :
    (d'.collection c).format = (d.collection c).format ∧ (d'.collection c).ids = (d.collection c).ids := by
  cases h with
  | aside hc =>
    rw [collection_congr hc]
    exact ⟨rfl, rfl⟩
  | consult c' _ hc =>
    rw [collection_of_handles_consult hc]
    exact ⟨rfl, rfl⟩
  | erase x hc =>
    rw [collection_congr hc]
    by_cases hcat : c = x.category
    · subst hcat
      rw [collection_erase]
      exact ⟨rfl, rfl⟩
    · rw [erase, collection_setCollection_of_ne hcat]
      exact ⟨rfl, rfl⟩
  | store w id hc =>
    rw [collection_congr hc]
    by_cases hcat : c = w.category
    · subst hcat
      rw [collection_store]
      exact ⟨rfl, rfl⟩
    · rw [collection_store_of_ne hcat]
      exact ⟨rfl, rfl⟩

def item? (d : Device) (c : Category) (id : UInt32) : Option Values := (d.collection c).items.get? id

lemma collection_of_writes {w : ItemWrite} (h : d.Handles t d') (ht : t.Writes w id) : d'.collection w.category =
    { d.collection w.category with items := (d.collection w.category).items.insert id w.values } := by
  subst ht
  cases h with
  | aside _ _ ht => exact absurd (.inl ⟨w, rfl, rfl⟩) (ht w.category id)
  | consult _ _ _ _ ht => exact absurd (.inl ⟨w, rfl, rfl⟩) (ht w.category id)
  | store w id hc => rw [collection_congr hc, collection_store]

lemma item?_of_writes {w : ItemWrite} (h : d.Handles t d') (ht : t.Writes w id) :
    d'.item? w.category id = some w.values := by
  rw [item?, collection_of_writes h ht]
  exact Store.get?_insert_self _ id _

lemma item?_of_deletes (h : d.Handles t d') (ht : t.Deletes c id) : d'.item? c id = none := by
  obtain ⟨ids, hid, rfl⟩ := ht
  cases h with
  | aside _ _ ht => exact absurd (.inr ⟨ids, hid, rfl⟩) (ht c id)
  | consult _ _ _ _ ht => exact absurd (.inr ⟨ids, hid, rfl⟩) (ht c id)
  | erase x hc =>
    rw [item?, collection_congr hc, collection_erase]
    exact (Store.get?_foldl_erase _ ids id).trans (if_pos hid)

lemma item?_of_not_concerns (h : d.Handles t d') (ht : ¬ t.Concerns c id) : d'.item? c id = d.item? c id := by
  cases h with
  | aside hc => rw [item?, collection_congr hc, item?]
  | consult c' _ hc => rw [item?, collection_of_handles_consult hc, item?]
  | erase x hc =>
    rw [concerns_delete] at ht
    rw [item?, collection_congr hc, item?]
    by_cases hcat : c = x.category
    · subst hcat
      rw [collection_erase]
      exact (Store.get?_foldl_erase _ x.ids id).trans (if_neg fun hid => ht ⟨rfl, hid⟩)
    · rw [erase, collection_setCollection_of_ne hcat]
  | store w i hc =>
    rw [concerns_write] at ht
    rw [item?, collection_congr hc, item?]
    by_cases hcat : c = w.category
    · subst hcat
      rw [collection_store]
      exact Store.get?_insert_of_ne (fun hid => ht ⟨rfl, hid.symm⟩) _ _
    · rw [collection_store_of_ne hcat]

section Runs

lemma get_collections_respondAll (h : ∀ m ∈ ms, m.category? ≠ some c) :
    (d.respondAll ms).2.collections.get c = d.collections.get c := by
  induction ms generalizing d with
  | nil => rfl
  | cons m ms ih =>
    obtain ⟨hm, hms⟩ := List.forall_mem_cons.mp h
    rw [respondAll_cons, ih hms]
    exact get_collections_of_handles (handles_respond d m) hm

lemma respondAll_induction {P : Device → Prop} {Q : Turn → Prop}
    (hstep : ∀ d₁ t d₂, Handles d₁ t d₂ → Q t → P d₁ → P d₂) (hd : P d) (hms : ∀ t ∈ d.turns ms, Q t) :
    P (d.respondAll ms).2 := by
  induction ms generalizing d with
  | nil => exact hd
  | cons m ms ih =>
    rw [turns_cons] at hms
    obtain ⟨hm, hms⟩ := List.forall_mem_cons.mp hms
    exact ih (hstep d _ _ (handles_respond d m) hm hd) hms

lemma format_ids_respondAll (d : Device) (ms : List Message) (c : Category) :
    ((d.respondAll ms).2.collection c).format = (d.collection c).format ∧
      ((d.respondAll ms).2.collection c).ids = (d.collection c).ids := by
  refine respondAll_induction (P := fun d' => (d'.collection c).format = (d.collection c).format ∧
    (d'.collection c).ids = (d.collection c).ids) (Q := fun _ => True) ?_ ⟨rfl, rfl⟩ fun _ _ => trivial
  intro d₁ t d₂ h _ hd
  obtain ⟨hformat, hids⟩ := hd
  obtain ⟨hformat', hids'⟩ := format_ids_of_handles h c
  exact ⟨hformat'.trans hformat, hids'.trans hids⟩

lemma item?_respondAll (h : ∀ t ∈ d.turns ms, ¬ t.Concerns c id) : (d.respondAll ms).2.item? c id = d.item? c id :=
  respondAll_induction (P := fun d' => d'.item? c id = d.item? c id)
    (fun _ _ _ hhandles ht hd => (item?_of_not_concerns hhandles ht).trans hd) rfl h

lemma handles_of_turns (h : d.turns ms = ts ++ t :: us) : ∃ (d₁ d₂ : Device) (rest : List Message),
    d₁.Handles t d₂ ∧ d₂.turns rest = us ∧ (d.respondAll ms).2 = (d₂.respondAll rest).2 := by
  induction ms generalizing d ts with
  | nil => cases ts <;> cases h
  | cons m ms ih =>
    rw [turns_cons] at h
    cases ts with
    | nil =>
      obtain ⟨rfl, rfl⟩ := List.cons.inj h
      exact ⟨d, _, ms, handles_respond d m, rfl, rfl⟩
    | cons t' ts => exact ih (List.cons.inj h).2

lemma item?_respondAll_of_writes {w : ItemWrite} (h : d.turns ms = ts ++ t :: us) (ht : t.Writes w id)
    (hus : ∀ u ∈ us, ¬ u.Concerns w.category id) : (d.respondAll ms).2.item? w.category id = some w.values := by
  obtain ⟨d₁, d₂, rest, hhandles, rfl, hrest⟩ := handles_of_turns h
  rw [hrest, item?_respondAll hus]
  exact item?_of_writes hhandles ht

lemma item?_respondAll_of_deletes (h : d.turns ms = ts ++ t :: us) (ht : t.Deletes c id)
    (hus : ∀ u ∈ us, ¬ u.Concerns c id) : (d.respondAll ms).2.item? c id = none := by
  obtain ⟨d₁, d₂, rest, hhandles, rfl, hrest⟩ := handles_of_turns h
  rw [hrest, item?_respondAll hus]
  exact item?_of_deletes hhandles ht

lemma exists_unlocked_of_mem_turns (hu : d.unlocked) (ht : t ∈ d.turns ms) :
    ∃ d₁ : Device, d₁.unlocked ∧ t = ⟨t.request, (d₁.respond t.request).1⟩ := by
  induction ms generalizing d with
  | nil => cases ht
  | cons m ms ih =>
    rcases List.mem_cons.mp ht with rfl | ht
    · exact ⟨d, hu, rfl⟩
    · exact ih (unlocked_respond m hu) ht

lemma writes_of_mem_turns {w : ItemWrite} (hu : d.unlocked) (ht : t ∈ d.turns ms) (hw : t.request = ⟨.itemWrite, w⟩) :
    ∃ id, t.Writes w id := by
  obtain ⟨d₁, hu₁, hturn⟩ := exists_unlocked_of_mem_turns hu ht
  rw [hw, respond_of_answer hu₁ rfl] at hturn
  obtain ⟨c, _ | id | ⟨id, _⟩, values⟩ := w
  · exact ⟨d₁.nextId, hturn⟩
  · exact ⟨id, hturn⟩
  · exact ⟨id, hturn⟩

lemma deletes_of_mem_turns {ids : List UInt32} (hu : d.unlocked) (ht : t ∈ d.turns ms)
    (hd : t.request = ⟨.deleteItems, ⟨c, ids⟩⟩) (hid : id ∈ ids) : t.Deletes c id := by
  obtain ⟨d₁, hu₁, hturn⟩ := exists_unlocked_of_mem_turns hu ht
  rw [hd, respond_of_answer hu₁ rfl] at hturn
  exact ⟨ids, hid, hturn⟩

end Runs

lemma respond_itemRequest (hu : d.unlocked) (c : Category) (id : UInt32) :
    (d.respond ⟨.itemRequest, ⟨c, id⟩⟩).1 = .ok (.message ⟨.item, (d.item? c id).getD []⟩) :=
  congrArg Prod.fst (respond_of_answer hu rfl)

/-- An unlocked device tells of an item what was last written of it, unless it was deleted since. -/
theorem reads_back_last_write (hu : d.unlocked) (ms : List Message) (c : Category) (id : UInt32) :
    let answer := ((d.respondAll ms).2.respond ⟨.itemRequest, ⟨c, id⟩⟩).1
    (∀ ts t us w, d.turns ms = ts ++ t :: us → t.Writes w id → w.category = c → (∀ u ∈ us, ¬ u.Concerns c id) →
      answer = .ok (.message ⟨.item, w.values⟩)) ∧
    (∀ ts t us, d.turns ms = ts ++ t :: us → t.Deletes c id → (∀ u ∈ us, ¬ u.Concerns c id) →
      answer = .ok (.message ⟨.item, []⟩)) ∧
    ((∀ t ∈ d.turns ms, ¬ t.Concerns c id) →
      answer = .ok (.message ⟨.item, ((d.collection c).items.get? id).getD []⟩)) ∧
    (∀ t ∈ d.turns ms, (∀ w, t.request = ⟨.itemWrite, w⟩ → ∃ i, t.Writes w i) ∧
      ∀ c' ids, t.request = ⟨.deleteItems, ⟨c', ids⟩⟩ → ∀ i ∈ ids, t.Deletes c' i) ∧
    (∀ c', (∀ m ∈ ms, m.category? ≠ some c') → (d.respondAll ms).2.collections.get c' = d.collections.get c') ∧
    ∀ c', ((d.respondAll ms).2.collection c').format = (d.collection c').format ∧
      ((d.respondAll ms).2.collection c').ids = (d.collection c').ids := by
  intro answer
  have hanswer : answer = .ok (.message ⟨.item, ((d.respondAll ms).2.item? c id).getD []⟩) :=
    respond_itemRequest (unlocked_respondAll hu) c id
  rw [hanswer]
  refine ⟨fun ts t us w hturns ht hc hus => ?_, fun ts t us hturns ht hus => ?_, fun hnone => ?_, fun t ht => ?_,
    fun c' => get_collections_respondAll, format_ids_respondAll d ms⟩
  · subst hc
    rw [item?_respondAll_of_writes hturns ht hus]
    rfl
  · rw [item?_respondAll_of_deletes hturns ht hus]
    rfl
  · rw [item?_respondAll hnone]
    rfl
  · exact ⟨fun w hw => writes_of_mem_turns hu ht hw, fun c' ids hd i hi => deletes_of_mem_turns hu ht hd hi⟩

theorem reads_back_last_write_tasks :
    let d := Device.new Sample.info Sample.time
      |>.addNew .todo 7 [[1]]
      |>.addNew .todo 8 [[1]]
      |>.addNew .todo 9 [[1]]
    let ms : List Message := [⟨.itemWrite, ⟨.todo, .update 7, [[2]]⟩⟩, ⟨.deleteItems, ⟨.calendar, [7]⟩⟩,
      ⟨.deleteItems, ⟨.todo, [8, 3]⟩⟩, ⟨.itemWrite, ⟨.todo, .insert, [[3]]⟩⟩]
    let answer id := ((d.respondAll ms).2.respond ⟨.itemRequest, ⟨.todo, id⟩⟩).1
    d.unlocked ∧ answer 7 = .ok (.message ⟨.item, [[2]]⟩) ∧ answer 8 = .ok (.message ⟨.item, []⟩) ∧
      answer 9 = .ok (.message ⟨.item, [[1]]⟩) ∧ answer 1000 = .ok (.message ⟨.item, [[3]]⟩) := by
  intro d ms answer
  have hu : d.unlocked := rfl
  have hreads (id : UInt32) := reads_back_last_write hu ms .todo id
  have hturns : d.turns ms = [⟨⟨.itemWrite, ⟨.todo, .update 7, [[2]]⟩⟩, .ok (.message ⟨.itemWritten, 7⟩)⟩,
      ⟨⟨.deleteItems, ⟨.calendar, [7]⟩⟩, .ok complete⟩, ⟨⟨.deleteItems, ⟨.todo, [8, 3]⟩⟩, .ok complete⟩,
      ⟨⟨.itemWrite, ⟨.todo, .insert, [[3]]⟩⟩, .ok (.message ⟨.itemWritten, 1000⟩)⟩] := rfl
  rw [hturns] at hreads
  refine ⟨hu, (hreads 7).1 [] _ _ _ rfl rfl rfl ?_, (hreads 8).2.1 [_, _] _ _ rfl ⟨_, by decide, rfl⟩ ?_,
    (hreads 9).2.2.1 ?_, (hreads 1000).1 [_, _, _] _ _ _ rfl rfl rfl ?_⟩
  all_goals simp [concerns_write, concerns_delete]

end Device

end PimSync
