import Mathlib.Algebra.Ring.Nat
import PimSync.Proofs.Device.Rounds

namespace PimSync

open Schema

namespace Device.Store

variable {id id' : UInt32}

lemma lookup_insertEntry_self (id : UInt32) (values : Values) (entries : List (UInt32 × Values)) :
    (insertEntry id values entries).lookup id = some values := by
  induction entries with
  | nil => simp [insertEntry]
  | cons e entries ih =>
    rw [insertEntry]
    split
    · exact List.lookup_cons_self
    split
    · exact List.lookup_cons_self
    · rename_i hne
      rw [List.lookup_cons, beq_false_of_ne hne]
      exact ih

lemma lookup_insertEntry_of_ne (h : id' ≠ id) (values : Values) (entries : List (UInt32 × Values)) :
    (insertEntry id values entries).lookup id' = entries.lookup id' := by
  induction entries with
  | nil => rw [insertEntry, List.lookup_cons, beq_false_of_ne h]
  | cons e entries ih =>
    obtain ⟨key, value⟩ := e
    rw [insertEntry]
    split
    · rw [List.lookup_cons, beq_false_of_ne h]
    split
    · rename_i heq
      have hkey : id' ≠ key := fun hk => h (hk.trans heq.symm)
      rw [List.lookup_cons, List.lookup_cons, beq_false_of_ne h, beq_false_of_ne hkey]
    · rw [List.lookup_cons, List.lookup_cons, ih]

lemma get?_insert_self (s : Store) (id : UInt32) (values : Values) : (s.insert id values).get? id = some values :=
  lookup_insertEntry_self id values s.entries

lemma get?_insert_of_ne (h : id' ≠ id) (s : Store) (values : Values) : (s.insert id values).get? id' = s.get? id' :=
  lookup_insertEntry_of_ne h values s.entries

lemma lookup_filter_ne (id id' : UInt32) (entries : List (UInt32 × Values)) :
    (entries.filter (·.1 ≠ id)).lookup id' = if id' = id then none else entries.lookup id' := by
  induction entries with
  | nil => simp
  | cons e entries ih =>
    obtain ⟨key, value⟩ := e
    by_cases hkey : key = id
    · rw [List.filter_cons_of_neg (by simpa using hkey), ih, List.lookup_cons]
      by_cases hid : id' = id
      · rw [if_pos hid, if_pos hid]
      · have hne : id' ≠ key := fun hk => hid (hk.trans hkey)
        rw [if_neg hid, if_neg hid, beq_false_of_ne hne]
    · rw [List.filter_cons_of_pos (by simpa using hkey), List.lookup_cons, List.lookup_cons, ih]
      by_cases hid : id' = id
      · have hne : id' ≠ key := fun hk => hkey (hk.symm.trans hid)
        rw [if_pos hid, if_pos hid, beq_false_of_ne hne]
      · rw [if_neg hid, if_neg hid]

lemma get?_erase (s : Store) (id id' : UInt32) : (s.erase id).get? id' = if id' = id then none else s.get? id' :=
  lookup_filter_ne id id' s.entries

lemma get?_foldl_erase (s : Store) (ids : List UInt32) (id : UInt32) :
    (ids.foldl erase s).get? id = if id ∈ ids then none else s.get? id := by
  induction ids generalizing s with
  | nil => rfl
  | cons i ids ih =>
    rw [List.foldl_cons, ih, get?_erase]
    by_cases hi : id = i <;> by_cases hids : id ∈ ids <;> simp [hi, hids]

def Ordered (s : Store) : Prop := s.entries.Pairwise (·.1 < ·.1)

lemma mem_insertEntry {e : UInt32 × Values} {id : UInt32} {values : Values} {entries : List (UInt32 × Values)}
    (h : e ∈ insertEntry id values entries) : e.1 = id ∨ e ∈ entries := by
  induction entries with
  | nil => exact .inl (congrArg Prod.fst (List.mem_singleton.mp h))
  | cons e' entries ih =>
    rw [insertEntry] at h
    split at h
    · rcases List.mem_cons.mp h with rfl | h
      · exact .inl rfl
      · exact .inr h
    split at h
    · rcases List.mem_cons.mp h with rfl | h
      · exact .inl rfl
      · exact .inr (List.mem_cons_of_mem e' h)
    · rcases List.mem_cons.mp h with rfl | h
      · exact .inr List.mem_cons_self
      · exact (ih h).imp_right (List.mem_cons_of_mem e')

lemma pairwise_insertEntry {entries : List (UInt32 × Values)} (h : entries.Pairwise (·.1 < ·.1)) (id : UInt32)
    (values : Values) : (insertEntry id values entries).Pairwise (·.1 < ·.1) := by
  induction entries with
  | nil => exact List.pairwise_singleton _ _
  | cons e entries ih =>
    obtain ⟨hhead, htail⟩ := List.pairwise_cons.mp h
    rw [insertEntry]
    split
    · rename_i hlt
      refine List.pairwise_cons.mpr ⟨List.forall_mem_cons.mpr ⟨hlt, fun e' he' => ?_⟩, h⟩
      exact UInt32.lt_trans hlt (hhead e' he')
    split
    · rename_i heq
      exact List.pairwise_cons.mpr ⟨fun e' he' => heq ▸ hhead e' he', htail⟩
    · rename_i hlt hne
      refine List.pairwise_cons.mpr ⟨fun e' he' => ?_, ih htail⟩
      rcases mem_insertEntry he' with hid | he'
      · rw [hid]
        exact UInt32.lt_of_le_of_ne (UInt32.not_lt.mp hlt) (Ne.symm hne)
      · exact hhead e' he'

lemma length_insertEntry {entries : List (UInt32 × Values)} (h : entries.Pairwise (·.1 < ·.1)) (id : UInt32)
    (values : Values) : (insertEntry id values entries).length =
      entries.length + if (entries.lookup id).isSome then 0 else 1 := by
  induction entries with
  | nil => rfl
  | cons e entries ih =>
    obtain ⟨hhead, htail⟩ := List.pairwise_cons.mp h
    rw [insertEntry, List.lookup_cons]
    split
    · rename_i hlt
      have hnone : entries.lookup id = none := by
        refine List.lookup_eq_none_iff.mpr fun e' he' => ?_
        exact bne_iff_ne.mpr (UInt32.ne_of_lt (UInt32.lt_trans hlt (hhead e' he')))
      rw [beq_false_of_ne (UInt32.ne_of_lt hlt), hnone]
      rfl
    split
    · rename_i heq
      rw [beq_iff_eq.mpr heq]
      rfl
    · rename_i hne
      rw [beq_false_of_ne hne, List.length_cons, ih htail, List.length_cons, Nat.add_right_comm]

lemma Ordered.insert {s : Store} (h : s.Ordered) (id : UInt32) (values : Values) : (s.insert id values).Ordered :=
  pairwise_insertEntry h id values

lemma Ordered.erase {s : Store} (h : s.Ordered) (id : UInt32) : (s.erase id).Ordered := h.filter _

lemma Ordered.foldl_erase {s : Store} (h : s.Ordered) (ids : List UInt32) : (ids.foldl Store.erase s).Ordered := by
  induction ids generalizing s with
  | nil => exact h
  | cons id ids ih => exact ih (h.erase id)

lemma Ordered.length_insert {s : Store} (h : s.Ordered) (id : UInt32) (values : Values) :
    (s.insert id values).entries.length = s.entries.length + if (s.get? id).isSome then 0 else 1 :=
  length_insertEntry h id values

end Device.Store

lemma PerCategory.get_set_of_ne {α : Type} {c c' : Category} (h : c' ≠ c) (p : PerCategory α) (a : α) :
    (p.set c a).get c' = p.get c' := by
  cases c <;> cases c' <;> first | rfl | exact absurd rfl h

namespace Device

variable {c c' : Category} {id id' : UInt32}

@[simp] lemma collection_setCollection (d : Device) (c : Category) (x : Collection) :
    (d.setCollection c x).collection c = x := by
  cases c <;> rfl

lemma collection_setCollection_of_ne (h : c' ≠ c) (d : Device) (x : Collection) :
    (d.setCollection c x).collection c' = d.collection c' := by
  simp only [collection, setCollection, PerCategory.get_set_of_ne h]

lemma collection_setCollection_self (d : Device) (c c' : Category) :
    (d.setCollection c (d.collection c)).collection c' = d.collection c' := by
  by_cases h : c' = c
  · subst h
    exact collection_setCollection d c' _
  · exact collection_setCollection_of_ne h d _

lemma collection_store (d : Device) (c : Category) (id : UInt32) (values : Values) :
    (d.store c id values).collection c =
      { d.collection c with items := (d.collection c).items.insert id values } :=
  collection_setCollection d c _

lemma collection_store_of_ne (h : c' ≠ c) (d : Device) (id : UInt32) (values : Values) :
    (d.store c id values).collection c' = d.collection c' :=
  collection_setCollection_of_ne h d _

lemma respond_update {d : Device} (hu : d.unlocked) (c : Category) (id : UInt32) (values : Values) :
    d.respond ⟨.itemWrite, ⟨c, .update id, values⟩⟩ = (.ok (.message ⟨.itemWritten, id⟩),
      (d.record ⟨.itemWrite, ⟨c, .update id, values⟩⟩).store c id values) :=
  respond_of_answer hu rfl

end Device

end PimSync
