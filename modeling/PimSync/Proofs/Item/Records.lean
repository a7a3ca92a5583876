import Mathlib.Data.List.Nodup
import PimSync.Item.Record

namespace PimSync

open Schema

namespace Record

variable {f : Field} {fs : List Field} {tag tag' : FieldTag} {t t' : FieldType}

lemma get?_head (value : Option f.type.Value) (rest : Record fs) :
    @get? (f :: fs) (value, rest) f.tag f.type = value := dif_pos ⟨rfl, rfl⟩

lemma get?_tail (h : ¬ f.Is tag t) (value : Option f.type.Value) (rest : Record fs) :
    @get? (f :: fs) (value, rest) tag t = rest.get? tag t := dif_neg h

lemma set_head (value v : Option f.type.Value) (rest : Record fs) :
    @set (f :: fs) (value, rest) f.tag f.type v = (v, rest) := dif_pos ⟨rfl, rfl⟩

lemma set_tail (h : ¬ f.Is tag t) (value : Option f.type.Value) (rest : Record fs) (v : Option t.Value) :
    @set (f :: fs) (value, rest) tag t v = (value, rest.set tag t v) := dif_neg h

lemma declares_tail (h : ¬ f.Is tag t) (hd : Declares (f :: fs) tag t) : Declares fs tag t := by
  obtain ⟨g, hg, his⟩ := hd
  rcases List.mem_cons.mp hg with rfl | hg
  · exact absurd his h
  · exact ⟨g, hg, his⟩

lemma get?_blank (fs : List Field) (tag : FieldTag) (t : FieldType) : (blank fs).get? tag t = none := by
  induction fs with
  | nil => rfl
  | cons f fs ih =>
    by_cases h : f.Is tag t
    · obtain ⟨rfl, rfl⟩ := h
      exact get?_head none _
    · exact (get?_tail h none _).trans ih

lemma get?_of_not_declares {r : Record fs} (h : ¬ Declares fs tag t) : r.get? tag t = none := by
  induction fs with
  | nil => rfl
  | cons f fs ih =>
    obtain ⟨value, rest⟩ := r
    have hf : ¬ f.Is tag t := fun his => h ⟨f, List.mem_cons_self, his⟩
    rw [get?_tail hf]
    exact ih fun ⟨g, hg, his⟩ => h ⟨g, List.mem_cons_of_mem f hg, his⟩

lemma get?_set_self (h : Declares fs tag t) (r : Record fs) (v : Option t.Value) : (r.set tag t v).get? tag t = v := by
  induction fs with
  | nil => exact absurd h (by simp [Declares])
  | cons f fs ih =>
    obtain ⟨value, rest⟩ := r
    by_cases hf : f.Is tag t
    · obtain ⟨rfl, rfl⟩ := hf
      rw [set_head, get?_head]
    · rw [set_tail hf, get?_tail hf, ih (declares_tail hf h)]

lemma get?_set_of_ne (h : ¬ (tag' = tag ∧ t' = t)) (r : Record fs) (v : Option t.Value) :
    (r.set tag t v).get? tag' t' = r.get? tag' t' := by
  induction fs with
  | nil => rfl
  | cons f fs ih =>
    obtain ⟨value, rest⟩ := r
    by_cases hf : f.Is tag t
    · obtain ⟨rfl, rfl⟩ := hf
      have hf' : ¬ f.Is tag' t' := fun his => h ⟨his.1.symm, his.2.symm⟩
      rw [set_head, get?_tail hf', get?_tail hf']
    · rw [set_tail hf]
      by_cases hf' : f.Is tag' t'
      · obtain ⟨rfl, rfl⟩ := hf'
        rw [get?_head, get?_head]
      · rw [get?_tail hf', get?_tail hf', ih]

lemma ext {r r' : Record fs} (hfs : (fs.map fun f => (f.tag, f.type)).Nodup)
    (h : ∀ tag t, Declares fs tag t → r.get? tag t = r'.get? tag t) : r = r' := by
  induction fs with
  | nil => rfl
  | cons f fs ih =>
    obtain ⟨value, rest⟩ := r
    obtain ⟨value', rest'⟩ := r'
    obtain ⟨hnew, hfs⟩ := List.nodup_cons.mp hfs
    have hvalue := h f.tag f.type ⟨f, List.mem_cons_self, rfl, rfl⟩
    rw [get?_head, get?_head] at hvalue
    have hrest : rest = rest' := by
      refine ih hfs fun tag t hd => ?_
      have hf : ¬ f.Is tag t := by
        rintro ⟨rfl, rfl⟩
        obtain ⟨g, hg, hgtag, hgtype⟩ := hd
        exact hnew (List.mem_map.mpr ⟨g, hg, by rw [hgtag, hgtype]⟩)
      obtain ⟨g, hg, his⟩ := hd
      have hsame := h tag t ⟨g, List.mem_cons_of_mem f hg, his⟩
      rwa [get?_tail hf, get?_tail hf] at hsame
    rw [hvalue, hrest]

end Record

lemma Category.nodup_fields (c : Category) : (c.fields.map fun f => (f.tag, f.type)).Nodup := by
  cases c <;> decide

end PimSync
