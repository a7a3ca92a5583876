import PimSync.Item.Values
import PimSync.Proofs.Bytes
import PimSync.Proofs.Item.Records
import PimSync.Proofs.Text.Utf8

namespace PimSync

open Schema Text

namespace Schema.FieldType

variable {t : FieldType} {bytes : Bytes} {v : t.Value}

lemma decode_encode (v : t.Value) : t.decode (t.encode v) = .ok v := by
  cases t with
  | bit | byte => exact congrArg Except.ok (Bytes.toByte_singleton v)
  | word => rw [encode, decode, if_pos (Bytes.length_ofWord v), Bytes.toWord_ofWord]
  | long | time => rw [encode, decode, if_pos (Bytes.length_ofLong v), Bytes.toLong_ofLong]
  | byteArray => rfl
  | utf8 => exact congrArg Except.ok (Utf8.decode_encode v)

lemma encode_of_decode (h : t.decode bytes = .ok v) (ht : t = .utf8 → ∃ text, bytes = Utf8.encode text) :
    t.encode v = bytes := by
  cases t with
  | bit | byte =>
    simp only [decode] at h
    split at h <;> cases h
    exact Bytes.ofByte_toByte ‹_›
  | word =>
    simp only [decode] at h
    split at h <;> cases h
    exact Bytes.ofWord_toWord ‹_›
  | long | time =>
    simp only [decode] at h
    split at h <;> cases h
    exact Bytes.ofLong_toLong ‹_›
  | byteArray =>
    cases h
    rfl
  | utf8 =>
    obtain ⟨text, rfl⟩ := ht rfl
    cases h
    exact congrArg Utf8.encode (Utf8.decode_encode text)

lemma encode_ne_nil (h : t.decode bytes = .ok v) (hb : bytes ≠ []) : t.encode v ≠ [] := by
  by_cases ht : t = .utf8
  · subst ht
    cases h
    exact Utf8.encode_ne_nil (Utf8.decode_ne_empty hb)
  · rwa [encode_of_decode h fun he => absurd he ht]

end Schema.FieldType

lemma Schema.ParamType.eq_of_field? {p q : ParamType} {t : FieldType} (hp : p.field? = some t)
    (hq : q.field? = some t) : p = q := by
  have hp' : t.code = p.code := by simpa using List.find?_some hp
  have hq' : t.code = q.code := by simpa using List.find?_some hq
  obtain ⟨code⟩ := p
  obtain ⟨code'⟩ := q
  exact congrArg ParamType.mk (hp'.symm.trans hq')

namespace Record

variable {fs : List Field} {r r' : Record fs} {tag : FieldTag} {t : FieldType} {format : Format} {values : Values}
  {pairs : List (FormatEntry × Bytes)} {e : FormatEntry} {value : Bytes}

def Bears (tag : FieldTag) (t : FieldType) (pair : FormatEntry × Bytes) : Prop :=
  pair.1.tag = tag ∧ pair.1.type.field? = some t ∧ pair.2 ≠ []

instance (tag : FieldTag) (t : FieldType) : DecidablePred (Bears tag t) :=
  fun _ => inferInstanceAs (Decidable (_ ∧ _ ∧ _))

lemma of_store_bears (h : r.store e value = .ok r') (hd : Declares fs tag t) (hb : Bears tag t (e, value)) :
    ∃ v, t.decode value = .ok v ∧ r'.get? tag t = some v := by
  obtain ⟨rfl, ht, hv⟩ := hb
  simp only [store, ht] at h
  rw [if_neg (by simpa [hd] using hv)] at h
  split at h
  · rename_i v hdecode
    cases h
    exact ⟨v, hdecode, get?_set_self hd r (some v)⟩
  · cases h

lemma of_store_not_bears (h : r.store e value = .ok r') (hb : ¬ Bears tag t (e, value)) :
    r'.get? tag t = r.get? tag t := by
  unfold store at h
  split at h
  · cases h
    rfl
  · rename_i t' ht
    split at h
    · cases h
      rfl
    · rename_i hn
      split at h
      · rename_i v hdecode
        cases h
        refine get?_set_of_ne (fun ⟨htag, htype⟩ => hb ⟨htag.symm, htype ▸ ht, ?_⟩) r (some v)
        exact fun he => hn (.inl (List.isEmpty_iff.mpr he))
      · cases h

lemma of_foldlM (h : pairs.foldlM (fun r (e, value) => r.store e value) r = .ok r') (hd : Declares fs tag t) :
    (∃ pair v, (pairs.filter (Bears tag t)).getLast? = some pair ∧ t.decode pair.2 = .ok v ∧ r'.get? tag t = some v) ∨
      pairs.filter (Bears tag t) = [] ∧ r'.get? tag t = r.get? tag t := by
  induction pairs generalizing r with
  | nil =>
    cases h
    exact .inr ⟨rfl, rfl⟩
  | cons pair pairs ih =>
    obtain ⟨e, value⟩ := pair
    rw [List.foldlM_cons] at h
    cases hstore : r.store e value with
    | error x =>
      simp only [hstore] at h
      cases h
    | ok r₁ =>
      simp only [hstore] at h
      obtain ⟨pair, v, hlast, hdecode, hget⟩ | ⟨hnone, hget⟩ := ih h
      · refine .inl ⟨pair, v, ?_, hdecode, hget⟩
        rw [List.filter_cons]
        split
        · rw [List.getLast?_cons, hlast]
          rfl
        · exact hlast
      · by_cases hb : Bears tag t (e, value)
        · obtain ⟨v, hdecode, hv⟩ := of_store_bears hstore hd hb
          refine .inl ⟨(e, value), v, ?_, hdecode, hget.trans hv⟩
          rw [List.filter_cons_of_pos (by simpa using hb), hnone]
          rfl
        · refine .inr ⟨?_, hget.trans (of_store_not_bears hstore hb)⟩
          rw [List.filter_cons_of_neg (by simpa using hb), hnone]

lemma store_ok (r : Record fs)
    (h : ∀ t, Declares fs e.tag t → Bears e.tag t (e, value) → ∃ v, t.decode value = .ok v) :
    ∃ r', r.store e value = .ok r' := by
  unfold store
  split
  · exact ⟨r, rfl⟩
  · rename_i t ht
    split
    · exact ⟨r, rfl⟩
    · rename_i hn
      obtain ⟨hv, hd⟩ := not_or.mp hn
      obtain ⟨v, hdecode⟩ := h t (not_not.mp hd) ⟨rfl, ht, fun he => hv (List.isEmpty_iff.mpr he)⟩
      rw [hdecode]
      exact ⟨_, rfl⟩

lemma foldlM_ok (r : Record fs) (h : ∀ pair ∈ pairs, ∀ t, Declares fs pair.1.tag t → Bears pair.1.tag t pair →
    ∃ v, t.decode pair.2 = .ok v) : ∃ r', pairs.foldlM (fun r (e, value) => r.store e value) r = .ok r' := by
  induction pairs generalizing r with
  | nil => exact ⟨r, rfl⟩
  | cons pair pairs ih =>
    obtain ⟨hpair, hpairs⟩ := List.forall_mem_cons.mp h
    obtain ⟨r₁, hstore⟩ := store_ok r hpair
    rw [List.foldlM_cons]
    simp only [hstore]
    exact ih r₁ hpairs

lemma ofValues_eq_ok : ofValues fs format values = .ok r ↔ format.length = values.length ∧
    (format.zip values).foldlM (fun r (e, value) => r.store e value) (blank fs) = .ok r := by
  unfold ofValues
  split
  · rename_i hl
    exact ⟨fun h => ⟨hl, h⟩, And.right⟩
  · rename_i hl
    exact ⟨nofun, fun h => absurd h.1 hl⟩

lemma of_ofValues (h : ofValues fs format values = .ok r) (hd : Declares fs tag t) :
    (∃ pair v, ((format.zip values).filter (Bears tag t)).getLast? = some pair ∧ t.decode pair.2 = .ok v ∧
      r.get? tag t = some v) ∨
      (format.zip values).filter (Bears tag t) = [] ∧ r.get? tag t = none := by
  have hfield := of_foldlM (ofValues_eq_ok.mp h).2 hd
  rwa [get?_blank] at hfield

def Knows (fs : List Field) (e : FormatEntry) : Prop := ∃ t, e.type.field? = some t ∧ Declares fs e.tag t

lemma value_of_field? (ht : e.type.field? = some t) : r.value e = ((r.get? e.tag t).map t.encode).getD [] := by
  simp only [value, ht]

lemma value_of_not_knows (h : ¬ Knows fs e) : r.value e = [] := by
  cases ht : e.type.field? with
  | none => simp only [value, ht]
  | some t =>
    have hd : ¬ Declares fs e.tag t := fun hd => h ⟨t, ht, hd⟩
    rw [value_of_field? ht, get?_of_not_declares hd]
    rfl

lemma zip_values (r : Record fs) (format : Format) :
    format.zip (r.values format) = format.map fun e => (e, r.value e) := by
  rw [values, List.zip_map_right, List.zip_eq_zipWith, List.zipWith_self, List.map_map]
  rfl

lemma of_mem_filter_bears {pair : FormatEntry × Bytes}
    (h : pair ∈ (format.map fun e => (e, r.value e)).filter (Bears tag t)) :
    ∃ e ∈ format, e.tag = tag ∧ e.type.field? = some t ∧
      ∃ v, r.get? tag t = some v ∧ t.encode v ≠ [] ∧ pair = (e, t.encode v) := by
  obtain ⟨hmem, hbears⟩ := List.mem_filter.mp h
  obtain ⟨e, he, rfl⟩ := List.mem_map.mp hmem
  obtain ⟨rfl, ht, hv⟩ : Bears tag t (e, r.value e) := by simpa using hbears
  refine ⟨e, he, rfl, ht, ?_⟩
  rw [value_of_field? ht] at hv ⊢
  cases hget : r.get? e.tag t with
  | none =>
    rw [hget] at hv
    exact absurd rfl hv
  | some v =>
    rw [hget] at hv
    exact ⟨v, rfl, hv, rfl⟩

lemma ofValues_values (r : Record fs) (format : Format) : ∃ r', ofValues fs format (r.values format) = .ok r' ∧
    ∀ tag t, Declares fs tag t → ∀ v, r'.get? tag t = some v ↔
      r.get? tag t = some v ∧ t.encode v ≠ [] ∧ ∃ e ∈ format, e.tag = tag ∧ e.type.field? = some t := by
  obtain ⟨r', hr'⟩ : ∃ r', (format.map fun e => (e, r.value e)).foldlM (fun r (e, value) => r.store e value)
      (blank fs) = .ok r' := by
    refine foldlM_ok _ fun pair hpair t hd hb => ?_
    obtain ⟨e, -, -, -, v, -, -, rfl⟩ := of_mem_filter_bears (List.mem_filter.mpr ⟨hpair, decide_eq_true hb⟩)
    exact ⟨v, FieldType.decode_encode v⟩
  have hread : ofValues fs format (r.values format) = .ok r' := by
    rw [ofValues_eq_ok, zip_values]
    exact ⟨(List.length_map _).symm, hr'⟩
  refine ⟨r', hread, fun tag t hd v => ?_⟩
  have hfield := of_ofValues hread hd
  rw [zip_values] at hfield
  obtain ⟨pair, v', hlast, hdecode, hget'⟩ | ⟨hnone, hget'⟩ := hfield
  · obtain ⟨e, he, htag, ht, w, hget, hne, rfl⟩ := of_mem_filter_bears (List.mem_of_getLast? hlast)
    obtain rfl : w = v' := Except.ok.inj ((FieldType.decode_encode w).symm.trans hdecode)
    rw [hget', hget]
    constructor
    · intro h
      obtain rfl := Option.some.inj h
      exact ⟨rfl, hne, e, he, htag, ht⟩
    · exact And.left
  · rw [hget']
    refine ⟨nofun, fun ⟨hget, hne, e, he, htag, ht⟩ => ?_⟩
    subst htag
    have hvalue : r.value e = t.encode v := by
      rw [value_of_field? ht, hget]
      rfl
    have hmem : (e, r.value e) ∈ (format.map fun e => (e, r.value e)).filter (Bears e.tag t) :=
      List.mem_filter.mpr ⟨List.mem_map.mpr ⟨e, he, rfl⟩, decide_eq_true ⟨rfl, ht, hvalue ▸ hne⟩⟩
    rw [hnone] at hmem
    exact absurd hmem List.not_mem_nil

lemma ofValues_values_of_ofValues (hfs : (fs.map fun f => (f.tag, f.type)).Nodup)
    (h : ofValues fs format values = .ok r) : ofValues fs format (r.values format) = .ok r := by
  obtain ⟨r', hread, hfields⟩ := ofValues_values r format
  have hsame : r' = r := by
    refine ext hfs fun tag t hd => Option.ext fun v => ?_
    rw [hfields tag t hd v]
    refine ⟨And.left, fun hget => ⟨hget, ?_⟩⟩
    obtain ⟨pair, v', hlast, hdecode, hget'⟩ | ⟨-, hget'⟩ := of_ofValues h hd
    · obtain rfl : v' = v := Option.some.inj (hget'.symm.trans hget)
      obtain ⟨hmem, hbears⟩ := List.mem_filter.mp (List.mem_of_getLast? hlast)
      obtain ⟨htag, ht, hne⟩ : Bears tag t pair := by simpa using hbears
      exact ⟨FieldType.encode_ne_nil hdecode hne, pair.1, (List.of_mem_zip hmem).1, htag, ht⟩
    · cases hget'.symm.trans hget
  rw [hread, hsame]

lemma value_eq_of_once {i : Nat} (h : ofValues fs format values = .ok r) (he : format[i]? = some e)
    (hv : values[i]? = some value) (hk : Knows fs e)
    (honce : ∀ (j : Nat) (e' : FormatEntry), format[j]? = some e' → e'.tag = e.tag → e'.type = e.type → j = i)
    (htext : e.type.field? = some .utf8 → ∃ text, value = Utf8.encode text) : r.value e = value := by
  obtain ⟨t, ht, hd⟩ := hk
  have hzip : (format.zip values)[i]? = some (e, value) := List.getElem?_zip_eq_some.mpr ⟨he, hv⟩
  rw [value_of_field? ht]
  obtain ⟨pair, v, hlast, hdecode, hget⟩ | ⟨hnone, hget⟩ := of_ofValues h hd
  · obtain ⟨hmem, hbears⟩ := List.mem_filter.mp (List.mem_of_getLast? hlast)
    obtain ⟨htag, ht', -⟩ : Bears e.tag t pair := by simpa using hbears
    obtain ⟨j, hj⟩ := List.mem_iff_getElem?.mp hmem
    obtain ⟨hj₁, -⟩ := List.getElem?_zip_eq_some.mp hj
    obtain rfl := honce j pair.1 hj₁ htag (ParamType.eq_of_field? ht' ht)
    obtain rfl := Option.some.inj (hj.symm.trans hzip)
    rw [hget]
    exact FieldType.encode_of_decode hdecode fun htype => htext (htype ▸ ht)
  · rw [hget]
    by_contra hne
    have hmem : (e, value) ∈ (format.zip values).filter (Bears e.tag t) :=
      List.mem_filter.mpr ⟨List.mem_of_getElem? hzip, decide_eq_true ⟨rfl, ht, fun hnil => hne hnil.symm⟩⟩
    rw [hnone] at hmem
    exact absurd hmem List.not_mem_nil

end Record

namespace Item

variable {c : Category} {item : Item} {format : Format} {values : Values} {i : Nat} {e : FormatEntry} {value : Bytes}

lemma ofValues_eq_ok :
    ofValues c format values = .ok item ↔ ∃ r, Record.ofValues c.fields format values = .ok r ∧ ⟨c, r⟩ = item := by
  unfold ofValues
  cases Record.ofValues c.fields format values with
  | error e => simp [Except.map]
  | ok r => simp [Except.map]

lemma category_of_ofValues (h : ofValues c format values = .ok item) : item.category = c := by
  obtain ⟨r, -, rfl⟩ := ofValues_eq_ok.mp h
  rfl

lemma ofValues_values_of_ofValues (h : ofValues c format values = .ok item) :
    ofValues c format (item.values format) = .ok item := by
  obtain ⟨r, hread, rfl⟩ := ofValues_eq_ok.mp h
  exact ofValues_eq_ok.mpr ⟨r, Record.ofValues_values_of_ofValues c.nodup_fields hread, rfl⟩

lemma getElem?_values (item : Item) (he : format[i]? = some e) :
    (item.values format)[i]? = some (item.record.value e) := by
  rw [values, Record.values, List.getElem?_map, he]
  rfl

lemma getElem?_values_of_not_knows (h : ofValues c format values = .ok item) (he : format[i]? = some e)
    (hk : ¬ Record.Knows c.fields e) : (item.values format)[i]? = some [] := by
  obtain ⟨r, -, rfl⟩ := ofValues_eq_ok.mp h
  rw [getElem?_values _ he, Record.value_of_not_knows hk]

lemma getElem?_values_of_once (h : ofValues c format values = .ok item) (he : format[i]? = some e)
    (hv : values[i]? = some value) (hk : Record.Knows c.fields e)
    (honce : ∀ (j : Nat) (e' : FormatEntry), format[j]? = some e' → e'.tag = e.tag → e'.type = e.type → j = i)
    (htext : e.type.field? = some .utf8 → ∃ text, value = Utf8.encode text) :
    (item.values format)[i]? = some value := by
  obtain ⟨r, hread, rfl⟩ := ofValues_eq_ok.mp h
  rw [getElem?_values _ he, Record.value_eq_of_once hread he hv hk honce htext]

end Item

end PimSync
