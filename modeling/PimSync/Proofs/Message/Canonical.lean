import PimSync.Proofs.Message.RoundTrip
import PimSync.Proofs.Wire.Exactness

namespace PimSync

open Wire Schema Layout

lemma ClockTime.exact_layout : ClockTime.layout.Exact := by
  apply (exact_block 14).refine
  · intro digits t h
    simp only [ofBlock] at h
    split at h
    · cases h
      rfl
    · cases h
  · intro digits tag
    simp only [ofBlock]
    split <;> simp

lemma Category.code_of_ofCode? {code : UInt8} {c : Category} (h : ofCode? code = some c) : c.code = code := by
  simpa using List.find?_some h

lemma Category.exact_layout (tag : MessageTag) : (Category.layout tag).Exact := by
  apply exact_byte.refine
  · intro code c h
    split at h
    · rename_i c' hc
      cases h
      exact code_of_ofCode? hc
    · cases h
  · intro code tag'
    split <;> simp

lemma Flags.exact_layout : Flags.layout.Exact := exact_byte.map fun _ => rfl

lemma ItemKey.exact_layout : ItemKey.layout.Exact :=
  ((Category.exact_layout _).pair exact_long).map fun _ => rfl

lemma Deletion.exact_layout : Deletion.layout.Exact :=
  ((Category.exact_layout _).pair (exact_longs _)).map fun _ => rfl

lemma IdList.exact_layout : IdList.layout.Exact := (exact_byte.pair (exact_longs _)).map fun _ => rfl

lemma IdLists.exact_layout : IdLists.layout.Exact :=
  (IdList.exact_layout.pair (IdList.exact_layout.pair IdList.exact_layout)).map fun _ => rfl

lemma DeviceInfo.exact_layout : DeviceInfo.layout.Exact :=
  ((exact_blob _).pair ((exact_block 2).pair exact_byte)).map fun _ => rfl

namespace Schema

lemma FormatEntry.exact_layout : FormatEntry.layout.Exact :=
  ((exact_block 4).pair (exact_byte.pair (exact_blob _))).map fun _ => rfl

lemma exact_formatLayout : formatLayout.Exact := FormatEntry.exact_layout.records _

lemma exact_valuesLayout : valuesLayout.Exact := (exact_blob _).records _

end Schema

namespace WriteTarget

open Reader

lemma of_reader? {code : UInt8} {read : Reader WriteTarget} {bytes rest : Bytes} {target : WriteTarget}
    (hc : reader? code = some read) (hr : read bytes = (.ok target, rest)) :
    target.code = code ∧ bytes = target.write.bytes ++ rest := by
  unfold reader? at hc
  split at hc
  · cases hc
    obtain ⟨rfl, rfl⟩ := pure_eq_ok.mp hr
    exact ⟨rfl, rfl⟩
  · cases hc
    obtain ⟨id, hid, rfl⟩ := map_eq_ok.mp hr
    exact ⟨rfl, long_eq_ok.mp hid⟩
  · cases hc
    obtain ⟨id, mid, hid, hm⟩ := bind_eq_ok.mp hr
    obtain ⟨flags, hf, rfl⟩ := map_eq_ok.mp hm
    refine ⟨rfl, ?_⟩
    rw [long_eq_ok.mp hid, word_eq_ok.mp hf, ← List.append_assoc]
    rfl
  · cases hc

lemma typed_reader? {code : UInt8} {read : Reader WriteTarget} (hc : reader? code = some read) : read.Typed := by
  unfold reader? at hc
  split at hc
  · cases hc
    exact .pure _
  · cases hc
    exact typed_long.map _
  · cases hc
    exact typed_long.bind fun _ => typed_word.map _
  · cases hc

end WriteTarget

namespace ItemWrite

open Reader

lemma typed_layout : layout.read.Typed := by
  apply typed_byte.bind
  intro code
  cases hc : WriteTarget.reader? code with
  | none =>
    simp only [hc]
    exact .fail fun _ h => nomatch h
  | some target =>
    simp only [hc]
    exact (Category.exact_layout _).typed.bind fun _ => (WriteTarget.typed_reader? hc).bind fun _ =>
      exact_valuesLayout.typed.map _

lemma exact_layout : layout.Exact where
  writes {bytes w rest} h := by
    obtain ⟨code, b₁, hcode, h⟩ := bind_eq_ok.mp h
    cases hc : WriteTarget.reader? code with
    | none =>
      simp only [hc] at h
      cases h
    | some target =>
      simp only [hc] at h
      obtain ⟨category, b₂, hcat, h⟩ := bind_eq_ok.mp h
      obtain ⟨target', b₃, ht, h⟩ := bind_eq_ok.mp h
      obtain ⟨values, hv, rfl⟩ := map_eq_ok.mp h
      obtain ⟨rfl, rfl⟩ := WriteTarget.of_reader? hc ht
      obtain ⟨-, rfl⟩ := (Category.exact_layout _).writes hcat
      obtain ⟨hf, rfl⟩ := exact_valuesLayout.writes hv
      obtain rfl := byte_eq_ok.mp hcode
      simp only [layout, write_eq]
      refine ⟨by simp [hf], ?_⟩
      rw [Output.append_bytes rfl]
      simp only [Output.slice_bytes, List.append_assoc]
      rfl
  typed := typed_layout

end ItemWrite

lemma MessageType.exact_layout (t : MessageType) : t.layout.Exact := by
  cases t with
  | authRequest | path => exact exact_blob _
  | setTime | time => exact ClockTime.exact_layout
  | stateRequest | formatRequest | idsRequest | syncDone => exact Category.exact_layout _
  | setState | state => exact Flags.exact_layout
  | itemRequest => exact ItemKey.exact_layout
  | deleteItems => exact Deletion.exact_layout
  | itemWrite => exact ItemWrite.exact_layout
  | info => exact DeviceInfo.exact_layout
  | format => exact exact_formatLayout
  | ids => exact IdLists.exact_layout
  | item => exact exact_valuesLayout
  | itemWritten => exact exact_long
  | _ => exact exact_empty

lemma MessageType.of_arm {tag known : MessageTag} {t t' : MessageType} {others : Option MessageType}
    (h : (if tag = known then some t' else others) = some t) : tag = known ∧ t' = t ∨ others = some t := by
  split at h
  · exact .inl ⟨‹_›, Option.some.inj h⟩
  · exact .inr h

lemma MessageType.tag_of_ofTag? {tag : MessageTag} {t : MessageType} (h : ofTag? tag = some t) : t.tag = tag := by
  unfold ofTag? at h
  -- the tag is that of the first arm, or one of the arms behind it gave the type
  repeat
    rcases of_arm h with ⟨rfl, rfl⟩ | h
    · rfl
  cases h

namespace MessageSpec

lemma origin_of_lookup? (t : MessageType) : (lookup? t.tag).map origin = some t.origin := by
  cases t <;> rfl

lemma isSome_ofTag? : ∀ spec ∈ registry, (MessageType.ofTag? spec.tag).isSome := by
  decide

lemma lookup?_eq_none {tag : MessageTag} : lookup? tag = none ↔ MessageType.ofTag? tag = none := by
  constructor
  · intro h
    by_contra hdecoded
    obtain ⟨t, ht⟩ := Option.ne_none_iff_exists'.mp hdecoded
    have horigin := origin_of_lookup? t
    rw [MessageType.tag_of_ofTag? ht, h] at horigin
    cases horigin
  · intro h
    by_contra hlisted
    obtain ⟨spec, hspec⟩ := Option.ne_none_iff_exists'.mp hlisted
    have htag : spec.tag = tag := by simpa using List.find?_some hspec
    have hsome := isSome_ofTag? spec (List.mem_of_find?_eq_some hspec)
    rw [htag, h] at hsome
    cases hsome

end MessageSpec

namespace Message

open Reader

lemma layout_decode_eq_ok {α : Type} {l : Layout α} {tag : MessageTag} {content : Bytes} {a : α}
    (h : l.decode tag content = .ok a) : l.read content = (.ok a, []) := by
  have hr := Prod.ext (x := (do let a ← l.read; finish tag; return a : Reader α) content)
    (y := (.ok a, _)) h rfl
  obtain ⟨b, rest, hb, hr⟩ := bind_eq_ok.mp hr
  obtain ⟨_, rest', hf, hr⟩ := bind_eq_ok.mp hr
  obtain ⟨rfl, -⟩ := pure_eq_ok.mp hr
  cases rest with
  | nil => exact hb
  | cons b bs => cases hf

lemma decode_eq_unknownType {tag t : MessageTag} {content : Bytes} :
    decode tag content = .error (.unknownType t) ↔ t = tag ∧ MessageType.ofTag? tag = none := by
  rw [decode]
  cases ht : MessageType.ofTag? tag with
  | none => simp [eq_comm]
  | some type =>
    have hread : (do let a ← type.layout.read; finish tag; return a : Reader type.Payload).Typed :=
      type.exact_layout.typed.bind fun _ => (typed_finish tag).bind fun _ => .pure _
    simp only [reduceCtorEq, and_false, iff_false]
    intro h
    cases hd : type.layout.decode tag content with
    | ok payload => simp [hd, Except.map] at h
    | error e =>
      simp only [hd, Except.map, Except.error.injEq] at h
      exact hread content t (h ▸ hd)

lemma of_decode {tag : MessageTag} {content : Bytes} {m : Message} (h : decode tag content = .ok m) :
    MessageType.ofTag? tag = some m.type ∧ m.write.fault? = none ∧ m.write.bytes = content := by
  rw [decode] at h
  cases ht : MessageType.ofTag? tag with
  | none => simp [ht] at h
  | some t =>
    simp only [ht] at h
    cases hd : t.layout.decode tag content with
    | error e => simp [hd, Except.map] at h
    | ok payload =>
      simp only [hd, Except.map, Except.ok.injEq] at h
      subst h
      obtain ⟨hf, hb⟩ := t.exact_layout.writes (layout_decode_eq_ok hd)
      exact ⟨rfl, hf, (hb.trans (List.append_nil _)).symm⟩

lemma length_of_unfaulted {m : Message} (h : m.write.fault? = none) :
    m.write.bytes.length = m.encodedLength := by
  rcases m.type.lawful_layout m.payload with hc | ⟨⟨what, n, hf⟩, -⟩
  · exact hc.length_bytes
  · cases h.symm.trans hf

/-- Whatever decodes is encoded as the very content it was decoded from. -/
theorem decode_canonical (tag : MessageTag) (content : Bytes) :
    (∀ t, decode tag content = .error (.unknownType t) ↔ t = tag ∧ MessageSpec.lookup? tag = none) ∧
    ∀ m, decode tag content = .ok m →
      m.tag = tag ∧ (MessageSpec.lookup? tag).map MessageSpec.origin = some m.origin ∧
        m.encodedLength = content.length ∧ m.encode = .ok content ∧
        ∀ content', decode tag content' = .ok m → content' = content := by
  constructor
  · intro t
    rw [decode_eq_unknownType, MessageSpec.lookup?_eq_none]
  · intro m hm
    obtain ⟨ht, hf, rfl⟩ := of_decode hm
    have htag : m.tag = tag := MessageType.tag_of_ofTag? ht
    refine ⟨htag, ?_, (length_of_unfaulted hf).symm, ?_, ?_⟩
    · rw [← htag]
      exact MessageSpec.origin_of_lookup? m.type
    · exact Output.toExcept_eq_ok.mpr ⟨hf, rfl⟩
    · intro content' hm'
      exact (of_decode hm').2.2.symm

example : decode MessageType.format.tag [1, 0, 65, 66, 67, 68, 238, 0, 0] =
    .ok ⟨.format, [⟨.ascii 'A' 'B' 'C' 'D', ⟨238⟩, []⟩]⟩ := by
  rfl

end Message

end PimSync
