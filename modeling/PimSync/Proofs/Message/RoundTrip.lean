import PimSync.Message.Basic
import PimSync.Proofs.Wire.Frames
import PimSync.Proofs.Wire.Layouts

namespace PimSync

open Wire Schema Layout

lemma ClockTime.lawful_layout : ClockTime.layout.Lawful :=
  (lawful_block 14).refine fun t => by simp [ofBlock, t.isDigit]

@[simp] lemma Category.ofCode?_code (c : Category) : ofCode? c.code = some c := by
  cases c <;> rfl

lemma Category.lawful_layout (tag : MessageTag) : (Category.layout tag).Lawful :=
  lawful_byte.refine fun c => by simp

lemma Flags.lawful_layout : Flags.layout.Lawful := lawful_byte.map fun _ => rfl

lemma ItemKey.lawful_layout : ItemKey.layout.Lawful :=
  ((Category.lawful_layout _).pair lawful_long).map fun _ => rfl

lemma Deletion.lawful_layout : Deletion.layout.Lawful :=
  ((Category.lawful_layout _).pair (lawful_longs _)).map fun _ => rfl

lemma IdList.lawful_layout : IdList.layout.Lawful := (lawful_byte.pair (lawful_longs _)).map fun _ => rfl

lemma IdLists.lawful_layout : IdLists.layout.Lawful :=
  (IdList.lawful_layout.pair (IdList.lawful_layout.pair IdList.lawful_layout)).map fun _ => rfl

lemma DeviceInfo.lawful_layout : DeviceInfo.layout.Lawful :=
  ((lawful_blob _).pair ((lawful_block 2).pair lawful_byte)).map fun _ => rfl

namespace Schema

lemma FormatEntry.lawful_layout : FormatEntry.layout.Lawful :=
  ((lawful_block 4).pair (lawful_byte.pair (lawful_blob _))).map fun _ => rfl

lemma FormatEntry.one_le_size (e : FormatEntry) : 1 ≤ FormatEntry.layout.size e := by
  simp only [FormatEntry.layout, Layout.map, Layout.refine, Layout.pair, Layout.block]
  omega

lemma lawful_formatLayout : formatLayout.Lawful := FormatEntry.lawful_layout.records FormatEntry.one_le_size _

lemma one_le_size_value (value : Bytes) : 1 ≤ valueLayout.size value := by
  simp only [valueLayout, Layout.blob]
  omega

lemma lawful_valuesLayout : valuesLayout.Lawful := (lawful_blob _).records one_le_size_value _

end Schema

lemma WriteTarget.reads (target : WriteTarget) :
    ∃ read, reader? target.code = some read ∧ read.Reads target.write.bytes target := by
  cases target with
  | insert => exact ⟨_, rfl, Reader.Reads.pure _⟩
  | update id => exact ⟨_, rfl, (Reader.reads_long id).map update⟩
  | flagged id flags => exact ⟨_, rfl, (Reader.reads_long id).bind ((Reader.reads_word flags).map (flagged id))⟩

lemma WriteTarget.length_write (target : WriteTarget) : target.write.bytes.length = target.size := by
  cases target <;> rfl

lemma Category.reads (tag : MessageTag) (c : Category) : (Category.layout tag).read.Reads [c.code] c :=
  (Reader.reads_byte c.code).bind (y := []) (Reader.reads_ofExcept (by simp))

lemma ItemWrite.write_eq (w : ItemWrite) :
    w.write =
      .slice ([w.target.code] ++ ([w.category.code] ++ w.target.write.bytes)) ++ valuesLayout.write w.values := by
  cases h : w.target <;> simp [write, h, WriteTarget.write, Category.layout, Layout.refine, Layout.byte,
    Output.byte, Output.long, Output.word, Output.empty] <;> rfl

lemma ItemWrite.lawful_layout : ItemWrite.layout.Lawful := by
  intro w
  rcases lawful_valuesLayout w.values with ⟨vf, vl, vr⟩ | ⟨⟨what, n, hf⟩, hs⟩
  · obtain ⟨read, hread, hr⟩ := w.target.reads
    refine .inl ⟨?_, ?_, ?_⟩ <;> simp only [ItemWrite.layout, ItemWrite.write_eq]
    · simp [vf]
    · rw [Output.append_bytes rfl]
      simp [WriteTarget.length_write, vl]
      omega
    · rw [Output.append_bytes rfl]
      simp only [Output.slice_bytes, List.append_assoc]
      apply (Reader.reads_byte w.target.code).bind
      simp only [hread]
      exact (Category.reads tag w.category).bind (hr.bind (vr.map (ItemWrite.mk w.category w.target)))
  · refine .inr ⟨⟨what, n, ?_⟩, ?_⟩ <;> simp only [ItemWrite.layout, ItemWrite.write_eq]
    · simp [hf]
    · omega

namespace MessageType

lemma lawful_layout (t : MessageType) : t.layout.Lawful := by
  cases t with
  | authRequest | path => exact lawful_blob _
  | setTime | time => exact ClockTime.lawful_layout
  | stateRequest | formatRequest | idsRequest | syncDone => exact Category.lawful_layout _
  | setState | state => exact Flags.lawful_layout
  | itemRequest => exact ItemKey.lawful_layout
  | deleteItems => exact Deletion.lawful_layout
  | itemWrite => exact ItemWrite.lawful_layout
  | info => exact DeviceInfo.lawful_layout
  | format => exact lawful_formatLayout
  | ids => exact IdLists.lawful_layout
  | item => exact lawful_valuesLayout
  | itemWritten => exact lawful_long
  | _ => exact lawful_empty

@[simp] lemma ofTag?_tag (t : MessageType) : ofTag? t.tag = some t := by
  cases t <;> rfl

lemma tag_injective {t t' : MessageType} (h : t.tag = t'.tag) : t = t' := by
  have ht := ofTag?_tag t
  rw [h, ofTag?_tag] at ht
  exact (Option.some.inj ht).symm

end MessageType

namespace Message

lemma decode_of_reads {t : MessageType} {payload : t.Payload} {bytes : Bytes}
    (h : t.layout.read.Reads bytes payload) : decode t.tag bytes = .ok ⟨t, payload⟩ := by
  have hr := h []
  rw [List.append_nil] at hr
  rw [decode, MessageType.ofTag?_tag]
  have hread : (do let a ← t.layout.read; Reader.finish t.tag; return a : Reader t.Payload) bytes =
      (.ok payload, []) :=
    (Reader.bind_of_ok hr _).trans (Reader.bind_of_ok (if_pos rfl) _)
  simp only [Layout.decode, Reader.run, hread, Except.map]

def Fits (m : Message) : Prop := m.encodedLength ≤ Frame.contentLimit

instance (m : Message) : Decidable m.Fits := inferInstanceAs (Decidable (_ ≤ _))

lemma carries_of_fits {m : Message} (h : m.Fits) : m.type.layout.Carries m.payload := by
  refine (m.type.lawful_layout m.payload).resolve_right fun hr => ?_
  have hs : Output.countLimit < m.encodedLength := hr.size_lt
  simp only [Fits, Frame.contentLimit, Output.countLimit] at h hs
  omega

lemma length_of_encode {m : Message} {content : Bytes} (h : m.encode = .ok content) :
    content.length = m.encodedLength := by
  obtain ⟨hf, rfl⟩ := Output.toExcept_eq_ok.mp h
  rcases m.type.lawful_layout m.payload with hc | ⟨⟨what, n, hr⟩, _⟩
  · exact hc.length_bytes
  · cases hr.symm.trans hf

lemma tooLong_of_encode {m : Message} {e : CodingError} (h : m.encode = .error e) :
    ∃ what n, e = .tooLong what n Output.countLimit := by
  rcases m.type.lawful_layout m.payload with ⟨hf, _⟩ | ⟨⟨what, n, hf⟩, _⟩
  · cases h.symm.trans (Output.toExcept_eq_ok.mpr ⟨hf, rfl⟩)
  · refine ⟨what, n, ?_⟩
    simpa [encode, write, Output.toExcept, hf] using h.symm

lemma fillFrame_new {m : Message} (tag : MessageTag) (o : Origin) (h : m.encodedLength < memoryLimit) :
    m.fillFrame (.new tag o) = m.encode.bind (Frame.new tag o).fill := by
  have hr : reserve "message content" m.encodedLength = .ok () := if_pos h
  simp [fillFrame, Frame.new, Frame.isFilled, hr, bind, Except.bind]

lemma frame_of_fits {m : Message} (h : m.Fits) :
    ∃ f content, m.frame = .ok f ∧ f.FilledWith m.tag m.origin content ∧
      content.length = m.encodedLength ∧ ofFrame f = .ok m := by
  have hc := carries_of_fits h
  have hl : m.write.bytes.length ≤ Frame.contentLimit := Nat.le_trans (Nat.le_of_eq hc.length_bytes) h
  obtain ⟨f, hf, hw⟩ := Frame.fill_new m.tag m.origin hl
  have he : m.encode = .ok m.write.bytes := Output.toExcept_eq_ok.mpr ⟨hc.unfaulted, rfl⟩
  have hm : m.encodedLength < memoryLimit := by
    simp only [Fits, Frame.contentLimit, memoryLimit] at h ⊢
    omega
  refine ⟨f, m.write.bytes, ?_, hw, hc.length_bytes, ?_⟩
  · rw [frame, fillFrame_new m.tag m.origin hm, he]
    exact hf
  · rw [ofFrame, hw.tag_eq, hw.content_eq]
    exact decode_of_reads hc.reads

lemma frame_of_not_fits {m : Message} (h : ¬ m.Fits) (hm : m.encodedLength < memoryLimit) :
    ∃ what size limit, m.frame = .error (.tooLong what size limit) := by
  have hx : m.frame = m.encode.bind (Frame.new m.tag m.origin).fill := fillFrame_new m.tag m.origin hm
  cases he : m.encode with
  | ok content =>
    have hl : Frame.contentLimit < content.length := by
      rw [length_of_encode he]
      exact Nat.not_le.mp h
    exact ⟨_, _, _, by rw [hx, he, Except.bind, Frame.fill_new_long m.tag m.origin hl]⟩
  | error e =>
    obtain ⟨what, n, rfl⟩ := tooLong_of_encode he
    exact ⟨what, n, Output.countLimit, by rw [hx, he, Except.bind]⟩

lemma fits_of_frame {m : Message} {f : Frame} (h : m.frame = .ok f) : m.Fits := by
  by_cases hm : m.encodedLength < memoryLimit
  · refine Nat.not_lt.mp fun hl => ?_
    obtain ⟨_, _, _, he⟩ := frame_of_not_fits (Nat.not_le.mpr hl) hm
    simp [h] at he
  · simp [frame, fillFrame, Frame.new, Frame.isFilled, reserve, hm, bind, Except.bind] at h

lemma of_frame {m : Message} {f : Frame} (h : m.frame = .ok f) :
    ∃ content, f.FilledWith m.tag m.origin content ∧ content.length = m.encodedLength ∧ ofFrame f = .ok m := by
  obtain ⟨g, content, hg, hw⟩ := frame_of_fits (fits_of_frame h)
  obtain rfl : g = f := Except.ok.inj (hg.symm.trans h)
  exact ⟨content, hw⟩

lemma tag_of_frame {m : Message} {f : Frame} (h : m.frame = .ok f) : f.tag = m.tag := by
  obtain ⟨_, hw, -⟩ := of_frame h
  exact hw.tag_eq

lemma eq_of_frame {m m' : Message} {f : Frame} (h : m.frame = .ok f) (h' : m'.frame = .ok f) : m = m' := by
  obtain ⟨_, -, -, ho⟩ := of_frame h
  obtain ⟨_, -, -, ho'⟩ := of_frame h'
  exact Except.ok.inj (ho.symm.trans ho')

/-- A message that fits a frame survives the wire, and any other is refused for its length. -/
theorem frame_round_trip (m : Message) (hm : m.encodedLength < memoryLimit) :
    ((∃ f, m.frame = .ok f) ↔ m.encodedLength ≤ Frame.contentLimit) ∧
    (Frame.contentLimit < m.encodedLength → ∃ what size limit, m.frame = .error (.tooLong what size limit)) ∧
    ∀ f, m.frame = .ok f →
      f.content.length = m.encodedLength ∧ f.tag = m.tag ∧ f.origin = m.origin ∧ f.checksumMatches ∧
        Frame.parse f.bytes = .ok f ∧ ofFrame f = .ok m := by
  have hlong : Frame.contentLimit < m.encodedLength →
      ∃ what size limit, m.frame = .error (.tooLong what size limit) :=
    fun h => frame_of_not_fits (Nat.not_le.mpr h) hm
  refine ⟨⟨?_, ?_⟩, hlong, ?_⟩
  · rintro ⟨f, hf⟩
    exact fits_of_frame hf
  · intro h
    obtain ⟨f, _, hf, _⟩ := frame_of_fits h
    exact ⟨f, hf⟩
  · intro f hf
    obtain ⟨content, hw, hl, ho⟩ := of_frame hf
    have hc : f.Complete := hw.complete (Nat.le_trans (Nat.le_of_eq hl) (fits_of_frame hf))
    exact ⟨by rw [hw.content_eq, hl], hw.tag_eq, hw.origin_eq, hw.checksumMatches, hc.parse_bytes, ho⟩

theorem frame_round_trip_flagged :
    let m : Message := ⟨.itemWrite, ⟨.calendar, .flagged 9 0x0102, [[1], []]⟩⟩
    m.encodedLength < memoryLimit ∧
      ∃ f, m.frame = .ok f ∧ f.content.length = 15 ∧ f.origin = .desktop ∧ Frame.parse f.bytes = .ok f ∧
        ofFrame f = .ok m := by
  intro m
  have hm : m.encodedLength < memoryLimit := by decide
  obtain ⟨hfit, -, hback⟩ := frame_round_trip m hm
  obtain ⟨f, hf⟩ := hfit.mpr (by decide)
  obtain ⟨hl, -, ho, -, hp, hb⟩ := hback f hf
  exact ⟨hm, f, hf, hl, ho, hp, hb⟩

end Message

end PimSync
