import PimSync.Proofs.Wire.Reading
import PimSync.Wire.Frame

namespace PimSync.Wire

namespace Header

@[simp] lemma origin_setLength (header : Header) (size : UInt16) :
    (header.setLength size).origin = header.origin := by
  simp [origin, setLength]

@[simp] lemma take_setLength (header : Header) (size : UInt16) :
    (header.setLength size).val.take 9 = header.val.take 9 := by
  simp [setLength, List.take_set, List.set_eq_of_length_le, header.property]

end Header

lemma toNat_foldl_add (bs : Bytes) (w : UInt16) :
    (bs.foldl (fun sum b => sum + b.toUInt16) w).toNat = (w.toNat + (bs.map UInt8.toNat).sum) % 65536 := by
  induction bs generalizing w with
  | nil =>
    have := w.toNat_lt
    simp only [List.foldl_nil, List.map_nil, List.sum_nil]
    omega
  | cons b bs ih =>
    have hstep : (w + b.toUInt16).toNat = (w.toNat + b.toNat) % 65536 := by
      rw [UInt16.toNat_add, UInt8.toNat_toUInt16]
    rw [List.foldl_cons, ih, hstep, List.map_cons, List.sum_cons]
    omega

lemma toNat_checksum (tag : MessageTag) (content : Bytes) :
    (checksum tag content).toNat = ((tag.bytes.val ++ content).map UInt8.toNat).sum % 65536 := by
  rw [checksum, toNat_foldl_add, UInt16.toNat_zero, Nat.zero_add]

@[simp] lemma Origin.origin_header (o : Origin) : o.header.origin = o := by
  cases o <;> rfl

namespace Frame

open Reader

structure Complete (f : Frame) : Prop where
  isFilled : f.isFilled
  length_le : f.content.length ≤ contentLimit

lemma content?_eq {f : Frame} (h : f.isFilled) : f.content? = some f.content := by
  obtain ⟨c, hc⟩ := Option.isSome_iff_exists.mp h
  simp [content, hc]

lemma toNat_bodySize {f : Frame} (h : f.content.length ≤ contentLimit) :
    f.bodySize.toNat = 3 + f.content.length := by
  simp only [contentLimit] at h
  simp [bodySize]
  omega

lemma Complete.not_short {f : Frame} (h : f.Complete) : ¬ f.bodySize < 3 := by
  have hb := toNat_bodySize h.length_le
  simp only [UInt16.lt_iff_toNat_lt, hb]
  simp

lemma Complete.reads_body {f : Frame} (h : f.Complete) : (readBody f.header f.bodySize).Reads
    (f.tag.bytes.val ++ (f.content ++ Bytes.ofWord f.checksum)) f := by
  have hf : received f.header ⟨f.tag.bytes⟩ f.content f.checksum = f := by
    unfold received
    rw [← content?_eq h.isFilled]
  have hs : f.bodySize.toNat - 3 = f.content.length := by
    rw [toNat_bodySize h.length_le]
    omega
  apply (reads_block f.tag.bytes).bind
  rw [hs]
  apply (reads_slice f.content).bind
  exact ((reads_word f.checksum).map fun sum => received f.header ⟨f.tag.bytes⟩ f.content sum).congr hf

lemma Complete.reads {f : Frame} (h : f.Complete) : reader.Reads f.bytes f := by
  refine (reads_block f.header).bind ((reads_word f.bodySize).bind ?_)
  rw [if_neg h.not_short]
  exact h.reads_body

lemma Complete.parse_bytes {f : Frame} (h : f.Complete) : parse f.bytes = .ok f := by
  have hr := h.reads []
  rw [List.append_nil] at hr
  rw [parse, Reader.run, hr]

@[simp] lemma length_bytes (f : Frame) : f.bytes.length = f.wireLength := by
  simp [bytes, wireLength, f.header.property, f.tag.bytes.property]
  omega

structure FilledWith (f : Frame) (tag : MessageTag) (o : Origin) (content : Bytes) : Prop where
  content?_eq : f.content? = some content
  tag_eq : f.tag = tag
  header_take : f.header.val.take 9 = o.header.val.take 9
  origin_eq : f.origin = o
  checksum_eq : f.checksum = Wire.checksum tag content

namespace FilledWith

variable {f : Frame} {tag : MessageTag} {o : Origin} {content : Bytes}

lemma content_eq (h : f.FilledWith tag o content) : f.content = content := by
  simp [Frame.content, h.content?_eq]

lemma complete (h : f.FilledWith tag o content) (hl : content.length ≤ contentLimit) : f.Complete :=
  ⟨by simp [isFilled, h.content?_eq], by rwa [h.content_eq]⟩

lemma checksumMatches (h : f.FilledWith tag o content) : f.checksumMatches := by
  simp [Frame.checksumMatches, computedChecksum, h.checksum_eq, h.tag_eq, h.content_eq]

end FilledWith

lemma fill_new (tag : MessageTag) (o : Origin) {content : Bytes} (h : content.length ≤ contentLimit) :
    ∃ f, (new tag o).fill content = .ok f ∧ f.FilledWith tag o content := by
  have hl : ¬ content.length > contentLimit := by omega
  cases o with
  | device =>
    exact ⟨⟨Origin.device.header, tag, some content, Wire.checksum tag content⟩,
      by simp [fill, new, isFilled, hl, origin], rfl, rfl, rfl, rfl, rfl⟩
  | desktop =>
    exact ⟨⟨Origin.desktop.header.setLength (UInt16.ofNat content.length), tag, some content,
      Wire.checksum tag content⟩, by simp [fill, new, isFilled, hl, origin], rfl, rfl, by simp, by simp [origin], rfl⟩

lemma fill_new_long (tag : MessageTag) (o : Origin) {content : Bytes} (h : contentLimit < content.length) :
    (new tag o).fill content = .error (.tooLong "message content" content.length contentLimit) := by
  simp [fill, new, isFilled, h]

end Frame

end PimSync.Wire
