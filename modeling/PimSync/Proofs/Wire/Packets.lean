import PimSync.Proofs.Wire.Frames
import PimSync.Proofs.Wire.Inversion
import PimSync.Wire.Packet

/-! What a scan finds in front of a byte string. A packet is found as soon as all its bytes are there, and not
before. -/

namespace PimSync.Wire

namespace Control

lemma marker_of_ofMarker? {b : UInt8} {c : Control} (h : ofMarker? b = some c) : c.marker = b := by
  unfold ofMarker? at h
  split at h <;> cases h <;> rfl

lemma ofFrame?_eq_some {head : Block 7} {c : Control} : ofFrame? head = some c ↔ head.val = c.frame := by
  constructor
  · intro h
    unfold ofFrame? at h
    split at h
    · rename_i hlead
      obtain ⟨b, hb, hc⟩ := Option.bind_eq_some_iff.mp h
      have hdrop : head.val.drop 6 = [b] := by
        obtain ⟨hlt, rfl⟩ := List.getElem?_eq_some_iff.mp hb
        rw [List.drop_eq_getElem_cons hlt, List.drop_eq_nil_of_le (by rw [head.property])]
      rw [← List.take_append_drop 6 head.val, hlead, hdrop, ← marker_of_ofMarker? hc]
      rfl
    · cases h
  · intro h
    unfold ofFrame?
    rw [h]
    cases c <;> rfl

def Absent (bytes : Bytes) : Prop := ∀ c : Control, ¬ c.frame <+: bytes

lemma prefix_iff {c : Control} {bytes : Bytes} : c.frame <+: bytes ↔ bytes.take 7 = c.frame := by
  rw [List.prefix_iff_eq_take, eq_comm]
  rfl

lemma ofFrame?_eq_none {head : Block 7} : ofFrame? head = none ↔ Absent head.val := by
  have htake : head.val.take 7 = head.val := List.take_of_length_le (Nat.le_of_eq head.property)
  simp only [Absent, prefix_iff, htake, ← ofFrame?_eq_some, Option.eq_none_iff_forall_ne_some, ne_eq]

lemma absent_append {bytes more : Bytes} (h : 7 ≤ bytes.length) : Absent (bytes ++ more) ↔ Absent bytes := by
  simp only [Absent, prefix_iff, List.take_append_of_le_length h]

end Control

namespace Frame

def body (f : Frame) : Bytes := f.tag.bytes.val ++ (f.content ++ Bytes.ofWord f.checksum)

lemma length_body (f : Frame) : f.body.length = 3 + f.content.length + 2 := by
  simp only [body, List.length_append, f.tag.bytes.property, Bytes.length_ofWord]
  omega

lemma bytes_append (f : Frame) (rest : Bytes) :
    f.bytes ++ rest = f.header.val ++ (Bytes.ofWord f.bodySize ++ (f.body ++ rest)) := by
  simp only [bytes, body, List.append_assoc]

lemma readBody_eq_ok {header : Header} {size : UInt16} {bytes rest : Bytes} {f : Frame} (h3 : 3 ≤ size.toNat)
    (h : readBody header size bytes = (.ok f, rest)) :
    f.header = header ∧ f.Complete ∧ f.bodySize = size ∧ bytes = f.body ++ rest := by
  obtain ⟨tag, b₁, ht, h⟩ := Reader.bind_eq_ok.mp h
  obtain ⟨content, b₂, hc, h⟩ := Reader.bind_eq_ok.mp h
  obtain ⟨sum, hs, rfl⟩ := Reader.map_eq_ok.mp h
  obtain ⟨hl, rfl⟩ := Reader.slice_eq_ok.mp hc
  obtain rfl := Reader.block_eq_ok.mp ht
  obtain rfl := Reader.word_eq_ok.mp hs
  have hlt := size.toNat_lt
  have hle : content.length ≤ contentLimit := by
    simp only [contentLimit]
    omega
  have hsize : (received header ⟨tag⟩ content sum).bodySize = size := by
    apply UInt16.toNat_inj.mp
    rw [toNat_bodySize (f := received header ⟨tag⟩ content sum) hle]
    simp only [received, Frame.content, Option.getD_some]
    omega
  exact ⟨rfl, ⟨rfl, hle⟩, hsize, by simp [body, received, Frame.content]⟩

lemma readBody_frameOf (header : Header) {size : UInt16} (h3 : 3 ≤ size.toNat) (body : Block (size.toNat + 2))
    (rest : Bytes) :
    readBody header size (body.val ++ rest) = (.ok (Packet.frameOf header size.toNat h3 body), rest) := by
  have hslices := congrArg (· ++ rest) (Bytes.eq_slices h3 body.property)
  simp only [List.append_assoc] at hslices
  have hcontent : (body.val.extract 3 size.toNat).length = size.toNat - 3 := by
    rw [List.extract_eq_take_drop, List.length_take, List.length_drop, body.property]
    omega
  refine Reader.bind_eq_ok.mpr ⟨⟨_, rfl⟩, _, Reader.block_eq_ok.mpr hslices, ?_⟩
  refine Reader.bind_eq_ok.mpr ⟨_, _, Reader.slice_eq_ok.mpr ⟨hcontent, rfl⟩, ?_⟩
  exact Reader.map_eq_ok.mpr ⟨_, Reader.word_eq_ok.mpr (by rw [Bytes.ofWord_toWord rfl]), rfl⟩

lemma readBody_of_le (header : Header) {size : UInt16} {bytes : Bytes} (h3 : 3 ≤ size.toNat)
    (hl : size.toNat + 2 ≤ bytes.length) : ∃ f rest, readBody header size bytes = (.ok f, rest) := by
  have hread := readBody_frameOf header h3 ⟨bytes.take (size.toNat + 2), List.length_take_of_le hl⟩
    (bytes.drop (size.toNat + 2))
  rw [List.take_append_drop] at hread
  exact ⟨_, _, hread⟩

end Frame

namespace Packet

inductive Front : Bytes → Scan → Prop
  | start {bytes} (h7 : bytes.length < 7) : Front bytes (.needs 7)
  | control (c : Control) (rest : Bytes) : Front (c.frame ++ rest) (.packet (.control c) rest)
  | head {bytes} (h7 : 7 ≤ bytes.length) (h15 : bytes.length < 15) (ha : Control.Absent bytes) :
      Front bytes (.needs 15)
  | short {header : Header} (ha : Control.Absent header.val) {size : UInt16} (h3 : size < 3) (rest : Bytes) :
      Front (header.val ++ (Bytes.ofWord size ++ rest)) (.tooShort size rest)
  | body {header : Header} (ha : Control.Absent header.val) {size : UInt16} (h3 : ¬ size < 3) {rest : Bytes}
      (hl : rest.length < size.toNat + 2) :
      Front (header.val ++ (Bytes.ofWord size ++ rest)) (.needs (17 + size.toNat))
  | message {f : Frame} (ha : Control.Absent f.header.val) (hf : f.Complete) (rest : Bytes) :
      Front (f.bytes ++ rest) (.packet (.message f) rest)

lemma lt_three {size : UInt16} : size < 3 ↔ size.toNat < 3 := UInt16.lt_iff_toNat_lt

lemma three_le {size : UInt16} (h3 : ¬ size < 3) : 3 ≤ size.toNat := Nat.le_of_not_lt (mt lt_three.mpr h3)

lemma sizeOf_eq (front : Block 15) : sizeOf front = Bytes.toWord (front.val.drop 13) :=
  congrArg Bytes.toWord (Bytes.drop_eq_pair front.property).symm

lemma eq_front (front : Block 15) : front.val = (headerOf front).val ++ Bytes.ofWord (sizeOf front) := by
  have htail : (front.val.drop 13).length = 2 := by rw [List.length_drop, front.property]
  rw [sizeOf_eq, Bytes.ofWord_toWord htail]
  exact (List.take_append_drop 13 front.val).symm

lemma front_scanBody {header : Header} (ha : Control.Absent header.val) (size : UInt16) (rest : Bytes) :
    Front (header.val ++ (Bytes.ofWord size ++ rest)) (scanBody header size rest) := by
  unfold scanBody
  split
  · exact .short ha (lt_three.mpr ‹_›) rest
  · rename_i h3
    cases hbody : rest.split? (size.toNat + 2) with
    | none => exact .body ha (mt lt_three.mp h3) (Bytes.split?_eq_none.mp hbody)
    | some p =>
      obtain ⟨body, rest'⟩ := p
      obtain rfl := Bytes.split?_eq_some.mp hbody
      -- the frame was cut out by position, and a reader finds the same one in these bytes
      obtain ⟨hheader, hf, hsize, hbytes⟩ := Frame.readBody_eq_ok (Nat.le_of_not_lt h3)
        (Frame.readBody_frameOf header (Nat.le_of_not_lt h3) body rest')
      simp only
      generalize frameOf header size.toNat _ body = f at *
      subst hheader hsize
      rw [hbytes, ← Frame.bytes_append]
      exact .message ha hf rest'

lemma front_scanMessage {bytes : Bytes} (h7 : 7 ≤ bytes.length) (ha : Control.Absent bytes) :
    Front bytes (scanMessage bytes) := by
  unfold scanMessage
  cases h15 : bytes.split? 15 with
  | none => exact .head h7 (Bytes.split?_eq_none.mp h15) ha
  | some p =>
    obtain ⟨front, rest⟩ := p
    obtain rfl := Bytes.split?_eq_some.mp h15
    rw [eq_front front, List.append_assoc] at ha ⊢
    have hheader : 7 ≤ (headerOf front).val.length := by simp [(headerOf front).property]
    exact front_scanBody ((Control.absent_append hheader).mp ha) _ rest

lemma front_scan (bytes : Bytes) : Front bytes (scan bytes) := by
  unfold scan
  cases h7 : bytes.split? 7 with
  | none => exact .start (Bytes.split?_eq_none.mp h7)
  | some p =>
    obtain ⟨head, rest⟩ := p
    obtain rfl := Bytes.split?_eq_some.mp h7
    simp only
    cases hc : Control.ofFrame? head with
    | some c =>
      rw [Control.ofFrame?_eq_some.mp hc]
      exact .control c rest
    | none =>
      have hl : 7 ≤ head.val.length := Nat.le_of_eq head.property.symm
      apply front_scanMessage
      · simp only [List.length_append]
        omega
      · exact (Control.absent_append hl).mpr (Control.ofFrame?_eq_none.mp hc)

lemma scan_absent {bytes : Bytes} (h7 : 7 ≤ bytes.length) (ha : Control.Absent bytes) :
    scan bytes = scanMessage bytes := by
  obtain ⟨head, rest, hl, rfl⟩ : ∃ head rest, head.length = 7 ∧ bytes = head ++ rest :=
    ⟨bytes.take 7, bytes.drop 7, List.length_take_of_le h7, (List.take_append_drop 7 bytes).symm⟩
  have hc : Control.ofFrame? ⟨head, hl⟩ = none :=
    Control.ofFrame?_eq_none.mpr ((Control.absent_append (Nat.le_of_eq hl.symm)).mp ha)
  rw [scan, Bytes.split?_append hl]
  simp only [hc]

lemma scan_header {header : Header} (ha : Control.Absent header.val) (size : UInt16) (rest : Bytes) :
    scan (header.val ++ (Bytes.ofWord size ++ rest)) = scanBody header size rest := by
  have hheader : 7 ≤ header.val.length := by simp [header.property]
  have hl : (header.val ++ Bytes.ofWord size).length = 15 := by simp [header.property]
  have htake : headerOf ⟨_, hl⟩ = header := Subtype.ext (List.take_left' header.property)
  have hdrop : sizeOf ⟨_, hl⟩ = size := by
    rw [sizeOf_eq, List.drop_left' header.property, Bytes.toWord_ofWord]
  rw [scan_absent (by rw [List.length_append]; omega) ((Control.absent_append hheader).mpr ha), scanMessage,
    ← List.append_assoc, Bytes.split?_append hl]
  simp only [htake, hdrop]

lemma frameOf_body {f : Frame} (hf : f.Complete) (h3 : 3 ≤ f.bodySize.toNat)
    (hl : f.body.length = f.bodySize.toNat + 2) : frameOf f.header f.bodySize.toNat h3 ⟨f.body, hl⟩ = f := by
  have hread := (hf.reads_body []).symm.trans (Frame.readBody_frameOf f.header h3 ⟨f.body, hl⟩ [])
  exact (Except.ok.inj (congrArg Prod.fst hread)).symm

lemma scan_of_front {bytes : Bytes} {x : Scan} (h : Front bytes x) : scan bytes = x := by
  cases h with
  | start h7 => rw [scan, Bytes.split?_eq_none.mpr h7]
  | control c rest =>
    have hl : c.frame.length = 7 := rfl
    have hc : Control.ofFrame? ⟨c.frame, hl⟩ = some c := Control.ofFrame?_eq_some.mpr rfl
    rw [scan, Bytes.split?_append hl]
    simp only [hc]
  | head h7 h15 ha => rw [scan_absent h7 ha, scanMessage, Bytes.split?_eq_none.mpr h15]
  | short ha h3 rest => rw [scan_header ha, scanBody, dif_pos (lt_three.mp h3)]
  | body ha h3 hl => rw [scan_header ha, scanBody, dif_neg (mt lt_three.mpr h3), Bytes.split?_eq_none.mpr hl]
  | @message f ha hf rest =>
    have hsize := Frame.toNat_bodySize hf.length_le
    have hl : f.body.length = f.bodySize.toNat + 2 := by rw [hsize, Frame.length_body]
    rw [Frame.bytes_append, scan_header ha, scanBody, dif_neg (by omega), Bytes.split?_append hl]
    simp only [frameOf_body hf (by omega) hl]

lemma scan_eq_iff {bytes : Bytes} {x : Scan} : scan bytes = x ↔ Front bytes x :=
  ⟨fun h => h ▸ front_scan bytes, scan_of_front⟩

/-- The packets that a scan can find: the others would not be told from a control frame, or are not complete. -/
def Readable : Packet → Prop
  | control _ => True
  | message f => Control.Absent f.header.val ∧ f.Complete

lemma scan_eq_packet {bytes rest : Bytes} {p : Packet} :
    scan bytes = .packet p rest ↔ p.Readable ∧ bytes = p.bytes ++ rest := by
  rw [scan_eq_iff]
  constructor
  · rintro (_ | ⟨c, _⟩ | _ | _ | _ | ⟨ha, hf, _⟩)
    · exact ⟨trivial, rfl⟩
    · exact ⟨⟨ha, hf⟩, rfl⟩
  · rintro ⟨hp, rfl⟩
    cases p with
    | control c => exact .control c rest
    | message f => exact .message hp.1 hp.2 rest

lemma scan_short_append {bytes rest : Bytes} {size : UInt16} (h : scan bytes = .tooShort size rest) (more : Bytes) :
    scan (bytes ++ more) = .tooShort size (rest ++ more) := by
  obtain ⟨⟩ | ⟨⟩ | ⟨⟩ | ⟨ha, h3, _⟩ := scan_eq_iff.mp h
  simp only [List.append_assoc]
  exact scan_of_front (.short ha h3 _)

lemma scan_needs_append {bytes more : Bytes} {total : Nat} (h : scan bytes = .needs total)
    (hl : bytes.length + more.length < total) : scan (bytes ++ more) = .needs total := by
  apply scan_of_front
  cases scan_eq_iff.mp h with
  | start h7 => exact .start (by rwa [List.length_append])
  | head h7 h15 ha =>
    refine .head ?_ (by rwa [List.length_append]) ((Control.absent_append h7).mpr ha)
    rw [List.length_append]
    omega
  | @body header ha size h3 rest _ =>
    simp only [List.length_append, header.property, Bytes.length_ofWord] at hl
    rw [List.append_assoc, List.append_assoc]
    apply Front.body ha h3
    rw [List.length_append]
    omega

structure Clear (p : Packet) : Prop where
  scan_bytes : scan p.bytes = .packet p []
  scan_take : ∀ k, k < p.bytes.length → ∃ total, scan (p.bytes.take k) = .needs total

lemma Readable.clear {p : Packet} (hp : p.Readable) : p.Clear := by
  have hscan : scan p.bytes = .packet p [] := scan_eq_packet.mpr ⟨hp, (List.append_nil _).symm⟩
  refine ⟨hscan, fun k hk => ?_⟩
  have hcut := List.take_append_drop k p.bytes
  cases hpart : scan (p.bytes.take k) with
  | needs total => exact ⟨total, rfl⟩
  | packet q rest =>
    -- then `q` stands in front of the whole of the bytes as well, and so is `p`
    obtain ⟨hq, htake⟩ := scan_eq_packet.mp hpart
    rw [htake, List.append_assoc] at hcut
    have hwhole := scan_eq_packet.mpr ⟨hq, hcut.symm⟩
    rw [hscan] at hwhole
    simp only [Scan.packet.injEq, List.nil_eq, List.append_eq_nil_iff, List.drop_eq_nil_iff] at hwhole
    omega
  | tooShort size rest =>
    have hwhole := scan_short_append hpart (p.bytes.drop k)
    rw [hcut, hscan] at hwhole
    cases hwhole

lemma clear_control (c : Control) : (control c).Clear := Readable.clear (p := control c) trivial

variable {f : Frame} {tag : MessageTag} {o : Origin} {content : Bytes}

lemma absent_of_filledWith (hw : f.FilledWith tag o content) : Control.Absent f.header.val := by
  intro c hc
  have htake : f.header.val.take 7 = (o.header.val.take 9).take 7 := by
    rw [← hw.header_take, List.take_take]
    rfl
  rw [Control.prefix_iff, htake] at hc
  cases o <;> cases c <;> cases hc

lemma clear_message (hw : f.FilledWith tag o content) (hl : content.length ≤ Frame.contentLimit) :
    (message f).Clear :=
  Readable.clear (p := message f) ⟨absent_of_filledWith hw, hw.complete hl⟩

end Packet

end PimSync.Wire
