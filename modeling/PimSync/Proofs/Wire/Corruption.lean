import PimSync.Proofs.Wire.Streams

namespace PimSync.Wire

lemma sum_set_ne {bs : Bytes} {i : Nat} {b : UInt8} (hi : i < bs.length) (hb : bs[i]? ≠ some b) :
    ((bs.set i b).map UInt8.toNat).sum % 65536 ≠ (bs.map UInt8.toNat).sum % 65536 := by
  induction bs generalizing i with
  | nil => cases hi
  | cons x bs ih =>
    cases i with
    | zero =>
      have hne : x.toNat ≠ b.toNat := fun he => hb (congrArg some (UInt8.toNat_inj.mp he))
      have hx := x.toNat_lt
      have hlt := b.toNat_lt
      simp only [List.set_cons_zero, List.map_cons, List.sum_cons]
      omega
    | succ i =>
      have htail := ih (Nat.lt_of_succ_lt_succ hi) hb
      simp only [List.set_cons_succ, List.map_cons, List.sum_cons]
      omega

namespace Frame

def summed (f : Frame) : Bytes := f.tag.bytes.val ++ f.content

lemma length_summed (f : Frame) : f.summed.length = 3 + f.content.length := by
  rw [summed, List.length_append, f.tag.bytes.property]

lemma body_eq (f : Frame) : f.body = f.summed ++ Bytes.ofWord f.checksum := (List.append_assoc ..).symm

lemma bytes_eq (f : Frame) : f.bytes = f.header.val ++ (Bytes.ofWord f.bodySize ++ f.body) := by
  rw [← List.append_nil f.bytes, bytes_append, List.append_nil]

lemma bytes_set (f : Frame) {i : Nat} (hi : 15 ≤ i) (b : UInt8) :
    f.bytes.set i b = f.header.val ++ (Bytes.ofWord f.bodySize ++ f.body.set (i - 15) b) := by
  have hheader := f.header.property
  have hsize := Bytes.length_ofWord f.bodySize
  rw [bytes_eq, List.set_append_right _ _ (by omega), List.set_append_right _ _ (by omega), hheader, hsize,
    Nat.sub_sub]

variable {f g : Frame}

lemma Complete.exists_body (hf : f.Complete) {body : Bytes} (hl : body.length = f.body.length) :
    ∃ g : Frame, g.Complete ∧ g.header = f.header ∧ g.bodySize = f.bodySize ∧ g.body = body := by
  have h3 := Packet.three_le hf.not_short
  have hsize := toNat_bodySize hf.length_le
  rw [length_body] at hl
  obtain ⟨g, rest, hr⟩ := readBody_of_le f.header h3 (by omega : f.bodySize.toNat + 2 ≤ body.length)
  obtain ⟨hheader, hg, hbodySize, rfl⟩ := readBody_eq_ok h3 hr
  have hgsize := toNat_bodySize hg.length_le
  rw [hbodySize, hsize] at hgsize
  rw [List.length_append, length_body] at hl
  obtain rfl : rest = [] := List.eq_nil_of_length_eq_zero (by omega)
  exact ⟨g, hg, hheader, hbodySize, (List.append_nil _).symm⟩

lemma computedChecksum_ne {j : Nat} {b : UInt8} (hj : j < f.summed.length) (hb : f.summed[j]? ≠ some b)
    (hg : g.summed = f.summed.set j b) : g.computedChecksum ≠ f.computedChecksum := by
  intro he
  have hsum := congrArg UInt16.toNat he
  rw [computedChecksum, computedChecksum, toNat_checksum, toNat_checksum] at hsum
  change (g.summed.map UInt8.toNat).sum % 65536 = (f.summed.map UInt8.toNat).sum % 65536 at hsum
  rw [hg] at hsum
  exact sum_set_ne hj hb hsum

lemma not_checksumMatches (hf : f.checksumMatches) (hl : g.body.length = f.body.length) {j : Nat} {b : UInt8}
    (hj : j < f.body.length) (hb : f.body[j]? ≠ some b) (hg : g.body = f.body.set j b) : ¬ g.checksumMatches := by
  have hsummed : g.summed.length = f.summed.length := by
    rw [length_body, length_body] at hl
    rw [length_summed, length_summed]
    omega
  have hmatch : f.checksum = f.computedChecksum := of_decide_eq_true hf
  simp only [checksumMatches, decide_eq_true_eq]
  rw [body_eq] at hb
  rw [body_eq, body_eq] at hg
  rcases Nat.lt_or_ge j f.summed.length with hlt | hge
  · rw [List.set_append_left _ _ hlt] at hg
    obtain ⟨hsame, hword⟩ := List.append_inj hg (by rw [List.length_set, hsummed])
    rw [List.getElem?_append_left hlt] at hb
    rw [show g.checksum = f.checksum by rw [← Bytes.toWord_ofWord g.checksum, hword, Bytes.toWord_ofWord], hmatch]
    exact (computedChecksum_ne hlt hb hsame).symm
  · rw [List.set_append_right _ _ hge] at hg
    obtain ⟨hsame, hword⟩ := List.append_inj hg hsummed
    rw [List.getElem?_append_right hge] at hb
    have hcomputed : g.computedChecksum = f.computedChecksum := by
      apply UInt16.toNat_inj.mp
      rw [computedChecksum, computedChecksum, toNat_checksum, toNat_checksum]
      exact congrArg (fun bs : Bytes => (bs.map UInt8.toNat).sum % 65536) hsame
    rw [hcomputed, ← hmatch]
    intro he
    rw [he] at hword
    have hin : j - f.summed.length < (Bytes.ofWord f.checksum).length := by
      rw [body_eq, List.length_append] at hj
      omega
    exact hb ((congrArg (·[j - f.summed.length]?) hword).trans (List.getElem?_set_self hin))

lemma exists_altered (hf : f.Complete) (hm : f.checksumMatches) {i : Nat} {b : UInt8} (h15 : 15 ≤ i)
    (hi : i < f.bytes.length) (hb : f.bytes[i]? ≠ some b) :
    ∃ g : Frame, g.Complete ∧ g.header = f.header ∧ g.bytes = f.bytes.set i b ∧ ¬ g.checksumMatches := by
  have hheader := f.header.property
  have hsize := Bytes.length_ofWord f.bodySize
  have hj : i - 15 < f.body.length := by
    rw [bytes_eq, List.length_append, List.length_append] at hi
    omega
  have hb' : f.body[i - 15]? ≠ some b := by
    rw [bytes_eq, List.getElem?_append_right (by omega), List.getElem?_append_right (by omega), hheader, hsize,
      Nat.sub_sub] at hb
    exact hb
  have hl : (f.body.set (i - 15) b).length = f.body.length := List.length_set
  obtain ⟨g, hg, hgheader, hgsize, hbody⟩ := hf.exists_body hl
  refine ⟨g, hg, hgheader, ?_, not_checksumMatches hm (by rw [hbody, hl]) hj hb' hbody⟩
  rw [bytes_set f h15, bytes_eq, hgheader, hgsize, hbody]

end Frame

open PimSync.Wire.Frame in
/-- A message with an altered byte behind the size word is received, and its checksum tells. -/
theorem altered_byte_is_received_and_told (tag : MessageTag) (o : Origin) {content : Bytes}
    (h : content.length ≤ contentLimit) :
    ∃ f, (Frame.new tag o).fill content = .ok f ∧ f.checksumMatches ∧
      f.checksum.toNat = ((tag.bytes.val ++ content).map UInt8.toNat).sum % 65536 ∧
      (∀ (source : Source) (more : Bytes), source.Steady → source.bytes = f.bytes ++ more →
        source.read.result = .ok (.message f)) ∧
      ∀ (i : Nat) (b : UInt8), 15 ≤ i → i < f.bytes.length → f.bytes[i]? ≠ some b →
        ∃ g : Frame, g.bytes = f.bytes.set i b ∧ g.wireLength = f.wireLength ∧ g.header = f.header ∧
          ¬ g.checksumMatches ∧ ∀ (source : Source) (more : Bytes), source.Steady →
            source.bytes = f.bytes.set i b ++ more → source.read.result = .ok (.message g) := by
  obtain ⟨f, hfill, hw⟩ := fill_new tag o h
  have hf := hw.complete h
  have ha := Packet.absent_of_filledWith hw
  refine ⟨f, hfill, hw.checksumMatches, ?_, fun source more hs hb => ?_, fun i b h15 hi hb => ?_⟩
  · rw [hw.checksum_eq, toNat_checksum]
  · exact (Source.read_readable (p := .message f) hs ⟨ha, hf⟩ hb).1
  · obtain ⟨g, hg, hheader, hbytes, hn⟩ := exists_altered hf hw.checksumMatches h15 hi hb
    have hlength : g.wireLength = f.wireLength := by
      rw [← length_bytes, hbytes, List.length_set, length_bytes]
    refine ⟨g, hbytes, hlength, hheader, hn, fun source more hs hb => ?_⟩
    rw [← hbytes] at hb
    exact (Source.read_readable (p := .message g) hs ⟨by rwa [hheader], hg⟩ hb).1

theorem altered_byte_is_received_and_told_last : ∃ f g : Frame,
    (Frame.new (.ascii 'R' 'S' 'S') .desktop).fill [6] = .ok f ∧ f.bytes[20]? ≠ some 7 ∧ g.bytes = f.bytes.set 20 7 ∧
      ¬ g.checksumMatches ∧
      (Source.read [.data (g.bytes.take 9), .interrupted, .data (g.bytes.drop 9)]).result = .ok (.message g) := by
  obtain ⟨f, hfill, -, -, -, haltered⟩ := altered_byte_is_received_and_told (.ascii 'R' 'S' 'S') .desktop
    (show ([6] : Bytes).length ≤ Frame.contentLimit by decide)
  have hf : f = ⟨Origin.desktop.header.setLength 1, .ascii 'R' 'S' 'S', some [6], 0xfe⟩ :=
    Except.ok.inj (hfill.symm.trans rfl)
  have hb : f.bytes[20]? ≠ some 7 := by
    rw [hf]
    decide
  obtain ⟨g, hbytes, -, -, hn, hread⟩ := haltered 20 7 (by decide) (by rw [hf]; decide) hb
  refine ⟨f, g, hfill, hb, hbytes, hn, hread _ [] ?_ ?_⟩
  · simp [Source.Steady]
  · simp [Source.bytes, Delivery.bytes, hbytes]

end PimSync.Wire
