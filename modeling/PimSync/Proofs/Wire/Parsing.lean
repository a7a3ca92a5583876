import PimSync.Proofs.Wire.Shortage
import PimSync.Proofs.Wire.Streams

namespace PimSync.Wire

open Reader

namespace Frame

lemma prompt_readBody (header : Header) (size : UInt16) : (readBody header size).Prompt :=
  (prompt_block 3).bind fun _ => (prompt_slice _).bind fun _ => prompt_word.map _

lemma lacks_readBody (header : Header) {size : UInt16} {rest : Bytes} (h3 : 3 ≤ size.toNat)
    (hl : rest.length < size.toNat + 2) : (readBody header size).Lacks rest := by
  -- filled up to its full length, the body can be read to the end
  let missing : Bytes := List.replicate (size.toNat + 2 - rest.length) 0
  have hfull : (rest ++ missing).length = size.toNat + 2 := by
    simp only [missing, List.length_append, List.length_replicate]
    omega
  obtain ⟨f, left, hr⟩ := readBody_of_le header h3 (Nat.le_of_eq hfull.symm)
  obtain ⟨-, hf, hsize, hbytes⟩ := readBody_eq_ok h3 hr
  have hleft : left = [] := by
    have hlen := congrArg List.length hbytes
    rw [hfull, List.length_append, length_body, ← hsize, toNat_bodySize hf.length_le] at hlen
    exact List.eq_nil_of_length_eq_zero (by omega)
  rw [hleft] at hr
  refine (prompt_readBody header size).lacks hr fun hnone => ?_
  have hlen := congrArg List.length hnone
  simp only [missing, List.length_replicate, List.length_nil] at hlen
  omega

lemma reader_header (header : Header) (size : UInt16) (rest : Bytes) :
    reader (header.val ++ (Bytes.ofWord size ++ rest)) =
      if size < 3 then (.error (.bodyTooShort size), rest) else readBody header size rest := by
  have hheader := reads_block header (Bytes.ofWord size ++ rest)
  have hsize := reads_word size rest
  rw [reader, bind_of_ok hheader, bind_of_ok hsize]
  split
  · rfl
  · rfl

lemma lacks_reader {bytes : Bytes} (h : bytes.length < 15) : reader.Lacks bytes := by
  rcases Nat.lt_or_ge bytes.length 13 with h13 | h13
  · exact (lacks_block h13).bind _
  · have hheader : (bytes.take 13).length = 13 := List.length_take_of_le h13
    rw [← List.take_append_drop 13 bytes]
    refine lacks_bind (reads_block ⟨bytes.take 13, hheader⟩ _) (Lacks.bind ?_ _)
    exact (lacks_block (by rw [List.length_drop]; omega)).bind _

end Frame

namespace Packet

def announced (bytes : Bytes) : Nat :=
  if bytes.length < 7 then 7
  else if bytes.length < 15 then 15
  else 17 + (Bytes.toWord ((bytes.drop 13).take 2)).toNat

lemma announced_header {header : Header} (size : UInt16) (rest : Bytes) :
    announced (header.val ++ (Bytes.ofWord size ++ rest)) = 17 + size.toNat := by
  have hlen : (header.val ++ (Bytes.ofWord size ++ rest)).length = 15 + rest.length := by
    simp only [List.length_append, header.property, Bytes.length_ofWord]
    omega
  rw [announced, if_neg (by omega), if_neg (by omega), List.drop_left' header.property,
    List.take_left' (Bytes.length_ofWord size), Bytes.toWord_ofWord]

inductive Parsed (bytes : Bytes) : Scan → Except CodingError Frame → Prop
  | message {f : Frame} (hf : f.Complete) (rest : Bytes) : Parsed bytes (.packet (.message f) rest) (.ok f)
  | tooShort (size : UInt16) (rest : Bytes) : Parsed bytes (.tooShort size rest) (.error (.bodyTooShort size))
  | lacking (needed available : Nat) : Parsed bytes (.needs (announced bytes)) (.error (.truncated needed available))

lemma parsed_of_lacks {bytes : Bytes} {total : Nat} (h : Frame.reader.Lacks bytes) (ht : total = announced bytes) :
    Parsed bytes (.needs total) (Frame.parse bytes) := by
  obtain ⟨needed, available, rest, h⟩ := h
  rw [Frame.parse, run, h, ht]
  exact .lacking needed available

lemma parsed_of_front {bytes : Bytes} {x : Scan} (h : Front bytes x) (ha : Control.Absent bytes) :
    Parsed bytes x (Frame.parse bytes) := by
  cases h with
  | start h7 => exact parsed_of_lacks (Frame.lacks_reader (by omega)) (by rw [announced, if_pos h7])
  | control c rest => exact absurd (List.prefix_append _ _) (ha c)
  | head h7 h15 _ =>
    exact parsed_of_lacks (Frame.lacks_reader h15) (by rw [announced, if_neg (by omega), if_pos h15])
  | short _ h3 rest =>
    rw [Frame.parse, run, Frame.reader_header, if_pos h3]
    exact .tooShort _ rest
  | @body header _ size h3 rest hl =>
    obtain ⟨needed, available, left, hlacks⟩ := Frame.lacks_readBody header (three_le h3) hl
    refine parsed_of_lacks ⟨needed, available, left, ?_⟩ (announced_header size rest).symm
    rw [Frame.reader_header, if_neg h3, hlacks]
  | message _ hf rest =>
    rw [Frame.parse, run, hf.reads rest]
    exact .message hf rest

end Packet

namespace Source

open Packet

/-- A link is read as a buffer is parsed. -/
theorem read_agrees_with_parse {source : Source} (hs : source.Steady) (ha : Control.Absent source.bytes) :
    (∀ f, source.read.result = .ok (.message f) ↔ Frame.parse source.bytes = .ok f) ∧
    (∀ size, source.read.result = .error (.coding (.bodyTooShort size)) ↔
      Frame.parse source.bytes = .error (.bodyTooShort size)) ∧
    ((∀ f, Frame.parse source.bytes ≠ .ok f) → (∀ size, Frame.parse source.bytes ≠ .error (.bodyTooShort size)) →
      (∃ needed available, Frame.parse source.bytes = .error (.truncated needed available)) ∧
      source.read.result = .error (.link (if source.bytes = [] then .closed
        else .cutOff source.bytes.length (announced source.bytes)))) ∧
    ∀ f, Frame.parse source.bytes = .ok f → f.bodySize.toNat = 3 + f.content.length := by
  have hparsed := parsed_of_front (front_scan source.bytes) ha
  rw [(of_read hs).result, next]
  generalize scan source.bytes = x, Frame.parse source.bytes = parsed at hparsed ⊢
  cases hparsed with
  | @message f hf rest =>
    refine ⟨fun g => by simp, fun size => by simp, fun hnone => absurd rfl (hnone f), ?_⟩
    rintro g ⟨⟩
    exact Frame.toNat_bodySize hf.length_le
  | tooShort size rest =>
    refine ⟨fun g => by simp, fun size' => by simp, fun _ hnone => absurd rfl (hnone size), ?_⟩
    rintro g ⟨⟩
  | lacking needed available =>
    refine ⟨fun g => by simp, fun size => by simp, fun _ _ => ⟨⟨needed, available, rfl⟩, ?_⟩, ?_⟩
    · simp only [ended, List.length_eq_zero_iff]
    · rintro g ⟨⟩

theorem read_agrees_with_parse_cut :
    let source : Source := [.data Origin.device.header.val, .interrupted, .data [5, 0, 0x41, 0x45, 0x58]]
    source.Steady ∧ Control.Absent source.bytes ∧ Frame.parse source.bytes = .error (.truncated 2 0) ∧
      source.read.result = .error (.link (.cutOff 18 22)) := by
  intro source
  have hs : source.Steady := by simp [Steady, source]
  have ha : Control.Absent source.bytes := by
    intro c
    cases c <;> decide
  have hparse : Frame.parse source.bytes = .error (.truncated 2 0) := by rfl
  obtain ⟨-, -, hcut, -⟩ := read_agrees_with_parse hs ha
  rw [hparse] at hcut
  exact ⟨hs, ha, hparse, (hcut (by simp) (by simp)).2⟩

end Source

end PimSync.Wire
