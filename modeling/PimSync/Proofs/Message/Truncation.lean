import PimSync.Proofs.Message.Canonical
import PimSync.Proofs.Wire.Shortage

namespace PimSync

open Wire Schema Layout

lemma Category.prompt_layout (tag : MessageTag) : (Category.layout tag).Prompt := prompt_byte.refine _ _

lemma ClockTime.prompt_layout : ClockTime.layout.Prompt := (prompt_block 14).refine _ _

lemma Flags.prompt_layout : Flags.layout.Prompt := prompt_byte.map _ _

lemma ItemKey.prompt_layout : ItemKey.layout.Prompt := ((Category.prompt_layout _).pair prompt_long).map _ _

lemma Deletion.prompt_layout : Deletion.layout.Prompt := ((Category.prompt_layout _).pair (prompt_longs _)).map _ _

lemma IdList.prompt_layout : IdList.layout.Prompt := (prompt_byte.pair (prompt_longs _)).map _ _

lemma IdLists.prompt_layout : IdLists.layout.Prompt :=
  (IdList.prompt_layout.pair (IdList.prompt_layout.pair IdList.prompt_layout)).map _ _

lemma DeviceInfo.prompt_layout : DeviceInfo.layout.Prompt :=
  ((prompt_blob _).pair ((prompt_block 2).pair prompt_byte)).map _ _

namespace Schema

lemma FormatEntry.prompt_layout : FormatEntry.layout.Prompt :=
  ((prompt_block 4).pair (prompt_byte.pair (prompt_blob _))).map _ _

lemma prompt_formatLayout : formatLayout.Prompt := FormatEntry.prompt_layout.records _

lemma prompt_valuesLayout : valuesLayout.Prompt := (prompt_blob _).records _

end Schema

lemma WriteTarget.prompt_reader? {code : UInt8} {read : Reader WriteTarget} (hc : reader? code = some read) :
    read.Prompt := by
  simp only [reader?] at hc
  split at hc
  · cases hc
    exact .pure _
  · cases hc
    exact Reader.prompt_long.map _
  · cases hc
    exact Reader.prompt_long.bind fun _ => Reader.prompt_word.map _
  · cases hc

lemma ItemWrite.prompt_layout : ItemWrite.layout.Prompt := by
  apply Reader.prompt_byte.bind
  intro code
  -- the code decides how the target is read, so a part that has it is read the same way
  cases hc : WriteTarget.reader? code with
  | none =>
    simp only [hc]
    exact .fail _
  | some target =>
    simp only [hc]
    exact Reader.Prompt.bind (Category.prompt_layout tag) fun _ => (WriteTarget.prompt_reader? hc).bind fun _ =>
      Reader.Prompt.map prompt_valuesLayout _

lemma MessageType.prompt_layout (t : MessageType) : t.layout.Prompt := by
  cases t with
  | authRequest | path => exact prompt_blob _
  | setTime | time => exact ClockTime.prompt_layout
  | stateRequest | formatRequest | idsRequest | syncDone => exact Category.prompt_layout _
  | setState | state => exact Flags.prompt_layout
  | itemRequest => exact ItemKey.prompt_layout
  | deleteItems => exact Deletion.prompt_layout
  | itemWrite => exact ItemWrite.prompt_layout
  | info => exact DeviceInfo.prompt_layout
  | format => exact prompt_formatLayout
  | ids => exact IdLists.prompt_layout
  | item => exact prompt_valuesLayout
  | itemWritten => exact prompt_long
  | _ => exact prompt_empty

namespace Message

variable {tag : MessageTag} {content : Bytes} {m : Message}

lemma reads_of_decode (h : decode tag content = .ok m) : m.type.layout.read.Reads content m.payload := by
  obtain ⟨-, hf, rfl⟩ := of_decode h
  rcases m.type.lawful_layout m.payload with hc | ⟨⟨what, n, hf'⟩, -⟩
  · exact hc.reads
  · cases hf.symm.trans hf'

lemma decode_of_lacks {t : MessageType} {part : Bytes} (ht : MessageType.ofTag? tag = some t)
    (h : t.layout.read.Lacks part) : ∃ needed available, decode tag part = .error (.truncated needed available) := by
  obtain ⟨needed, available, rest, h⟩ := h.bind fun payload => do Reader.finish tag; return payload
  refine ⟨needed, available, ?_⟩
  simp only [decode, ht, Layout.decode, Reader.run, h, Except.map]

lemma decode_beyond {t : MessageType} {payload : t.Payload} {more : Bytes} (ht : MessageType.ofTag? tag = some t)
    (h : t.layout.read.Reads content payload) (hm : more ≠ []) :
    decode tag (content ++ more) = .error (.trailing tag more.length) := by
  have hrest : ¬ more.isEmpty := by simpa using hm
  have hread : (do let a ← t.layout.read; Reader.finish tag; return a : Reader t.Payload) (content ++ more) =
      (.error (.trailing tag more.length), more) := by
    rw [Reader.bind_of_ok (h more)]
    exact Reader.bind_of_error (if_neg hrest) _
  simp only [decode, ht, Layout.decode, Reader.run, hread, Except.map]

/-- Payloads are prefix-free, and too short is told from too long. -/
theorem decode_prefix_free (h : decode tag content = .ok m) :
    (∀ part, part <+: content → part ≠ content →
      ∃ needed available, decode tag part = .error (.truncated needed available)) ∧
    ∀ more, more ≠ [] → decode tag (content ++ more) = .error (.trailing tag more.length) := by
  obtain ⟨ht, -⟩ := of_decode h
  have hreads := reads_of_decode h
  refine ⟨?_, fun more => decode_beyond ht hreads⟩
  rintro part ⟨missing, rfl⟩ hpart
  have hmissing : missing ≠ [] := by
    rintro rfl
    exact hpart (List.append_nil _).symm
  have hwhole := hreads []
  rw [List.append_nil] at hwhole
  exact decode_of_lacks ht (Reader.Prompt.lacks m.type.prompt_layout hwhole hmissing)

theorem decode_prefix_free_flagged :
    let content : Bytes := [3, 1, 9, 0, 0, 0, 2, 1, 2, 0, 1, 0, 0x41, 1, 0, 0x42]
    decode ItemWrite.tag content = .ok ⟨.itemWrite, ⟨.calendar, .flagged 9 0x0102, [[0x41], [0x42]]⟩⟩ ∧
      (∃ needed available, decode ItemWrite.tag (content.take 14) = .error (.truncated needed available)) ∧
      decode ItemWrite.tag (content ++ [0]) = .error (.trailing ItemWrite.tag 1) := by
  intro content
  have h : decode ItemWrite.tag content = .ok ⟨.itemWrite, ⟨.calendar, .flagged 9 0x0102, [[0x41], [0x42]]⟩⟩ := by decide
  obtain ⟨hcut, hmore⟩ := decode_prefix_free h
  exact ⟨h, hcut _ (List.take_prefix 14 content) (by decide), hmore [0] (by decide)⟩

end Message

end PimSync
