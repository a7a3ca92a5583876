import Mathlib.Data.List.Forall2
import Mathlib.Data.List.SplitBy
import PimSync.Proofs.Log.Dumps
import PimSync.Proofs.Talk.Journals
import PimSync.Proofs.Text.Plain

/-! An entry is a line that begins with the mark of its direction, and then lines that begin with blanks. -/

namespace PimSync

open Wire Log Text

namespace Bytes

variable {width fuel : Nat} {bytes chunk : Bytes}

lemma length_le_of_mem_chunks_go (h : chunk ∈ chunks.go width fuel bytes) : chunk.length ≤ width := by
  induction fuel generalizing bytes with
  | zero => cases h
  | succ fuel ih =>
    cases bytes with
    | nil => cases h
    | cons b bs =>
      rcases List.mem_cons.mp h with rfl | h
      · rw [List.length_take]
        exact Nat.min_le_left _ _
      · exact ih h

lemma length_chunks_go (hw : 0 < width) (hf : bytes.length ≤ fuel) :
    (chunks.go width fuel bytes).length = (bytes.length + (width - 1)) / width := by
  induction fuel generalizing bytes with
  | zero =>
    rw [List.eq_nil_of_length_eq_zero (Nat.le_zero.mp hf)]
    exact (Nat.div_eq_of_lt (by simp only [List.length_nil]; omega)).symm
  | succ fuel ih =>
    cases bytes with
    | nil => exact (Nat.div_eq_of_lt (by simp only [List.length_nil]; omega)).symm
    | cons b bs =>
      have hdrop : ((b :: bs).drop width).length = (b :: bs).length - width := List.length_drop
      have hpos : 0 < (b :: bs).length := Nat.succ_pos _
      rw [chunks.go, List.length_cons, ih (by omega), hdrop]
      -- The last chunk may be shorter than the others.
      rcases Nat.lt_or_ge (b :: bs).length width with hlt | hge
      · rw [Nat.div_eq_of_lt (by omega)]
        exact (Nat.div_eq_of_lt_le (by omega) (by omega)).symm
      · rw [← Nat.add_div_right _ hw]
        congr 1
        omega

lemma length_chunks (hw : 0 < width) (bytes : Bytes) :
    (bytes.chunks width).length = (bytes.length + (width - 1)) / width :=
  length_chunks_go hw le_rfl

end Bytes

namespace Log

namespace Entry

variable {e e' : Entry} {as bs : Bytes} {offset : Nat}

lemma length_row_of_le (hl : as.length ≤ 16) :
    (row offset as).toList.length = (hex 4 offset).toList.length + as.length + 54 := by
  obtain ⟨shown, hshown, has⟩ := toList_row offset as
  have hblanks : ("  ".toList).length = 2 := rfl
  simp only [has, String.toList_append, List.length_append, List.length_cons, List.length_nil, List.length_replicate,
    length_hexPairs, hshown, hblanks]
  omega

lemma row_inj (ha : as.length ≤ 16) (hb : bs.length ≤ 16) (h : row offset as = row offset bs) : as = bs := by
  have hlength := congrArg (fun text => text.toList.length) h
  rw [length_row_of_le ha, length_row_of_le hb] at hlength
  exact (row_append_inj (s := []) (t := []) (by omega) (by rw [h])).1

def line (offset : Nat) (bytes : Bytes) : String :=
  let pairs := " ".intercalate (bytes.map fun b => String.ofList (hexPair b))
  let shown := String.ofList (bytes.map fun b => if isGraphic b then graphic b else '.')
  "  " ++ hex 4 offset ++ "  " ++ padRight ' ' 47 pairs ++ "  " ++ shown

lemma row_eq (offset : Nat) (bytes : Bytes) : row offset bytes = line offset bytes ++ "\n" := rfl

def lines (e : Entry) : List String := e.header :: (e.bytes.chunks 16).mapIdx fun i bytes => line (16 * i) bytes

lemma text_eq (e : Entry) : e.text = String.join (e.lines.map (· ++ "\n")) := by
  simp only [text, lines, List.map_cons, String.join_cons, List.mapIdx_eq_zipIdx_map, List.map_map, row_eq]
  rfl

lemma mark_prefix (e : Entry) : e.direction.mark.toList <+: e.header.toList := by
  simp only [header, toString, String.toList_append, List.append_assoc]
  exact List.prefix_append _ _

lemma line_indented (offset : Nat) (bytes : Bytes) : "  ".toList <+: (line offset bytes).toList := by
  simp only [line, String.toList_append, List.append_assoc]
  exact List.prefix_append _ _

lemma direction_inj (h : e.header = e'.header) : e.direction = e'.direction := by
  have hmarks : e.direction.mark.toList = e'.direction.mark.toList :=
    (List.prefix_of_prefix_length_le e.mark_prefix (h ▸ e'.mark_prefix)
      (by cases e.direction <;> cases e'.direction <;> decide)).eq_of_length
        (by cases e.direction <;> cases e'.direction <;> decide)
  revert hmarks
  cases e.direction <;> cases e'.direction <;> decide

lemma lines_inj (h : e.lines = e'.lines) : e.direction = e'.direction ∧ e.bytes = e'.bytes := by
  obtain ⟨hheader, hrows⟩ := List.cons.inj h
  refine ⟨direction_inj hheader, ?_⟩
  have hcount : (e.bytes.chunks 16).length = (e'.bytes.chunks 16).length := by
    simpa only [List.length_mapIdx] using congrArg List.length hrows
  have hchunks : e.bytes.chunks 16 = e'.bytes.chunks 16 := by
    refine List.ext_getElem hcount fun i hi hi' => ?_
    have hline : line (16 * i) (e.bytes.chunks 16)[i] = line (16 * i) (e'.bytes.chunks 16)[i] := by
      have hget := List.getElem_of_eq hrows (by rwa [List.length_mapIdx])
      rwa [List.getElem_mapIdx, List.getElem_mapIdx] at hget
    exact row_inj (Bytes.length_le_of_mem_chunks_go (List.getElem_mem hi))
      (Bytes.length_le_of_mem_chunks_go (List.getElem_mem hi')) (by rw [row_eq, row_eq, hline])
  have hflatten (bytes : Bytes) : (bytes.chunks 16).flatten = bytes := Bytes.flatten_chunks (by decide) bytes
  rw [← hflatten e.bytes, hchunks, hflatten]

lemma line_plain (offset : Nat) (bytes : Bytes) : Plain (line offset bytes) := by
  have hpairs : ∀ pair ∈ bytes.map fun b => String.ofList (hexPair b), Plain pair :=
    List.forall_mem_map.mpr fun b _ => plain_ofList (hexPair_printed b)
  have hshown : Plain (String.ofList (bytes.map fun b => if isGraphic b then graphic b else '.')) :=
    plain_ofList <| List.forall_mem_map.mpr fun b _ => by
      split
      · exact graphic_printed ‹_›
      · decide
  exact (((Plain.append (by decide) (plain_hex 4 offset)).append (by decide)).append
    (plain_padRight (by decide) 47 (plain_intercalate (by decide) hpairs))).append (by decide) |>.append hshown

lemma name_plain (tag : MessageTag) : Plain (MessageSpec.nameFor tag) := by
  have hnames : ∀ spec ∈ MessageSpec.registry, Plain spec.name := by decide
  unfold MessageSpec.nameFor
  cases h : MessageSpec.lookup? tag with
  | none => decide
  | some spec => exact hnames spec (List.mem_of_find?_eq_some h)

lemma frameLabel_plain (f : Frame) : Plain (frameLabel f) := by
  have htag : Plain f.tag.text := plain_ofList fun c hc => by
    obtain ⟨b, -, hc⟩ := List.mem_flatMap.mp hc
    exact escapeByte_printed b c hc
  have hverdict : Plain (if f.checksumMatches then "" else " MISMATCH") := by split <;> decide
  simp only [frameLabel]
  exact (((((((htag.append (by decide)).append (name_plain f.tag)).append (by decide)).append
    (plain_decimal _)).append (by decide)).append (plain_hex 4 _)).append hverdict)

lemma packetLabel_plain (p : Packet) : Plain (packetLabel p) := by
  cases p with
  | control c => cases c <;> decide
  | message f => exact frameLabel_plain f

lemma lines_plain (direction : Direction) (p : Packet) : ∀ line ∈ (ofPacket direction p).lines, Plain line := by
  refine List.forall_mem_cons.mpr ⟨?_, fun line hline => ?_⟩
  · have hmark : Plain direction.mark := by cases direction <;> decide
    exact (((hmark.append (by decide)).append (packetLabel_plain p)).append (by decide)).append
      (plain_decimal _) |>.append (by decide)
  · obtain ⟨i, hi, rfl⟩ := List.mem_mapIdx.mp hline
    exact line_plain _ _

end Entry

/-- The lines of one event: one that begins with the mark of its direction, and one for every sixteen bytes. -/
structure Stanza (direction : Direction) (bytes : Bytes) (lines : List String) : Prop where
  marked : ∃ header ∈ lines.head?, direction.mark.toList <+: header.toList
  indented : ∀ row ∈ lines.tail, "  ".toList <+: row.toList
  count : lines.tail.length = (bytes.length + 15) / 16

lemma stanza_lines (e : Entry) : Stanza e.direction e.bytes e.lines where
  marked := ⟨e.header, rfl, e.mark_prefix⟩
  indented row hrow := by
    obtain ⟨i, hi, rfl⟩ := List.mem_mapIdx.mp hrow
    exact Entry.line_indented _ _
  count := by
    rw [Entry.lines, List.tail_cons, List.length_mapIdx, Bytes.length_chunks (by decide)]

variable {entries entries' : List Entry}

lemma text_eq (entries : List Entry) : text entries = String.join ((entries.flatMap Entry.lines).map (· ++ "\n")) := by
  rw [text, ← String.toList_inj]
  simp only [String.toList_join, List.flatMap_map, List.map_flatMap, List.flatMap_assoc, Entry.text_eq]

lemma splitBy_lines (entries : List Entry) :
    (entries.flatMap Entry.lines).splitBy (fun _ line => line.toList.head? = some ' ') = entries.map Entry.lines := by
  have hheader (e : Entry) : e.header.toList.head? ≠ some ' ' := by
    obtain ⟨rest, hrest⟩ := e.mark_prefix
    rw [← hrest]
    cases e.direction <;> exact fun h => absurd (Option.some.inj h) (by decide)
  have hrows (e : Entry) : ∀ row ∈ e.lines.tail, row.toList.head? = some ' ' := by
    intro row hrow
    obtain ⟨rest, hrest⟩ := (stanza_lines e).indented row hrow
    rw [← hrest]
    rfl
  rw [List.flatMap_def]
  refine List.splitBy_flatten (by simp [Entry.lines]) (List.forall_mem_map.mpr fun e _ => ?_) ?_
  · refine List.Pairwise.isChain (List.pairwise_cons.mpr ⟨fun row hrow => ?_, ?_⟩)
    · exact decide_eq_true (hrows e row hrow)
    · exact List.pairwise_of_forall_mem_list fun _ _ row hrow => decide_eq_true (hrows e row hrow)
  · refine (List.isChain_map _).mpr (List.Pairwise.isChain ?_)
    exact List.pairwise_of_forall_mem_list fun e _ e' _ =>
      ⟨List.cons_ne_nil _ _, List.cons_ne_nil _ _, decide_eq_false (hheader e')⟩

lemma entries_inj (h : entries.map Entry.lines = entries'.map Entry.lines) :
    entries.map (fun e => (e.direction, e.bytes)) = entries'.map fun e => (e.direction, e.bytes) := by
  rw [← List.forall₂_eq_eq_eq, List.forall₂_map_left_iff, List.forall₂_map_right_iff] at h ⊢
  exact h.imp fun e e' h => Prod.ext (Entry.lines_inj h).1 (Entry.lines_inj h).2

def ofTraffic (traffic : List (Direction × Packet)) : List Entry :=
  traffic.map fun event => .ofPacket event.1 event.2

end Log

namespace Journal

def noteAll {τ : Type} (journal : Journal τ) (traffic : List (Direction × Packet)) (t : τ) : τ :=
  traffic.foldl (fun t event => journal.note event.1 event.2 t) t

lemma noteAll_eq {τ : Type} (journal : Journal τ) (traffic : List (Direction × Packet)) (t : τ) :
    journal.noteAll traffic t = journal.record (ofTraffic traffic) t := by
  rw [noteAll, record, ofTraffic, List.foldl_map]
  exact congrArg (fun step => traffic.foldl step t) (funext₂ fun t event => note_eq journal event.1 event.2 t)

end Journal

namespace Log

lemma lines_text (traffic : List (Direction × Packet)) :
    Text.lines (text (ofTraffic traffic)) = (ofTraffic traffic).flatMap Entry.lines := by
  rw [text_eq]
  refine lines_join fun line hline => ?_
  obtain ⟨e, he, hline⟩ := List.mem_flatMap.mp hline
  obtain ⟨event, -, rfl⟩ := List.mem_map.mp he
  exact Entry.lines_plain event.1 event.2 line hline

/-- The lines of a log fall into one stanza for each packet, and no other traffic makes the same text. -/
theorem text_tells_traffic (traffic : List (Direction × Packet)) (before : String) :
    ∃ appended, Journal.file.noteAll traffic before = before ++ appended ∧
      (∃ stanzas, Text.lines appended = stanzas.flatten ∧
        List.Forall₂ (fun event lines => Stanza event.1 event.2.bytes lines) traffic stanzas) ∧
      ∀ traffic' before', Journal.file.noteAll traffic' before' = before' ++ appended →
        traffic.map (fun event => (event.1, event.2.bytes)) = traffic'.map fun event => (event.1, event.2.bytes) := by
  refine ⟨text (ofTraffic traffic), ?_, ⟨(ofTraffic traffic).map Entry.lines, ?_, ?_⟩, fun _ _ h => ?_⟩
  · rw [Journal.noteAll_eq, Journal.record_file]
  · rw [lines_text, List.flatMap_def]
  · rw [ofTraffic, List.forall₂_map_right_iff, List.forall₂_map_right_iff, List.forall₂_same]
    exact fun event _ => stanza_lines (.ofPacket event.1 event.2)
  · rw [Journal.noteAll_eq, Journal.record_file, String.append_right_inj] at h
    have hlines := splitBy_lines (ofTraffic traffic)
    rw [← lines_text, ← h, lines_text, splitBy_lines] at hlines
    have hkeys (traffic : List (Direction × Packet)) : traffic.map (fun event => (event.1, event.2.bytes)) =
        (ofTraffic traffic).map fun e => (e.direction, e.bytes) := by
      rw [ofTraffic, List.map_map]
      rfl
    rw [hkeys, hkeys, entries_inj hlines.symm]

def forgingTag : MessageTag := ⟨⟨[0x0a, 0x3e, 0x3e], rfl⟩⟩

theorem text_tells_traffic_unfilled :
    ∃ appended, Journal.file.noteAll [(.received, .message (.new forgingTag .device))] "" = "" ++ appended ∧
      Journal.file.noteAll [(.received, .message (.received Origin.device.header forgingTag [] 0))] "" =
        "" ++ appended ∧
      (Frame.new forgingTag .device).bytes = (Frame.received Origin.device.header forgingTag [] 0).bytes := by
  obtain ⟨appended, happended, -, htells⟩ :=
    text_tells_traffic [(.received, .message (.new forgingTag .device))] ""
  have happended' : Journal.file.noteAll
      [(.received, .message (.received Origin.device.header forgingTag [] 0))] "" = "" ++ appended := happended
  have htraffic := htells _ _ happended'
  exact ⟨appended, happended, happended', congrArg Prod.snd (List.cons.inj htraffic).1⟩

end Log

end PimSync
