import PimSync.Proofs.Wire.Packets
import PimSync.Wire.Sink
import PimSync.Wire.Source

namespace PimSync.Wire

open Packet (scan next)

namespace Packet

lemma next_eq_ok {bytes : Bytes} {p : Packet} : (next bytes).1 = .ok p ↔ p.Readable ∧ p.bytes <+: bytes := by
  have hscan : (next bytes).1 = .ok p ↔ ∃ rest, scan bytes = .packet p rest := by
    rw [next]
    cases scan bytes <;> simp
  simp only [hscan, scan_eq_packet, List.prefix_iff_exists_eq_append, exists_and_left]

lemma next_append {p : Packet} (hp : p.Readable) (rest : Bytes) : next (p.bytes ++ rest) = (.ok p, rest) := by
  rw [next, scan_eq_packet.mpr ⟨hp, rfl⟩]

lemma seven_le_length_bytes (p : Packet) : 7 ≤ p.bytes.length := by
  cases p with
  | control c => exact Nat.le_refl 7
  | message f =>
    simp only [bytes, Frame.length_bytes, Frame.wireLength]
    omega

lemma length_le_length_flatMap (ps : List Packet) : 7 * ps.length ≤ (ps.flatMap bytes).length := by
  induction ps with
  | nil => exact Nat.le_refl 0
  | cons p ps ih =>
    have := p.seven_le_length_bytes
    simp only [List.flatMap_cons, List.length_append, List.length_cons]
    omega

def Filled : Packet → Prop
  | control _ => True
  | message f => ∃ tag o content, (Frame.new tag o).fill content = .ok f

lemma Filled.readable {p : Packet} (hp : p.Filled) : p.Readable := by
  cases p with
  | control c => trivial
  | message f =>
    obtain ⟨tag, o, content, hf⟩ := hp
    rcases Nat.lt_or_ge Frame.contentLimit content.length with hl | hl
    · rw [Frame.fill_new_long tag o hl] at hf
      cases hf
    · obtain ⟨g, hg, hw⟩ := Frame.fill_new tag o hl
      obtain rfl : g = f := Except.ok.inj (hg.symm.trans hf)
      exact ⟨absent_of_filledWith hw, hw.complete hl⟩

/-- From these bytes a packet is found or refused in so many scans at most, when each is given all that the one before
it needs. -/
inductive Within : Nat → Bytes → Prop
  | packet {n got p} (h : scan got = .packet p []) : Within (n + 1) got
  | short {n got size} (h : scan got = .tooShort size []) : Within (n + 1) got
  | needs {n got total} (hl : got.length < total)
      (hpart : ∀ more : Bytes, got.length + more.length < total → scan (got ++ more) = .needs total)
      (hall : ∀ more : Bytes, got.length + more.length = total → Within n (got ++ more)) : Within (n + 1) got

lemma within_body {header : Header} (ha : Control.Absent header.val) (size : UInt16) :
    Within 2 (header.val ++ Bytes.ofWord size) := by
  by_cases h3 : size < 3
  · apply Within.short
    have hfront := Front.short ha h3 []
    rw [List.append_nil] at hfront
    exact scan_of_front hfront
  have hlen : (header.val ++ Bytes.ofWord size).length = 15 := by
    rw [List.length_append, header.property, Bytes.length_ofWord]
  apply @Within.needs _ _ (17 + size.toNat)
  · omega
  · intro more hl
    rw [List.append_assoc]
    exact scan_of_front (.body ha h3 (by omega))
  · intro more hl
    have hbody : size.toNat + 2 ≤ more.length := by omega
    obtain ⟨f, rest, hr⟩ := Frame.readBody_of_le header (three_le h3) hbody
    obtain ⟨rfl, hf, rfl, rfl⟩ := Frame.readBody_eq_ok (three_le h3) hr
    have hsize := Frame.toNat_bodySize hf.length_le
    simp only [List.length_append, Frame.length_body] at hl hlen
    obtain rfl : rest = [] := List.eq_nil_of_length_eq_zero (by omega)
    rw [List.append_assoc, ← Frame.bytes_append]
    exact .packet (scan_of_front (.message ha hf []))

lemma within_head {got : Bytes} (h7 : got.length = 7) : Within 3 got := by
  by_cases ha : Control.Absent got
  · apply @Within.needs _ _ 15
    · omega
    · intro more hl
      apply scan_of_front
      have hmore : Control.Absent (got ++ more) := (Control.absent_append (Nat.le_of_eq h7.symm)).mpr ha
      exact .head (by rw [List.length_append]; omega) (by rw [List.length_append]; omega) hmore
    · intro more hl
      have hmore : Control.Absent (got ++ more) := (Control.absent_append (Nat.le_of_eq h7.symm)).mpr ha
      have hlen : (got ++ more).length = 15 := by
        rw [List.length_append]
        omega
      generalize got ++ more = bytes at hmore hlen
      have hh : (bytes.take 13).length = 13 := List.length_take_of_le (by omega)
      have hs : (bytes.drop 13).length = 2 := by
        rw [List.length_drop, hlen]
      rw [← List.take_append_drop 13 bytes] at hmore ⊢
      have hbody := @within_body ⟨bytes.take 13, hh⟩
        ((Control.absent_append (by simp only [hh]; omega)).mp hmore) (Bytes.toWord (bytes.drop 13))
      rwa [Bytes.ofWord_toWord hs] at hbody
  · simp only [Control.Absent, not_forall, not_not, Control.prefix_iff] at ha
    obtain ⟨c, hc⟩ := ha
    rw [List.take_of_length_le (Nat.le_of_eq h7)] at hc
    exact .packet (p := .control c) (scan_eq_packet.mpr ⟨trivial, hc.trans (List.append_nil _).symm⟩)

lemma within_start : Within 4 [] := by
  apply @Within.needs _ _ 7
  · decide
  · intro more hl
    simp only [List.length_nil, Nat.zero_add] at hl
    exact scan_of_front (.start hl)
  · intro more hl
    simp only [List.length_nil, Nat.zero_add] at hl
    exact within_head hl

end Packet

def Delivery.bytes : Delivery → Bytes
  | .data bytes => bytes
  | _ => []

namespace Source

variable {source rest : Source} {ps : List Packet} {n : Nat}

def bytes (source : Source) : Bytes := source.flatMap Delivery.bytes

/-- The link hands over all its bytes: calls may be interrupted, none fails, and it ends after the last. -/
def Steady (source : Source) : Prop := ∀ d ∈ source, (∃ bytes, d = .data bytes) ∨ d = .interrupted

lemma gather_go_of_lt (hs : source.Steady) (pieces : List Bytes) {wanted : Nat} (hl : source.bytes.length < wanted) :
    gather.go pieces wanted source = ⟨pieces.reverse.flatten ++ source.bytes, some .ended, []⟩ := by
  induction source generalizing pieces wanted with
  | nil =>
    obtain ⟨wanted, rfl⟩ := Nat.exists_eq_add_one_of_ne_zero (Nat.ne_of_gt hl)
    simp [gather.go, bytes]
  | cons d source ih =>
    obtain ⟨wanted, rfl⟩ : ∃ w, wanted = w + 1 := ⟨wanted - 1, by omega⟩
    obtain ⟨hd, hrest⟩ := List.forall_mem_cons.mp hs
    rcases hd with ⟨part, rfl⟩ | rfl
    · have hbytes : bytes (.data part :: source) = part ++ bytes source := rfl
      rw [hbytes, List.length_append] at hl
      have htake : part.take (wanted + 1) = part := List.take_of_length_le (by omega)
      simp only [gather.go, htake, if_neg (show ¬ part.length = wanted + 1 by omega)]
      rw [ih hrest (part :: pieces) (by omega), hbytes]
      simp
    · exact ih hrest pieces hl

lemma gather_go_of_le (hs : source.Steady) (pieces : List Bytes) {wanted : Nat} (hl : wanted ≤ source.bytes.length) :
    ∃ rest, gather.go pieces wanted source = ⟨pieces.reverse.flatten ++ source.bytes.take wanted, none, rest⟩ ∧
      rest.Steady ∧ rest.bytes = source.bytes.drop wanted := by
  induction source generalizing pieces wanted with
  | nil =>
    obtain rfl : wanted = 0 := Nat.le_zero.mp hl
    exact ⟨[], by simp [gather.go], hs, rfl⟩
  | cons d source ih =>
    cases wanted with
    | zero => exact ⟨d :: source, by simp [gather.go], hs, rfl⟩
    | succ wanted =>
      obtain ⟨hd, hrest⟩ := List.forall_mem_cons.mp hs
      rcases hd with ⟨part, rfl⟩ | rfl
      · have hbytes : bytes (.data part :: source) = part ++ bytes source := rfl
        rw [hbytes] at hl ⊢
        rw [List.length_append] at hl
        by_cases hpart : wanted + 1 ≤ part.length
        · refine ⟨.data (part.drop (wanted + 1)) :: source, ?_, ?_, ?_⟩
          · simp [gather.go, hpart, List.take_append_of_le_length hpart]
          · exact List.forall_mem_cons.mpr ⟨.inl ⟨_, rfl⟩, hrest⟩
          · rw [List.drop_append_of_le_length hpart]
            rfl
        · have htake : part.take (wanted + 1) = part := List.take_of_length_le (by omega)
          have hleft : wanted + 1 - part.length ≤ (bytes source).length := by omega
          obtain ⟨rest, hgo, hafter⟩ := ih hrest (part :: pieces) hleft
          refine ⟨rest, ?_, hafter.1, ?_⟩
          · simp only [gather.go, htake, if_neg (show ¬ part.length = wanted + 1 by omega)]
            rw [hgo, List.take_append, htake]
            simp
          · rw [hafter.2, List.drop_append, List.drop_eq_nil_of_le (show part.length ≤ wanted + 1 by omega),
              List.nil_append]
      · exact ih hrest pieces hl

structure Reading.Of (r : Reading) (bytes : Bytes) : Prop where
  result : r.result = (next bytes).1
  bytes_rest : r.rest.bytes = (next bytes).2
  steady_rest : r.rest.Steady
  consumed : r.consumed + (next bytes).2.length = bytes.length

lemma of_readFrom {got : Bytes} (hw : Packet.Within n got) (hs : source.Steady) :
    (readFrom n got source).Of (got ++ source.bytes) := by
  induction hw generalizing source with
  | @packet n got p h =>
    obtain ⟨hp, hgot⟩ := Packet.scan_eq_packet.mp h
    rw [List.append_nil] at hgot
    have hnext := Packet.next_append hp source.bytes
    rw [← hgot] at hnext
    simp only [readFrom, h]
    exact ⟨by rw [hnext], by rw [hnext], hs, by rw [hnext, List.length_append]⟩
  | @short n got size h =>
    have hscan := Packet.scan_short_append h source.bytes
    simp only [readFrom, h]
    constructor
    · simp only [next, hscan]
    · simp only [next, hscan, List.nil_append]
    · exact hs
    · simp only [next, hscan, List.nil_append, List.length_append]
  | @needs n got total hl hpart hall ih =>
    have hscan := hpart [] (by simpa using hl)
    rw [List.append_nil] at hscan
    simp only [readFrom, hscan, gather]
    rcases Nat.lt_or_ge source.bytes.length (total - got.length) with hlt | hle
    · have hneeds := hpart source.bytes (by omega)
      simp only [gather_go_of_lt hs [] hlt, List.reverse_nil, List.flatten_nil, List.nil_append]
      constructor
      · simp only [next, hneeds]
      · simp only [next, hneeds]
        rfl
      · exact fun d hd => nomatch hd
      · simp only [next, hneeds, List.length_nil, Nat.add_zero]
    · obtain ⟨rest, hgo, hrest, hbytes⟩ := gather_go_of_le hs [] hle
      simp only [hgo, List.reverse_nil, List.flatten_nil, List.nil_append]
      have hlen : got.length + (source.bytes.take (total - got.length)).length = total := by
        rw [List.length_take_of_le hle]
        omega
      have hof := ih (source.bytes.take (total - got.length)) hlen hrest
      rwa [hbytes, List.append_assoc, List.take_append_drop] at hof

lemma of_read (hs : source.Steady) : source.read.Of source.bytes := of_readFrom Packet.within_start hs

lemma read_readable {p : Packet} {more : Bytes} (hs : source.Steady) (hp : p.Readable)
    (hb : source.bytes = p.bytes ++ more) :
    source.read.result = .ok p ∧ source.read.rest.bytes = more ∧ source.read.rest.Steady := by
  have hr := of_read hs
  have hnext := Packet.next_append hp more
  rw [← hb] at hnext
  exact ⟨by rw [hr.result, hnext], by rw [hr.bytes_rest, hnext], hr.steady_rest⟩

lemma of_read_eq_ok {p : Packet} (hs : source.Steady) (h : source.read.result = .ok p) :
    source.bytes = p.bytes ++ source.read.rest.bytes ∧ source.read.consumed = p.bytes.length := by
  have hr := of_read hs
  obtain ⟨hp, more, hb⟩ := Packet.next_eq_ok.mp (hr.result.symm.trans h)
  obtain ⟨-, hrest, -⟩ := read_readable hs hp hb.symm
  have hc := hr.consumed
  rw [← hr.bytes_rest, hrest, ← hb, List.length_append] at hc
  exact ⟨by rw [hrest, hb], by omega⟩

inductive Reads : Source → List Packet → Nat → Source → Prop
  | stop (source : Source) : Reads source [] 0 source
  | read {source p ps n rest} (h : source.read.result = .ok p) (hr : Reads source.read.rest ps n rest) :
      Reads source (p :: ps) (source.read.consumed + n) rest

lemma Reads.bytes_eq (hr : source.Reads ps n rest) (hs : source.Steady) :
    source.bytes = ps.flatMap Packet.bytes ++ rest.bytes ∧ n = (ps.flatMap Packet.bytes).length := by
  induction hr with
  | stop source => exact ⟨rfl, rfl⟩
  | @read source p ps n rest h hr ih =>
    obtain ⟨hb, hc⟩ := of_read_eq_ok hs h
    obtain ⟨hrest, hn⟩ := ih (of_read hs).steady_rest
    refine ⟨?_, ?_⟩
    · rw [hb, hrest, List.flatMap_cons, List.append_assoc]
    · rw [hc, hn, List.flatMap_cons, List.length_append]

lemma Reads.length_le (hr : source.Reads ps n rest) (hs : source.Steady) : ps.length ≤ source.bytes.length / 7 := by
  have hlen := congrArg List.length (hr.bytes_eq hs).1
  have := Packet.length_le_length_flatMap ps
  rw [List.length_append] at hlen
  omega

lemma exists_reads (hs : source.Steady) : ∃ ps n rest e, source.Reads ps n rest ∧ rest.read.result = .error e := by
  -- every packet read leaves less to read
  induction hl : source.bytes.length using Nat.strong_induction_on generalizing source with
  | h l ih =>
    cases h : source.read.result with
    | error e => exact ⟨[], 0, source, e, .stop source, h⟩
    | ok p =>
      obtain ⟨hb, -⟩ := of_read_eq_ok hs h
      have := p.seven_le_length_bytes
      have hlt : source.read.rest.bytes.length < l := by
        rw [← hl, hb, List.length_append]
        omega
      obtain ⟨ps, n, rest, e, hr, he⟩ := ih _ hlt (of_read hs).steady_rest rfl
      exact ⟨p :: ps, _, rest, e, .read h hr, he⟩

lemma reads_of_readable (hs : source.Steady) (hp : ∀ p ∈ ps, p.Readable)
    (hb : source.bytes = ps.flatMap Packet.bytes) :
    ∃ n rest, source.Reads ps n rest ∧ rest.read.result = .error (.link .closed) := by
  induction ps generalizing source with
  | nil =>
    refine ⟨0, source, .stop source, ?_⟩
    rw [(of_read hs).result, hb]
    rfl
  | cons p ps ih =>
    obtain ⟨hhead, htail⟩ := List.forall_mem_cons.mp hp
    obtain ⟨hok, hrest, hsteady⟩ := read_readable hs hhead hb
    obtain ⟨n, rest, hr, he⟩ := ih hsteady htail hrest
    exact ⟨_, rest, .read hok hr, he⟩

end Source

namespace Sink

variable {sink : Sink}

structure Willing (sink : Sink) : Prop where
  takes_some : Acceptance.takes 0 ∉ sink.calls
  room? : sink.room? = none
  flushFault? : sink.flushFault? = none

lemma bytes_take (sink : Sink) (piece : Bytes) : (sink.take piece).bytes = sink.bytes ++ piece := by
  simp [bytes, take]

lemma writeAll_go (hr : sink.room? = none) (hf : sink.flushFault? = none) {calls : List Acceptance}
    (hc : Acceptance.takes 0 ∉ calls) (offered : Bytes) :
    ∃ sink', writeAll.go calls sink offered = (.ok (), sink') ∧ sink'.Willing ∧
      sink'.bytes = sink.bytes ++ offered := by
  induction calls generalizing sink offered with
  | nil =>
    cases offered with
    | nil => exact ⟨{ sink with calls := [] }, rfl, ⟨hc, hr, hf⟩, (List.append_nil _).symm⟩
    | cons b bs =>
      refine ⟨{ sink.take (b :: bs) with calls := [] }, by simp [writeAll.go, piece, hr], ⟨hc, ?_, hf⟩, ?_⟩
      · simp [take, hr]
      · exact bytes_take sink (b :: bs)
  | cons call calls ih =>
    obtain ⟨hcall, hcalls⟩ : .takes 0 ≠ call ∧ Acceptance.takes 0 ∉ calls := by simpa using hc
    cases offered with
    | nil => exact ⟨{ sink with calls := call :: calls }, by simp [writeAll.go], ⟨hc, hr, hf⟩, (List.append_nil _).symm⟩
    | cons b bs =>
      cases call with
      | interrupted => exact ih hr hf hcalls (b :: bs)
      | takes most =>
        obtain ⟨most, rfl⟩ : ∃ m, most = m + 1 := ⟨most - 1, by cases most <;> simp_all⟩
        have hpiece : sink.piece ((b :: bs).take (most + 1)) = .ok (b :: bs.take most) := by simp [piece, hr]
        have hroom : (sink.take (b :: bs.take most)).room? = none := by simp [take, hr]
        obtain ⟨sink', hgo, hw, hb⟩ := ih hroom hf hcalls ((b :: bs).drop (b :: bs.take most).length)
        refine ⟨sink', ?_, hw, ?_⟩
        · simp only [writeAll.go, hpiece]
          exact hgo
        · rw [hb, bytes_take, List.append_assoc]
          congr 1
          exact List.prefix_iff_eq_append.mp (List.take_prefix (most + 1) (b :: bs))

lemma write_willing (hw : sink.Willing) (p : Packet) :
    ∃ sink', sink.write p = (.ok (), sink') ∧ sink'.Willing ∧ sink'.bytes = sink.bytes ++ p.bytes := by
  obtain ⟨sink', hgo, ⟨hc, hr, hf⟩, hb⟩ := writeAll_go hw.room? hw.flushFault? hw.takes_some p.bytes
  refine ⟨{ sink' with flushes := sink'.flushes + 1 }, ?_, ⟨hc, hr, hf⟩, hb⟩
  simp only [write, writeAll, hgo, flush, hf]

def writeEach (sink : Sink) : List Packet → Except LinkError Unit × Sink
  | [] => (.ok (), sink)
  | p :: ps =>
    match sink.write p with
    | (.ok (), sink) => sink.writeEach ps
    | (.error e, sink) => (.error e, sink)

lemma writeEach_willing (hw : sink.Willing) (ps : List Packet) :
    ∃ sink', sink.writeEach ps = (.ok (), sink') ∧ sink'.bytes = sink.bytes ++ ps.flatMap Packet.bytes := by
  induction ps generalizing sink with
  | nil => exact ⟨sink, rfl, (List.append_nil _).symm⟩
  | cons p ps ih =>
    obtain ⟨sink₁, h₁, hw₁, hb₁⟩ := write_willing hw p
    obtain ⟨sink₂, h₂, hb₂⟩ := ih hw₁
    refine ⟨sink₂, by simp only [writeEach, h₁, h₂], ?_⟩
    rw [hb₂, hb₁, List.flatMap_cons, List.append_assoc]

end Sink

open Source

/-- Packets that are written are read back, and what is read from any bytes is written as those bytes. -/
theorem stream_lossless :
    (∀ (ps : List Packet) (sink : Sink), (∀ p ∈ ps, p.Filled) → sink.Willing → sink.written = [] →
      ∃ sink', sink.writeEach ps = (.ok (), sink') ∧
        ∀ source : Source, source.Steady → source.bytes = sink'.bytes →
          ∃ n rest, source.Reads ps n rest ∧ rest.read.result = .error (.link .closed)) ∧
    ∀ source : Source, source.Steady →
      (∃ ps n rest e, source.Reads ps n rest ∧ rest.read.result = .error e) ∧
      ∀ ps n rest, source.Reads ps n rest →
        ps.length ≤ source.bytes.length / 7 ∧ n = (ps.flatMap Packet.bytes).length ∧
          source.bytes = ps.flatMap Packet.bytes ++ rest.bytes := by
  constructor
  · intro ps sink hp hw hfresh
    obtain ⟨sink', hwrite, hb⟩ := Sink.writeEach_willing hw ps
    have hempty : sink.bytes = [] := by simp [Sink.bytes, hfresh]
    rw [hempty, List.nil_append] at hb
    refine ⟨sink', hwrite, fun source hs hsame => ?_⟩
    exact reads_of_readable hs (fun p hmem => (hp p hmem).readable) (hsame.trans hb)
  · intro source hs
    refine ⟨exists_reads hs, fun ps n rest hr => ?_⟩
    obtain ⟨hb, hn⟩ := hr.bytes_eq hs
    exact ⟨hr.length_le hs, hn, hb⟩

theorem stream_lossless_pieces :
    ∃ f sink' n rest, (Frame.new (.ascii 'R' 'A' 'Y') .desktop).fill [] = .ok f ∧
      Sink.writeEach ⟨[.takes 3, .interrupted, .takes 9], none, none, none, [], 0⟩
        [.control .request, .message f] = (.ok (), sink') ∧
      Source.Reads [.data (sink'.bytes.take 5), .interrupted, .data (sink'.bytes.drop 5)]
        [.control .request, .message f] n rest ∧
      rest.read.result = .error (.link .closed) ∧ n = 27 := by
  obtain ⟨f, hf, hw⟩ := Frame.fill_new (.ascii 'R' 'A' 'Y') .desktop (show [].length ≤ Frame.contentLimit by decide)
  obtain ⟨hwrites, hreads⟩ := stream_lossless
  obtain ⟨sink', hwrite, hback⟩ := hwrites [.control .request, .message f]
    ⟨[.takes 3, .interrupted, .takes 9], none, none, none, [], 0⟩
    (by simpa [Packet.Filled] using ⟨_, _, _, hf⟩) ⟨by decide, rfl, rfl⟩ rfl
  have hs : Steady [.data (sink'.bytes.take 5), .interrupted, .data (sink'.bytes.drop 5)] := by simp [Steady]
  obtain ⟨n, rest, hr, he⟩ := hback _ hs (by simp [Source.bytes, Delivery.bytes])
  obtain ⟨-, hn, -⟩ := (hreads _ hs).2 _ _ _ hr
  refine ⟨f, sink', n, rest, hf, hwrite, hr, he, ?_⟩
  rw [hn]
  simp [Packet.bytes, Frame.wireLength, hw.content_eq, Control.frame, Control.lead]

end PimSync.Wire
