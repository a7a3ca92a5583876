import PimSync.Proofs.Wire.Streams

namespace PimSync.Wire

namespace Packet

inductive Takes (bytes : Bytes) : Except WireError Packet → Nat → Prop
  | control (c : Control) : Takes bytes (.ok (.control c)) 7
  | message (f : Frame) : Takes bytes (.ok (.message f)) f.wireLength
  | tooShort (size : UInt16) : Takes bytes (.error (.coding (.bodyTooShort size))) 15
  | closed (h : bytes = []) : Takes bytes (.error (.link .closed)) bytes.length
  | cutOff {expected : Nat} (h : 0 < bytes.length) (hl : bytes.length < expected) :
      Takes bytes (.error (.link (.cutOff bytes.length expected))) bytes.length

lemma takes_ended {bytes : Bytes} {total : Nat} (h : bytes.length < total) :
    Takes bytes (.error (.link (ended bytes.length total))) bytes.length := by
  rw [ended]
  split
  · rename_i hnone
    exact .closed (List.eq_nil_of_length_eq_zero hnone)
  · exact .cutOff (by omega) h

lemma Takes.message_eq {bytes : Bytes} {f : Frame} {n : Nat} (h : Takes bytes (.ok (.message f)) n) :
    n = f.wireLength := by
  cases h
  rfl

lemma takes_next (bytes : Bytes) : Takes bytes (next bytes).1 (bytes.length - (next bytes).2.length) := by
  have hfront := front_scan bytes
  rw [next]
  cases hs : scan bytes with
  | packet p rest =>
    obtain ⟨-, rfl⟩ := scan_eq_packet.mp hs
    have hlen : (p.bytes ++ rest).length - rest.length = p.bytes.length := by
      rw [List.length_append, Nat.add_sub_cancel]
    rw [hlen]
    cases p with
    | control c => exact .control c
    | message f =>
      rw [Packet.bytes, Frame.length_bytes]
      exact .message f
  | tooShort size rest =>
    rw [hs] at hfront
    obtain ⟨⟩ | ⟨⟩ | ⟨⟩ | @⟨header, ha, _, h3, _⟩ := hfront
    have hlen : (header.val ++ (Bytes.ofWord size ++ rest)).length - rest.length = 15 := by
      simp only [List.length_append, header.property, Bytes.length_ofWord]
      omega
    rw [hlen]
    exact .tooShort size
  | needs total =>
    rw [hs] at hfront
    apply takes_ended
    cases hfront with
    | start h7 => exact h7
    | head h7 h15 ha => exact h15
    | @body header ha size h3 rest hl =>
      simp only [List.length_append, header.property, Bytes.length_ofWord]
      omega

lemma next_suffix (bytes : Bytes) : (next bytes).2 <:+ bytes := by
  have hfront := front_scan bytes
  rw [next]
  cases hs : scan bytes with
  | packet p rest =>
    obtain ⟨-, rfl⟩ := scan_eq_packet.mp hs
    exact List.suffix_append _ _
  | tooShort size rest =>
    rw [hs] at hfront
    obtain ⟨⟩ | ⟨⟩ | ⟨⟩ | ⟨ha, h3, _⟩ := hfront
    rw [← List.append_assoc]
    exact List.suffix_append _ _
  | needs total => exact List.nil_suffix

end Packet

namespace Source

open Packet (next Takes)

variable {source tail : Source}

lemma gather_go_append {pieces : List Bytes} {wanted : Nat} (h : (gather.go pieces wanted source).stop? = none) :
    gather.go pieces wanted (source ++ tail) =
      { gather.go pieces wanted source with rest := (gather.go pieces wanted source).rest ++ tail } := by
  induction source generalizing pieces wanted with
  | nil =>
    cases wanted with
    | zero => simp only [gather.go, List.nil_append]
    | succ wanted => cases h
  | cons d source ih =>
    cases wanted with
    | zero => simp only [gather.go, List.cons_append]
    | succ wanted =>
      cases d with
      | ended => cases h
      | failed cause => cases h
      | interrupted => exact ih h
      | data part =>
        by_cases hpart : (part.take (wanted + 1)).length = wanted + 1
        · simp only [List.cons_append, gather.go, if_pos hpart]
        · simp only [gather.go, if_neg hpart] at h
          simp only [List.cons_append, gather.go, if_neg hpart]
          exact ih h

def Reading.Settled (r : Reading) : Prop := ∀ e, r.result ≠ .error (.link e)

lemma readFrom_append {n : Nat} {got : Bytes} (h : (readFrom n got source).Settled) :
    readFrom n got (source ++ tail) =
      { readFrom n got source with rest := (readFrom n got source).rest ++ tail } := by
  induction n generalizing got source with
  | zero => exact absurd rfl (h .closed)
  | succ n ih =>
    cases hs : Packet.scan got with
    | packet p rest => simp only [readFrom, hs]
    | tooShort size rest => simp only [readFrom, hs]
    | needs total =>
      simp only [readFrom, hs, gather] at h ⊢
      cases hstop : (gather.go [] (total - got.length) source).stop? with
      | some stop =>
        simp only [hstop] at h
        cases stop with
        | ended => exact absurd rfl (h _)
        | failed cause => exact absurd rfl (h _)
      | none =>
        simp only [hstop] at h
        simp only [gather_go_append hstop, hstop]
        exact ih h

lemma rest_eq_drop (hs : source.Steady) : source.read.rest.bytes = source.bytes.drop source.read.consumed := by
  have hr := of_read hs
  have hc := hr.consumed
  rw [hr.bytes_rest, List.suffix_iff_eq_drop.mp (Packet.next_suffix source.bytes)]
  congr 1
  omega

lemma takes_read (hs : source.Steady) : Takes source.bytes source.read.result source.read.consumed := by
  have hr := of_read hs
  have htakes := Packet.takes_next source.bytes
  have hc := hr.consumed
  rwa [← hr.result, show source.bytes.length - (next source.bytes).2.length = source.read.consumed by omega]
    at htakes

/-- What is read does not depend on the pieces in which it comes, and nothing is read ahead. -/
theorem read_regardless_of_pieces {source₁ source₂ : Source} (h₁ : source₁.Steady) (h₂ : source₂.Steady)
    (h : source₁.bytes = source₂.bytes) :
    source₁.read.result = source₂.read.result ∧ source₁.read.consumed = source₂.read.consumed ∧
      Takes source₁.bytes source₁.read.result source₁.read.consumed ∧
      source₁.read.rest.bytes = source₁.bytes.drop source₁.read.consumed ∧
      (∀ p, source₁.read.result = .ok p → source₁.bytes.take source₁.read.consumed = p.bytes) ∧
      ∀ tail : Source, source₁.read.Settled →
        (source₁ ++ tail).read = { source₁.read with rest := source₁.read.rest ++ tail } := by
  have hr₁ := of_read h₁
  have hr₂ := of_read h₂
  have hconsumed : source₁.read.consumed = source₂.read.consumed := by
    have hc₁ := hr₁.consumed
    have hc₂ := hr₂.consumed
    rw [h] at hc₁
    omega
  refine ⟨by rw [hr₁.result, hr₂.result, h], hconsumed, takes_read h₁, rest_eq_drop h₁, fun p hp => ?_,
    fun tail hsettled => readFrom_append hsettled⟩
  obtain ⟨hb, hlen⟩ := of_read_eq_ok h₁ hp
  rw [hb, hlen, List.take_left]

theorem read_regardless_of_pieces_bytewise :
    let f : Frame := .received Origin.device.header (.ascii 'A' 'E' 'X') [] 0x00de
    let whole : Source := [.data (f.bytes ++ [1])]
    let bytewise : Source := (f.bytes ++ [1]).flatMap fun b => [.interrupted, .data [b]]
    whole.Steady ∧ bytewise.Steady ∧ whole.bytes = bytewise.bytes ∧
      bytewise.read.result = .ok (.message f) ∧ bytewise.read.consumed = 20 ∧ whole.read.rest.bytes = [1] ∧
      (whole ++ [Delivery.failed "reset"]).read.result = .ok (.message f) := by
  intro f whole bytewise
  have hwhole : whole.Steady := List.forall_mem_singleton.mpr (.inl ⟨_, rfl⟩)
  have hbytewise : bytewise.Steady := by
    intro d hd
    obtain ⟨b, -, hb⟩ := List.mem_flatMap.mp hd
    obtain rfl | rfl : d = .interrupted ∨ d = .data [b] := by simpa using hb
    · exact .inr rfl
    · exact .inl ⟨_, rfl⟩
  have hbytes : whole.bytes = bytewise.bytes := by decide
  have hread : whole.read.result = .ok (.message f) := by decide
  obtain ⟨hresult, hconsumed, htakes, hrest, -, hlater⟩ := read_regardless_of_pieces hwhole hbytewise hbytes
  have htaken : whole.read.consumed = 20 := by
    rw [hread] at htakes
    exact htakes.message_eq
  refine ⟨hwhole, hbytewise, hbytes, hresult.symm.trans hread, hconsumed.symm.trans htaken, ?_, ?_⟩
  · rw [hrest, htaken]
    decide
  · rw [hlater _ fun e he => by cases hread.symm.trans he]
    exact hread

end Source

end PimSync.Wire
