import PimSync.Proofs.Wire.Reading

/-! Lawful layouts write a value in the announced size and read it back, or refuse it as too long for its count
words. -/

namespace PimSync.Wire

namespace Output

@[simp] lemma append_fault? (a b : Output) : (a ++ b).fault? = a.fault?.or b.fault? := by
  change (append a b).fault? = _
  unfold append
  cases h : a.fault? <;> simp

lemma append_bytes {a b : Output} (h : a.fault? = none) : (a ++ b).bytes = a.bytes ++ b.bytes := by
  change (append a b).bytes = _
  simp [append, h]

@[simp] lemma slice_fault? (bytes : Bytes) : (slice bytes).fault? = none := rfl

@[simp] lemma slice_bytes (bytes : Bytes) : (slice bytes).bytes = bytes := rfl

lemma count_of_le {n : Nat} (what : String) (h : n ≤ countLimit) : count what n = word (UInt16.ofNat n) := by
  simp [count, h]

lemma count_of_lt {n : Nat} (what : String) (h : countLimit < n) :
    count what n = ⟨[], some (.tooLong what n countLimit)⟩ := by
  simp [count, Nat.not_le.mpr h]

lemma toExcept_eq_ok {out : Output} {bytes : Bytes} :
    out.toExcept = .ok bytes ↔ out.fault? = none ∧ out.bytes = bytes := by
  unfold toExcept
  cases h : out.fault? <;> simp

lemma all_cons {α : Type} (write : α → Output) (a : α) (as : List α) :
    all write (a :: as) = write a ++ all write as := rfl

end Output

namespace Layout

variable {α β : Type}

structure Carries (l : Layout α) (a : α) : Prop where
  unfaulted : (l.write a).fault? = none
  length_bytes : (l.write a).bytes.length = l.size a
  reads : l.read.Reads (l.write a).bytes a

structure Refuses (l : Layout α) (a : α) : Prop where
  fault : ∃ what n, (l.write a).fault? = some (.tooLong what n Output.countLimit)
  size_lt : Output.countLimit < l.size a

def Lawful (l : Layout α) : Prop := ∀ a, l.Carries a ∨ l.Refuses a

lemma lawful_empty : empty.Lawful := fun _ => .inl ⟨rfl, rfl, Reader.Reads.pure ()⟩

lemma lawful_byte : byte.Lawful := fun b => .inl ⟨rfl, rfl, Reader.reads_byte b⟩

lemma lawful_long : long.Lawful := fun w => .inl ⟨rfl, Bytes.length_ofLong w, Reader.reads_long w⟩

lemma lawful_block (n : Nat) : (block n).Lawful := fun b => .inl ⟨rfl, b.property, Reader.reads_block b⟩

lemma reads_count {n : Nat} (h : n ≤ Output.countLimit) :
    Reader.word.Reads (Bytes.ofWord (UInt16.ofNat n)) (UInt16.ofNat n) ∧ (UInt16.ofNat n).toNat = n := by
  refine ⟨Reader.reads_word _, ?_⟩
  simp only [Output.countLimit] at h
  simp
  omega

lemma lawful_blob (what : String) : (blob what).Lawful := by
  intro bytes
  rcases (Nat.lt_or_ge Output.countLimit bytes.length).symm with h | h
  · obtain ⟨hw, hn⟩ := reads_count h
    have hb := hw.bind (k := fun n => Reader.slice n.toNat) (y := bytes) (b := bytes)
      (by rw [hn]; exact Reader.reads_slice bytes)
    refine .inl ⟨?_, ?_, ?_⟩ <;>
      simp only [blob, Output.blob, Output.count_of_le what h, Output.append_fault?]
    · rfl
    · rw [Output.append_bytes rfl]
      simp [Output.word]
    · rw [Output.append_bytes rfl]
      exact hb
  · refine .inr ⟨⟨what, bytes.length, ?_⟩, ?_⟩
    · simp [blob, Output.blob, Output.count_of_lt what h]
    · simp only [blob]
      omega

lemma Lawful.pair {first : Layout α} {second : Layout β} (hf : first.Lawful) (hs : second.Lawful) :
    (first.pair second).Lawful := by
  rintro ⟨a, b⟩
  rcases hf a with ⟨fa, la, ra⟩ | ⟨⟨what, n, he⟩, hl⟩
  · rcases hs b with ⟨fb, lb, rb⟩ | ⟨⟨what, n, he⟩, hl⟩
    · refine .inl ⟨?_, ?_, ?_⟩ <;> simp only [Layout.pair, Output.append_bytes fa]
      · simp [fa, fb]
      · simp [la, lb]
      · exact ra.bind (rb.map fun b => (a, b))
    · refine .inr ⟨⟨what, n, ?_⟩, ?_⟩
      · simp [Layout.pair, fa, he]
      · simp only [Layout.pair]
        omega
  · refine .inr ⟨⟨what, n, ?_⟩, ?_⟩
    · simp [Layout.pair, he]
    · simp only [Layout.pair]
      omega

lemma Lawful.refine {l : Layout α} (hl : l.Lawful) {view : β → α} {check : α → Except CodingError β}
    (h : ∀ b, check (view b) = .ok b) : (l.refine view check).Lawful := by
  intro b
  rcases hl (view b) with ⟨hf, hn, hr⟩ | ⟨hf, hn⟩
  · have hc := hr.bind (k := fun a => Reader.ofExcept (check a)) (Reader.reads_ofExcept (h b))
    rw [List.append_nil] at hc
    exact .inl ⟨hf, hn, hc⟩
  · exact .inr ⟨hf, hn⟩

lemma Lawful.map {l : Layout α} (hl : l.Lawful) {view : β → α} {make : α → β}
    (h : ∀ b, make (view b) = b) : (l.map view make).Lawful :=
  hl.refine fun b => congrArg Except.ok (h b)

lemma all_long (ids : List UInt32) : Output.all .long ids = .slice (ids.flatMap Bytes.ofLong) := by
  induction ids with
  | nil => rfl
  | cons id ids ih =>
    rw [Output.all_cons, ih]
    rfl

lemma length_longs (ids : List UInt32) : (ids.flatMap Bytes.ofLong).length = 4 * ids.length := by
  induction ids with
  | nil => rfl
  | cons id ids ih =>
    simp only [List.flatMap_cons, List.length_append, Bytes.length_ofLong, ih, List.length_cons]
    omega

lemma read_longs (what : String) : (longs what).read = (do
    let count ← Reader.word
    Reader.ensure (4 * count.toNat)
    Reader.reserve what fun _ => count.toNat
    Reader.long.times count.toNat) := rfl

lemma lawful_longs (what : String) : (longs what).Lawful := by
  intro ids
  rcases (Nat.lt_or_ge Output.countLimit ids.length).symm with h | h
  · obtain ⟨hw, hn⟩ := reads_count h
    have hr : (Reader.reserve what fun _ => ids.length).Reads [] () :=
      Reader.reads_reserve what _ fun _ => by
        simp only [memoryLimit, Output.countLimit] at h ⊢
        omega
    have ht : (Reader.long.times ids.length).Reads (ids.flatMap Bytes.ofLong) ids :=
      Reader.reads_times ids fun id _ => Reader.reads_long id
    refine .inl ⟨?_, ?_, ?_⟩
    · simp only [longs, Output.count_of_le what h, all_long]
      rfl
    · simp only [longs, Output.count_of_le what h, all_long]
      rw [Output.append_bytes rfl]
      simp only [Output.word, Output.slice_bytes, List.length_append, Bytes.length_ofWord, length_longs]
    · rw [read_longs]
      simp only [longs, Output.count_of_le what h, all_long]
      rw [Output.append_bytes rfl]
      apply hw.bind
      rw [hn]
      exact (hr.bind ht).ensure (Nat.le_of_eq (length_longs ids).symm)
  · refine .inr ⟨⟨what, ids.length, ?_⟩, ?_⟩
    · simp [longs, Output.count_of_lt what h]
    · simp only [longs]
      omega

lemma all_write {l : Layout α} {as : List α} (h : ∀ a ∈ as, (l.write a).fault? = none) :
    Output.all l.write as = .slice (as.flatMap fun a => (l.write a).bytes) := by
  induction as with
  | nil => rfl
  | cons a as ih =>
    have ha := h a List.mem_cons_self
    rw [Output.all_cons, ih fun b hb => h b (List.mem_cons_of_mem a hb)]
    change Output.append _ _ = _
    simp [Output.append, ha, Output.slice]

lemma foldr_size (l : Layout α) (as : List α) :
    as.foldr (l.size · + ·) 2 = 2 + (as.map l.size).sum := by
  induction as with
  | nil => rfl
  | cons a as ih =>
    simp only [List.foldr_cons, ih, List.map_cons, List.sum_cons]
    omega

lemma length_records {l : Layout α} {as : List α} (h : ∀ a ∈ as, l.Carries a) :
    (as.flatMap fun a => (l.write a).bytes).length = (as.map l.size).sum := by
  induction as with
  | nil => rfl
  | cons a as ih =>
    simp [ih fun b hb => h b (List.mem_cons_of_mem a hb), (h a List.mem_cons_self).length_bytes]

lemma all_write_refused {l : Layout α} (hl : l.Lawful) {as : List α} (h : ¬ ∀ a ∈ as, l.Carries a) :
    (∃ what n, (Output.all l.write as).fault? = some (.tooLong what n Output.countLimit)) ∧
      Output.countLimit < (as.map l.size).sum := by
  induction as with
  | nil => simp at h
  | cons a as ih =>
    rcases hl a with ha | ⟨⟨what, n, hf⟩, hs⟩
    · have hr : ¬ ∀ b ∈ as, l.Carries b := fun hr => h (List.forall_mem_cons.mpr ⟨ha, hr⟩)
      obtain ⟨⟨what, n, hf⟩, hs⟩ := ih hr
      refine ⟨⟨what, n, ?_⟩, ?_⟩
      · simp [Output.all_cons, ha.unfaulted, hf]
      · simp only [List.map_cons, List.sum_cons]
        omega
    · refine ⟨⟨what, n, ?_⟩, ?_⟩
      · simp [Output.all_cons, hf]
      · simp only [List.map_cons, List.sum_cons]
        omega

lemma length_le_sum_size {l : Layout α} (hpos : ∀ a, 1 ≤ l.size a) (as : List α) :
    as.length ≤ (as.map l.size).sum := by
  induction as with
  | nil => simp
  | cons a as ih =>
    have := hpos a
    simp only [List.length_cons, List.map_cons, List.sum_cons]
    omega

lemma room_lt {n : Nat} (h : n ≤ Output.countLimit) (rest : Bytes) : room n rest < memoryLimit := by
  simp only [room, memoryLimit, Output.countLimit] at h ⊢
  omega

lemma read_records (what : String) (l : Layout α) : (records what l).read = (do
    let count ← Reader.word
    Reader.reserve what (room count.toNat)
    l.read.times count.toNat) := rfl

lemma Lawful.records {l : Layout α} (hl : l.Lawful) (hpos : ∀ a, 1 ≤ l.size a) (what : String) :
    (records what l).Lawful := by
  intro as
  have hlen := length_le_sum_size hpos as
  rcases (Nat.lt_or_ge Output.countLimit as.length).symm with h | h
  · by_cases hc : ∀ a ∈ as, l.Carries a
    · obtain ⟨hw, hn⟩ := reads_count h
      have hf : ∀ a ∈ as, (l.write a).fault? = none := fun a ha => (hc a ha).unfaulted
      refine .inl ⟨?_, ?_, ?_⟩
      · simp only [Layout.records, Output.count_of_le what h, all_write hf]
        rfl
      · simp only [Layout.records, Output.count_of_le what h, all_write hf]
        rw [Output.append_bytes rfl, foldr_size]
        simp [Output.word, length_records hc]
      · rw [read_records]
        simp only [Layout.records, Output.count_of_le what h, all_write hf]
        rw [Output.append_bytes rfl]
        apply hw.bind
        rw [hn]
        exact (Reader.reads_reserve what _ (room_lt h)).bind
          (Reader.reads_times as fun a ha => (hc a ha).reads)
    · obtain ⟨⟨what', n, hf⟩, hs⟩ := all_write_refused hl hc
      refine .inr ⟨⟨what', n, ?_⟩, ?_⟩
      · simp only [Layout.records, Output.count_of_le what h, Output.append_fault?, hf]
        rfl
      · simp only [Layout.records, foldr_size]
        omega
  · refine .inr ⟨⟨what, as.length, ?_⟩, ?_⟩
    · simp [Layout.records, Output.count_of_lt what h]
    · simp only [Layout.records, foldr_size]
      omega

end Layout

end PimSync.Wire
