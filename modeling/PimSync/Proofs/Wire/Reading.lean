import PimSync.Proofs.Bytes
import PimSync.Wire.Layout

namespace PimSync.Wire.Reader

variable {α β : Type}

lemma bind_of_ok {read : Reader α} {bytes rest : Bytes} {a : α} (h : read bytes = (.ok a, rest)) (k : α → Reader β) :
    (read >>= k) bytes = k a rest := by
  change Reader.bind read k bytes = _
  rw [Reader.bind, h]

lemma bind_of_error {read : Reader α} {bytes rest : Bytes} {e : CodingError} (h : read bytes = (.error e, rest))
    (k : α → Reader β) : (read >>= k) bytes = (.error e, rest) := by
  change Reader.bind read k bytes = _
  rw [Reader.bind, h]

/-- The read takes exactly these bytes and gives this value. -/
def Reads (read : Reader α) (bytes : Bytes) (a : α) : Prop :=
  ∀ rest, read (bytes ++ rest) = (.ok a, rest)

lemma Reads.pure (a : α) : Reads (Pure.pure a) [] a := fun _ => rfl

lemma Reads.bind {read : Reader α} {k : α → Reader β} {x y : Bytes} {a : α} {b : β}
    (hr : Reads read x a) (hk : Reads (k a) y b) : Reads (read >>= k) (x ++ y) b := by
  intro rest
  rw [List.append_assoc, bind_of_ok (hr _)]
  exact hk rest

lemma Reads.map {read : Reader α} {bs : Bytes} {a : α} (hr : Reads read bs a) (f : α → β) :
    Reads (do return f (← read)) bs (f a) := by
  simpa only [List.append_nil] using hr.bind (k := fun a => Pure.pure (f a)) (Reads.pure (f a))

lemma Reads.congr {read : Reader α} {bs : Bytes} {a b : α} (h : Reads read bs a) (hab : a = b) :
    Reads read bs b := hab ▸ h

lemma reads_block {n : Nat} (b : Block n) : Reads (block n) b.val b := by
  intro rest
  simp only [block, Bytes.split?_block]

lemma reads_slice (bytes : Bytes) : Reads (slice bytes.length) bytes bytes :=
  (reads_block ⟨bytes, rfl⟩).map Subtype.val

lemma reads_byte (b : UInt8) : Reads byte [b] b :=
  ((reads_block ⟨[b], rfl⟩).map fun x => x.val.toByte).congr (Bytes.toByte_singleton b)

lemma reads_word (w : UInt16) : Reads word (Bytes.ofWord w) w :=
  ((reads_block ⟨Bytes.ofWord w, Bytes.length_ofWord w⟩).map fun x => x.val.toWord).congr
    (Bytes.toWord_ofWord w)

lemma reads_long (w : UInt32) : Reads long (Bytes.ofLong w) w :=
  ((reads_block ⟨Bytes.ofLong w, Bytes.length_ofLong w⟩).map fun x => x.val.toLong).congr
    (Bytes.toLong_ofLong w)

lemma reads_reserve (what : String) (size : Bytes → Nat) (h : ∀ rest, size rest < memoryLimit) :
    Reads (reserve what size) [] () := by
  intro rest
  simp [reserve, Wire.reserve, h]

lemma Reads.ensure {n : Nat} {k : Unit → Reader β} {bytes : Bytes} {b : β} (hk : Reads (k ()) bytes b)
    (hn : n ≤ bytes.length) : Reads (Reader.ensure n >>= k) bytes b := by
  intro rest
  have hlong : ¬ (bytes ++ rest).length < n := by
    rw [List.length_append]
    omega
  rw [bind_of_ok (if_neg hlong)]
  exact hk rest

lemma reads_ofExcept {a : α} {check : Except CodingError α} (h : check = .ok a) :
    Reads (ofExcept check) [] a := h ▸ Reads.pure a

lemma reads_times {read : Reader α} {bytes : α → Bytes} (as : List α)
    (h : ∀ a ∈ as, Reads read (bytes a) a) : Reads (read.times as.length) (as.flatMap bytes) as := by
  suffices hs : ∀ found, Reads (times.go read as.length found) (as.flatMap bytes) (found.reverse ++ as) from hs []
  induction as with
  | nil => intro found rest; simp [times.go, Reader.pure]
  | cons a as ih =>
    intro found rest
    have ha := h a List.mem_cons_self (as.flatMap bytes ++ rest)
    have hs := ih (fun b hb => h b (List.mem_cons_of_mem a hb)) (a :: found) rest
    simp only [List.length_cons, List.flatMap_cons, List.append_assoc, times.go, ha, hs]
    simp

end PimSync.Wire.Reader
