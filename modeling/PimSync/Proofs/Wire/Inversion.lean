import PimSync.Proofs.Wire.Reading

/-! What a read that gave a value must have found in front of it, for each way of reading. -/

namespace PimSync.Wire.Reader

variable {α β : Type} {bytes rest : Bytes} {n : Nat}

lemma bind_eq_ok {read : Reader α} {k : α → Reader β} {b : β} : (read >>= k) bytes = (.ok b, rest) ↔
    ∃ a mid, read bytes = (.ok a, mid) ∧ k a mid = (.ok b, rest) := by
  change Reader.bind read k bytes = _ ↔ _
  rw [Reader.bind]
  rcases read bytes with ⟨e | a, mid⟩
  · simp
  · simp only [Prod.mk.injEq, Except.ok.injEq]
    constructor
    · intro h
      exact ⟨a, mid, ⟨rfl, rfl⟩, h⟩
    · rintro ⟨a', mid', ⟨rfl, rfl⟩, h⟩
      exact h

lemma pure_eq_ok {a b : α} : (Pure.pure a : Reader α) bytes = (.ok b, rest) ↔ b = a ∧ rest = bytes := by
  change (Except.ok a, bytes) = _ ↔ _
  simp [eq_comm]

lemma block_eq_ok {b : Block n} : block n bytes = (.ok b, rest) ↔ bytes = b.val ++ rest := by
  rw [← Bytes.split?_eq_some, block]
  cases bytes.split? n <;> simp [Prod.ext_iff]

lemma map_eq_ok {read : Reader α} {f : α → β} {b : β} : (do return f (← read) : Reader β) bytes = (.ok b, rest) ↔
    ∃ a, read bytes = (.ok a, rest) ∧ f a = b := by
  simp only [bind_eq_ok, pure_eq_ok]
  constructor
  · rintro ⟨a, mid, ha, rfl, rfl⟩
    exact ⟨a, ha, rfl⟩
  · rintro ⟨a, ha, rfl⟩
    exact ⟨a, rest, ha, rfl, rfl⟩

lemma byte_eq_ok {b : UInt8} : byte bytes = (.ok b, rest) ↔ bytes = [b] ++ rest := by
  constructor
  · intro h
    obtain ⟨x, hx, rfl⟩ := map_eq_ok.mp h
    rw [Bytes.ofByte_toByte x.property]
    exact block_eq_ok.mp hx
  · rintro rfl
    exact reads_byte b rest

lemma word_eq_ok {w : UInt16} : word bytes = (.ok w, rest) ↔ bytes = Bytes.ofWord w ++ rest := by
  constructor
  · intro h
    obtain ⟨x, hx, rfl⟩ := map_eq_ok.mp h
    rw [Bytes.ofWord_toWord x.property]
    exact block_eq_ok.mp hx
  · rintro rfl
    exact reads_word w rest

lemma long_eq_ok {w : UInt32} : long bytes = (.ok w, rest) ↔ bytes = Bytes.ofLong w ++ rest := by
  constructor
  · intro h
    obtain ⟨x, hx, rfl⟩ := map_eq_ok.mp h
    rw [Bytes.ofLong_toLong x.property]
    exact block_eq_ok.mp hx
  · rintro rfl
    exact reads_long w rest

lemma slice_eq_ok {part : Bytes} : slice n bytes = (.ok part, rest) ↔ part.length = n ∧ bytes = part ++ rest := by
  constructor
  · intro h
    obtain ⟨x, hx, rfl⟩ := map_eq_ok.mp h
    exact ⟨x.property, block_eq_ok.mp hx⟩
  · rintro ⟨rfl, rfl⟩
    exact reads_slice part rest

lemma blob_eq_ok {part : Bytes} : blob bytes = (.ok part, rest) ↔
    ∃ w : UInt16, part.length = w.toNat ∧ bytes = Bytes.ofWord w ++ (part ++ rest) := by
  simp only [blob, bind_eq_ok, word_eq_ok, slice_eq_ok]
  constructor
  · rintro ⟨w, mid, rfl, hl, rfl⟩
    exact ⟨w, hl, rfl⟩
  · rintro ⟨w, hl, rfl⟩
    exact ⟨w, _, rfl, hl, rfl⟩

lemma ensure_eq_ok {u : Unit} : ensure n bytes = (.ok u, rest) ↔ n ≤ bytes.length ∧ rest = bytes := by
  rw [ensure]
  split
  · rename_i hshort
    simp [Nat.not_le.mpr hshort]
  · rename_i hlong
    simp [Nat.not_lt.mp hlong, eq_comm]

lemma reserve_eq_ok {what : String} {size : Bytes → Nat} {u : Unit}
    (h : reserve what size bytes = (.ok u, rest)) : rest = bytes := (congrArg Prod.snd h).symm

lemma ofExcept_eq_ok {check : Except CodingError α} {a : α} :
    ofExcept check bytes = (.ok a, rest) ↔ check = .ok a ∧ rest = bytes := by
  cases check with
  | ok b => simp [ofExcept, pure, eq_comm]
  | error e => simp [ofExcept, fail]

lemma times_eq_ok {read : Reader α} {P : α → Prop} {write : α → Bytes} {as : List α}
    (hr : ∀ {bytes a rest}, read bytes = (.ok a, rest) → P a ∧ bytes = write a ++ rest)
    (h : read.times n bytes = (.ok as, rest)) :
    as.length = n ∧ (∀ a ∈ as, P a) ∧ bytes = as.flatMap write ++ rest := by
  -- the loop carries what it found so far in reverse, so the induction speaks of what it adds to that
  suffices hs : ∀ found, times.go read n found bytes = (.ok as, rest) →
      ∃ more, as = found.reverse ++ more ∧ more.length = n ∧ (∀ a ∈ more, P a) ∧
        bytes = more.flatMap write ++ rest by
    obtain ⟨more, rfl, hl, hp, hb⟩ := hs [] h
    exact ⟨hl, hp, hb⟩
  clear h
  induction n generalizing bytes with
  | zero =>
    intro found h
    cases h
    exact ⟨[], by simp, rfl, by simp, rfl⟩
  | succ n ih =>
    intro found h
    simp only [times.go] at h
    split at h
    · rename_i a mid ha
      obtain ⟨more, rfl, hl, hp, rfl⟩ := ih (a :: found) h
      obtain ⟨hpa, rfl⟩ := hr ha
      exact ⟨a :: more, by simp, by simp [hl], List.forall_mem_cons.mpr ⟨hpa, hp⟩, by simp⟩
    · cases h

end PimSync.Wire.Reader
