import PimSync.Proofs.Wire.Inversion

/-! What is read of some bytes is not read differently of a part of them, unless the part is too short. -/

namespace PimSync.Wire

namespace Reader

variable {α β : Type} {n : Nat}

def Lacks (read : Reader α) (bytes : Bytes) : Prop :=
  ∃ needed available rest, read bytes = (.error (.truncated needed available), rest)

lemma Lacks.bind {read : Reader α} {bytes : Bytes} (h : read.Lacks bytes) (k : α → Reader β) :
    Lacks (read >>= k) bytes := by
  obtain ⟨needed, available, rest, h⟩ := h
  exact ⟨needed, available, rest, bind_of_error h k⟩

lemma lacks_bind {read : Reader α} {k : α → Reader β} {bytes rest : Bytes} {a : α} (hr : read bytes = (.ok a, rest))
    (hk : (k a).Lacks rest) : Lacks (read >>= k) bytes := by
  obtain ⟨needed, available, left, hk⟩ := hk
  exact ⟨needed, available, left, (bind_of_ok hr k).trans hk⟩

lemma lacks_block {bytes : Bytes} (h : bytes.length < n) : Lacks (block n) bytes :=
  ⟨n, bytes.length, bytes, by rw [block, Bytes.split?_eq_none.mpr h]⟩

def Prompt (read : Reader α) : Prop := ∀ bytes more rest a, read (bytes ++ more) = (.ok a, rest) →
  (∃ left, rest = left ++ more ∧ read bytes = (.ok a, left)) ∨ read.Lacks bytes

lemma Prompt.pure (a : α) : Prompt (Pure.pure a : Reader α) := by
  intro bytes more rest b h
  obtain ⟨rfl, rfl⟩ := pure_eq_ok.mp h
  exact .inl ⟨bytes, rfl, rfl⟩

lemma Prompt.fail (e : CodingError) : Prompt (fail e : Reader α) := fun _ _ _ _ h => nomatch h

lemma Prompt.bind {read : Reader α} {k : α → Reader β} (hr : Prompt read) (hk : ∀ a, Prompt (k a)) :
    Prompt (read >>= k) := by
  intro bytes more rest b h
  obtain ⟨a, mid, ha, hb⟩ := bind_eq_ok.mp h
  rcases hr _ _ _ _ ha with ⟨left, rfl, hleft⟩ | hlacks
  · rcases hk a _ _ _ _ hb with ⟨left', rfl, hleft'⟩ | hlacks
    · exact .inl ⟨left', rfl, bind_eq_ok.mpr ⟨a, left, hleft, hleft'⟩⟩
    · exact .inr (lacks_bind hleft hlacks)
  · exact .inr (hlacks.bind k)

lemma Prompt.map {read : Reader α} (hr : Prompt read) (f : α → β) : Prompt (do return f (← read)) :=
  hr.bind fun a => .pure (f a)

lemma prompt_block (n : Nat) : Prompt (block n) := by
  intro bytes more rest b h
  rcases Nat.lt_or_ge bytes.length n with hl | hl
  · exact .inr (lacks_block hl)
  · obtain ⟨left, hbytes, rfl⟩ : ∃ left, bytes = b.val ++ left ∧ rest = left ++ more := by
      have heq := block_eq_ok.mp h
      have hhead : (b.val ++ rest).take n = b.val := List.take_left' b.property
      have htail : (b.val ++ rest).drop n = rest := List.drop_left' b.property
      rw [← heq, List.take_append_of_le_length hl] at hhead
      rw [← heq, List.drop_append_of_le_length hl] at htail
      exact ⟨bytes.drop n, by rw [← hhead, List.take_append_drop], htail.symm⟩
    exact .inl ⟨left, rfl, block_eq_ok.mpr hbytes⟩

lemma prompt_byte : Prompt byte := (prompt_block 1).map _

lemma prompt_word : Prompt word := (prompt_block 2).map _

lemma prompt_long : Prompt long := (prompt_block 4).map _

lemma prompt_slice (n : Nat) : Prompt (slice n) := (prompt_block n).map _

lemma prompt_blob : Prompt blob := prompt_word.bind fun _ => prompt_slice _

lemma prompt_ofExcept (check : Except CodingError α) : Prompt (ofExcept check) := by
  cases check with
  | ok a => exact .pure a
  | error e => exact .fail e

lemma prompt_ensure (n : Nat) : Prompt (ensure n) := by
  intro bytes more rest u h
  obtain ⟨-, rfl⟩ := ensure_eq_ok.mp h
  rcases Nat.lt_or_ge bytes.length n with hl | hl
  · exact .inr ⟨n, bytes.length, bytes, by rw [ensure, if_pos hl]⟩
  · exact .inl ⟨bytes, rfl, ensure_eq_ok.mpr ⟨hl, rfl⟩⟩

lemma prompt_reserve (what : String) {size : Bytes → Nat} (hs : ∀ bytes more, size bytes ≤ size (bytes ++ more)) :
    Prompt (reserve what size) := by
  intro bytes more rest u h
  obtain rfl := reserve_eq_ok h
  have hroom : size (bytes ++ more) < memoryLimit := by
    by_contra hfull
    simp [reserve, Wire.reserve, hfull] at h
  have hpart : size bytes < memoryLimit := Nat.lt_of_le_of_lt (hs bytes more) hroom
  exact .inl ⟨bytes, rfl, by simp [reserve, Wire.reserve, hpart]⟩

lemma Prompt.times {read : Reader α} (hr : Prompt read) (n : Nat) : Prompt (read.times n) := by
  suffices hs : ∀ found, Prompt (times.go read n found) from hs []
  induction n with
  | zero => exact fun found => .pure found.reverse
  | succ n ih => exact fun found => hr.bind fun a => ih (a :: found)

lemma Prompt.lacks {read : Reader α} (hr : Prompt read) {bytes more : Bytes} {a : α}
    (h : read (bytes ++ more) = (.ok a, [])) (hm : more ≠ []) : read.Lacks bytes := by
  refine (hr bytes more [] a h).resolve_left ?_
  rintro ⟨left, hrest, -⟩
  exact hm (List.append_eq_nil_iff.mp hrest.symm).2

end Reader

namespace Layout

variable {α β : Type}

def Prompt (l : Layout α) : Prop := l.read.Prompt

lemma prompt_empty : empty.Prompt := .pure ()

lemma prompt_byte : byte.Prompt := Reader.prompt_byte

lemma prompt_long : long.Prompt := Reader.prompt_long

lemma prompt_block (n : Nat) : (block n).Prompt := Reader.prompt_block n

lemma prompt_blob (what : String) : (blob what).Prompt := Reader.prompt_blob

lemma Prompt.pair {first : Layout α} {second : Layout β} (hf : first.Prompt) (hs : second.Prompt) :
    (first.pair second).Prompt :=
  Reader.Prompt.bind hf fun a => Reader.Prompt.map hs (a, ·)

lemma Prompt.refine {l : Layout α} (hl : l.Prompt) (view : β → α) (check : α → Except CodingError β) :
    (l.refine view check).Prompt :=
  Reader.Prompt.bind hl fun a => Reader.prompt_ofExcept (check a)

lemma Prompt.map {l : Layout α} (hl : l.Prompt) (view : β → α) (make : α → β) : (l.map view make).Prompt :=
  hl.refine view _

lemma prompt_longs (what : String) : (longs what).Prompt :=
  Reader.prompt_word.bind fun _ => (Reader.prompt_ensure _).bind fun _ =>
    (Reader.prompt_reserve what fun _ _ => Nat.le_refl _).bind fun _ => Reader.prompt_long.times _

lemma room_le_append (count : Nat) (bytes more : Bytes) : room count bytes ≤ room count (bytes ++ more) := by
  simp only [room, List.length_append]
  omega

lemma Prompt.records {l : Layout α} (hl : l.Prompt) (what : String) : (records what l).Prompt :=
  Reader.prompt_word.bind fun _ => (Reader.prompt_reserve what (room_le_append _)).bind fun _ =>
    Reader.Prompt.times hl _

end Layout

end PimSync.Wire
