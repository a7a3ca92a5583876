import PimSync.Proofs.Wire.Inversion
import PimSync.Proofs.Wire.Layouts

/-! Exact layouts write a value as the very bytes it was read from. -/

namespace PimSync.Wire

namespace Reader

variable {α β : Type} {n : Nat}

def Typed (read : Reader α) : Prop := ∀ bytes tag, (read bytes).1 ≠ .error (.unknownType tag)

lemma Typed.pure (a : α) : Typed (Pure.pure a : Reader α) := fun _ _ h => nomatch h

lemma Typed.fail {e : CodingError} (he : ∀ tag, e ≠ .unknownType tag) : Typed (fail e : Reader α) :=
  fun _ tag h => he tag (Except.error.inj h)

lemma Typed.bind {read : Reader α} {k : α → Reader β} (hr : Typed read) (hk : ∀ a, Typed (k a)) :
    Typed (read >>= k) := by
  intro bytes tag
  change (Reader.bind read k bytes).1 ≠ _
  rw [Reader.bind]
  rcases hb : read bytes with ⟨e | a, rest⟩
  · intro he
    apply hr bytes tag
    rw [hb, Except.error.inj he]
  · exact hk a rest tag

lemma Typed.map {read : Reader α} (hr : Typed read) (f : α → β) : Typed (do return f (← read)) :=
  hr.bind fun a => .pure (f a)

lemma typed_block (n : Nat) : Typed (block n) := by
  intro bytes tag
  rw [block]
  cases bytes.split? n <;> simp

lemma typed_byte : Typed byte := (typed_block 1).map _

lemma typed_word : Typed word := (typed_block 2).map _

lemma typed_long : Typed long := (typed_block 4).map _

lemma typed_slice (n : Nat) : Typed (slice n) := (typed_block n).map _

lemma typed_blob : Typed blob := typed_word.bind fun _ => typed_slice _

lemma typed_ensure (n : Nat) : Typed (ensure n) := by
  intro bytes tag
  rw [ensure]
  split <;> simp

lemma typed_reserve (what : String) (size : Bytes → Nat) : Typed (reserve what size) := by
  intro bytes tag
  simp only [reserve, Wire.reserve]
  split <;> simp

lemma typed_ofExcept {check : Except CodingError α} (h : ∀ tag, check ≠ .error (.unknownType tag)) :
    Typed (ofExcept check) := by
  cases check with
  | ok a => exact .pure a
  | error e => exact .fail fun tag he => h tag (congrArg Except.error he)

lemma typed_finish (tag : MessageTag) : Typed (finish tag) := by
  intro bytes tag'
  rw [finish]
  split <;> simp

lemma Typed.times {read : Reader α} (hr : Typed read) (n : Nat) : Typed (read.times n) := by
  suffices hs : ∀ found, Typed (times.go read n found) from hs []
  induction n with
  | zero => exact fun found => .pure found.reverse
  | succ n ih => exact fun found => hr.bind fun a => ih (a :: found)

end Reader

namespace Layout

open Reader

variable {α β : Type}

structure Exact (l : Layout α) : Prop where
  writes : ∀ {bytes a rest}, l.read bytes = (.ok a, rest) →
    (l.write a).fault? = none ∧ bytes = (l.write a).bytes ++ rest
  typed : l.read.Typed

lemma exact_empty : empty.Exact where
  writes h := ⟨rfl, (pure_eq_ok.mp h).2.symm⟩
  typed := .pure ()

lemma exact_byte : byte.Exact where
  writes h := ⟨rfl, byte_eq_ok.mp h⟩
  typed := typed_byte

lemma exact_long : long.Exact where
  writes h := ⟨rfl, long_eq_ok.mp h⟩
  typed := typed_long

lemma exact_block (n : Nat) : (block n).Exact where
  writes h := ⟨rfl, block_eq_ok.mp h⟩
  typed := typed_block n

lemma count_toNat (what : String) (w : UInt16) : Output.count what w.toNat = .word w := by
  have hw := w.toNat_lt
  rw [Output.count_of_le what (by simp only [Output.countLimit]; omega), UInt16.ofNat_toNat]

lemma exact_blob (what : String) : (blob what).Exact where
  writes {bytes part rest} h := by
    obtain ⟨w, hl, rfl⟩ := blob_eq_ok.mp h
    simp only [blob, Output.blob, hl, count_toNat]
    refine ⟨rfl, ?_⟩
    rw [Output.append_bytes rfl]
    simp [Output.word]
  typed := typed_blob

lemma Exact.pair {first : Layout α} {second : Layout β} (hf : first.Exact) (hs : second.Exact) :
    (first.pair second).Exact where
  writes {bytes v rest} h := by
    obtain ⟨a, mid, ha, hm⟩ := bind_eq_ok.mp h
    obtain ⟨b, hb, rfl⟩ := map_eq_ok.mp hm
    obtain ⟨fa, rfl⟩ := hf.writes ha
    obtain ⟨fb, rfl⟩ := hs.writes hb
    refine ⟨?_, ?_⟩
    · simp [Layout.pair, fa, fb]
    · simp [Layout.pair, Output.append_bytes fa]
  typed := hf.typed.bind fun a => hs.typed.map (a, ·)

lemma Exact.refine {l : Layout α} (hl : l.Exact) {view : β → α} {check : α → Except CodingError β}
    (hc : ∀ {a b}, check a = .ok b → view b = a) (ht : ∀ a tag, check a ≠ .error (.unknownType tag)) :
    (l.refine view check).Exact where
  writes {bytes b rest} h := by
    obtain ⟨a, mid, ha, hm⟩ := bind_eq_ok.mp h
    obtain ⟨hb, rfl⟩ := ofExcept_eq_ok.mp hm
    change (l.write (view b)).fault? = none ∧ bytes = (l.write (view b)).bytes ++ rest
    rw [hc hb]
    exact hl.writes ha
  typed := hl.typed.bind fun a => typed_ofExcept (ht a)

lemma Exact.map {l : Layout α} (hl : l.Exact) {view : β → α} {make : α → β} (hv : ∀ a, view (make a) = a) :
    (l.map view make).Exact := by
  apply hl.refine
  · intro a b hb
    obtain rfl := Except.ok.inj hb
    exact hv a
  · exact fun a tag h => nomatch h

lemma exact_longs (what : String) : (longs what).Exact where
  writes {bytes ids rest} h := by
    rw [read_longs] at h
    obtain ⟨w, mid, hw, h⟩ := bind_eq_ok.mp h
    obtain ⟨u, mid', he, h⟩ := bind_eq_ok.mp h
    obtain ⟨v, mid'', hr, ht⟩ := bind_eq_ok.mp h
    obtain rfl := (ensure_eq_ok.mp he).2
    obtain rfl := reserve_eq_ok hr
    obtain ⟨hn, -, rfl⟩ := times_eq_ok (P := fun _ => True) (fun h => ⟨trivial, long_eq_ok.mp h⟩) ht
    simp only [longs, hn, count_toNat, all_long]
    refine ⟨rfl, ?_⟩
    rw [word_eq_ok.mp hw, Output.append_bytes rfl]
    simp [Output.word]
  typed := typed_word.bind fun _ => (typed_ensure _).bind fun _ => (typed_reserve what _).bind fun _ =>
    typed_long.times _

lemma Exact.records {l : Layout α} (hl : l.Exact) (what : String) : (records what l).Exact where
  writes {bytes as rest} h := by
    rw [read_records] at h
    obtain ⟨w, mid, hw, h⟩ := bind_eq_ok.mp h
    obtain ⟨u, mid', hu, ht⟩ := bind_eq_ok.mp h
    obtain rfl := reserve_eq_ok hu
    obtain ⟨hn, hf, rfl⟩ := times_eq_ok hl.writes ht
    simp only [Layout.records, hn, count_toNat, all_write hf]
    refine ⟨rfl, ?_⟩
    rw [word_eq_ok.mp hw, Output.append_bytes rfl]
    simp [Output.word]
  typed := typed_word.bind fun _ => (typed_reserve what _).bind fun _ => hl.typed.times _

end Layout

end PimSync.Wire
