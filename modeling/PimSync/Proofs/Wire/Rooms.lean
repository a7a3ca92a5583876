import Mathlib.Algebra.Order.BigOperators.Group.List
import Mathlib.Algebra.Order.Ring.Nat
import Mathlib.Algebra.Group.Action.Defs
import PimSync.Proofs.Wire.Exactness

/-! The room that lists ask for. No list asks for more elements than half the bytes that are there for it: longs are
all there before, and a record takes two bytes at least. -/

namespace PimSync.Wire

namespace Metered

variable {α β : Type} {bytes rest : Bytes} {n : Nat}

lemma rooms_bind_ok {read : Metered α} {a : α} (h : read.reader bytes = (.ok a, rest)) (next : α → Metered β) :
    (read >>= next).rooms bytes = read.rooms bytes ++ (next a).rooms rest := by
  change (Metered.bind read next).rooms bytes = _
  simp only [Metered.bind, h]

lemma rooms_bind_error {read : Metered α} {e : CodingError} (h : read.reader bytes = (.error e, rest))
    (next : α → Metered β) : (read >>= next).rooms bytes = read.rooms bytes := by
  change (Metered.bind read next).rooms bytes = _
  simp only [Metered.bind, h, List.append_nil]

lemma mem_rooms_bind {read : Metered α} {next : α → Metered β} (h : n ∈ (read >>= next).rooms bytes) :
    n ∈ read.rooms bytes ∨ ∃ a rest, read.reader bytes = (.ok a, rest) ∧ n ∈ (next a).rooms rest := by
  rcases hread : read.reader bytes with ⟨e | a, rest⟩
  · rw [rooms_bind_error hread] at h
    exact .inl h
  · rw [rooms_bind_ok hread, List.mem_append] at h
    exact h.imp id fun h => ⟨a, rest, rfl, h⟩

lemma mem_rooms_times {read : Metered α} {count : Nat} (h : n ∈ (read.times (count + 1)).rooms bytes) :
    n ∈ read.rooms bytes ∨ ∃ a rest, read.reader bytes = (.ok a, rest) ∧ n ∈ (read.times count).rooms rest := by
  simp only [times, times.go, List.mem_append] at h
  rcases h with h | h
  · exact .inl h
  · rcases hread : read.reader bytes with ⟨e | a, rest⟩
    · simp [hread] at h
    · simp only [hread] at h
      exact .inr ⟨a, rest, rfl, h⟩

lemma rooms_times_ofReader (read : Reader α) (count : Nat) (bytes : Bytes) :
    ((ofReader read).times count).rooms bytes = [] := by
  refine List.eq_nil_iff_forall_not_mem.mpr fun n hn => ?_
  induction count generalizing bytes with
  | zero => exact List.not_mem_nil hn
  | succ count ih =>
    rcases mem_rooms_times hn with h | ⟨a, rest, -, h⟩
    · exact List.not_mem_nil h
    · exact ih rest h

end Metered

namespace Layout

open Metered

variable {α β : Type} {bytes rest : Bytes} {w : UInt16} {n : Nat}

lemma exists_count (bytes : Bytes) :
    bytes.length < 2 ∨ ∃ (w : UInt16) (rest : Bytes), bytes = Bytes.ofWord w ++ rest := by
  rcases Nat.lt_or_ge bytes.length 2 with h | h
  · exact .inl h
  · have hhead : (bytes.take 2).length = 2 := by
      rw [List.length_take]
      omega
    exact .inr ⟨Bytes.toWord (bytes.take 2), bytes.drop 2, by rw [Bytes.ofWord_toWord hhead, List.take_append_drop]⟩

lemma word_of_lt (h : bytes.length < 2) : Reader.word bytes = (.error (.truncated 2 bytes.length), bytes) := by
  apply Reader.bind_of_error
  rw [Reader.block, Bytes.split?_eq_none.mpr h]

lemma exists_longs {part : Bytes} (h : part.length = 4 * n) :
    ∃ ids : List UInt32, ids.length = n ∧ ids.flatMap Bytes.ofLong = part := by
  induction n generalizing part with
  | zero =>
    obtain rfl := List.eq_nil_of_length_eq_zero h
    exact ⟨[], rfl, rfl⟩
  | succ n ih =>
    have hhead : (part.take 4).length = 4 := by
      rw [List.length_take]
      omega
    have htail : (part.drop 4).length = 4 * n := by
      rw [List.length_drop]
      omega
    obtain ⟨ids, hn, hids⟩ := ih htail
    refine ⟨Bytes.toLong (part.take 4) :: ids, by rw [List.length_cons, hn], ?_⟩
    rw [List.flatMap_cons, hids, Bytes.ofLong_toLong hhead, List.take_append_drop]

lemma times_long (h : 4 * n ≤ rest.length) :
    ∃ ids left, Reader.long.times n rest = (.ok ids, left) ∧ ids.length = n := by
  obtain ⟨ids, rfl, hids⟩ := exists_longs (List.length_take_of_le h)
  have hread := Reader.reads_times ids (fun id _ => Reader.reads_long id) (rest.drop (4 * ids.length))
  rw [hids, List.take_append_drop] at hread
  exact ⟨ids, _, hread, rfl⟩

lemma rooms_longs_short (what : String) (h : bytes.length < 2) : (longs what).metered.rooms bytes = [] :=
  rooms_bind_error (word_of_lt h) _

lemma longs_of_lt (what : String) (h : rest.length < 4 * w.toNat) :
    (longs what).metered.rooms (Bytes.ofWord w ++ rest) = [] ∧
      (longs what).read (Bytes.ofWord w ++ rest) = (.error (.truncated (4 * w.toNat) rest.length), rest) := by
  have hword := Reader.reads_word w rest
  have hensure : Reader.ensure (4 * w.toNat) rest = (.error (.truncated (4 * w.toNat) rest.length), rest) := if_pos h
  exact ⟨(rooms_bind_ok hword _).trans (rooms_bind_error hensure _),
    (Reader.bind_of_ok hword _).trans (Reader.bind_of_error hensure _)⟩

lemma longs_of_le (what : String) (h : 4 * w.toNat ≤ rest.length) :
    (longs what).metered.rooms (Bytes.ofWord w ++ rest) = [w.toNat] ∧
      ∃ ids left, (longs what).read (Bytes.ofWord w ++ rest) = (.ok ids, left) ∧ ids.length = w.toNat := by
  have hword := Reader.reads_word w rest
  have hensure : Reader.ensure (4 * w.toNat) rest = (.ok (), rest) := if_neg (Nat.not_lt.mpr h)
  have hroom : w.toNat < memoryLimit := Nat.lt_trans w.toNat_lt (by decide)
  have hreserve : Reader.reserve what (fun _ => w.toNat) rest = (.ok (), rest) :=
    Reader.reads_reserve what _ (fun _ => hroom) rest
  constructor
  · refine (rooms_bind_ok hword _).trans ((rooms_bind_ok hensure _).trans ((rooms_bind_ok hreserve _).trans ?_))
    rw [rooms_times_ofReader]
    rfl
  · obtain ⟨ids, left, hread, hids⟩ := times_long h
    refine ⟨ids, left, ?_, hids⟩
    rw [read_longs, Reader.bind_of_ok hword, Reader.bind_of_ok hensure, Reader.bind_of_ok hreserve, hread]

lemma rooms_records_short (what : String) (l : Layout α) (h : bytes.length < 2) :
    (records what l).metered.rooms bytes = [] :=
  rooms_bind_error (word_of_lt h) _

lemma rooms_records (what : String) (l : Layout α) (w : UInt16) (rest : Bytes) :
    (records what l).metered.rooms (Bytes.ofWord w ++ rest) =
      room w.toNat rest :: (l.metered.times w.toNat).rooms rest := by
  have hroom : room w.toNat rest < memoryLimit := room_lt (Nat.le_of_lt_succ w.toNat_lt) rest
  have hreserve : Reader.reserve what (room w.toNat) rest = (.ok (), rest) := by
    rw [Reader.reserve, Wire.reserve, if_pos hroom]
  exact (rooms_bind_ok (Reader.reads_word w rest) _).trans (rooms_bind_ok hreserve _)

/-- No list in what the layout reads asks for more elements than half the bytes that are there. -/
def Thrifty (l : Layout α) : Prop := ∀ bytes, ∀ n ∈ l.metered.rooms bytes, 2 * n ≤ bytes.length

lemma thrifty_byte : byte.Thrifty := fun _ _ h => absurd h List.not_mem_nil

lemma thrifty_block (n : Nat) : (block n).Thrifty := fun _ _ h => absurd h List.not_mem_nil

lemma thrifty_blob (what : String) : (blob what).Thrifty := fun _ _ h => absurd h List.not_mem_nil

lemma Exact.length_le {l : Layout α} (hl : l.Exact) {a : α} (h : l.read bytes = (.ok a, rest)) :
    rest.length ≤ bytes.length := by
  rw [(hl.writes h).2, List.length_append]
  exact Nat.le_add_left _ _

lemma Thrifty.pair {first : Layout α} {second : Layout β} (hf : first.Thrifty) (he : first.Exact)
    (hs : second.Thrifty) : (first.pair second).Thrifty := by
  intro bytes n h
  rcases mem_rooms_bind h with h | ⟨a, rest, ha, h⟩
  · exact hf bytes n h
  · have hle : rest.length ≤ bytes.length := he.length_le ha
    rcases mem_rooms_bind h with h | ⟨b, left, -, h⟩
    · exact Nat.le_trans (hs rest n h) hle
    · exact absurd h List.not_mem_nil

lemma Thrifty.map {l : Layout α} (hl : l.Thrifty) (view : β → α) (make : α → β) : (l.map view make).Thrifty := by
  intro bytes n h
  rcases mem_rooms_bind h with h | ⟨a, rest, -, h⟩
  · exact hl bytes n h
  · exact absurd h List.not_mem_nil

lemma Thrifty.times {l : Layout α} (hl : l.Thrifty) (he : l.Exact) {count : Nat}
    (h : n ∈ (l.metered.times count).rooms bytes) : 2 * n ≤ bytes.length := by
  induction count generalizing bytes with
  | zero => exact absurd h List.not_mem_nil
  | succ count ih =>
    rcases mem_rooms_times h with h | ⟨a, rest, ha, h⟩
    · exact hl bytes n h
    · exact Nat.le_trans (ih h) (he.length_le ha)

lemma thrifty_longs (what : String) : (longs what).Thrifty := by
  intro bytes n h
  rcases exists_count bytes with hshort | ⟨w, rest, rfl⟩
  · rw [rooms_longs_short what hshort] at h
    exact absurd h List.not_mem_nil
  rcases Nat.lt_or_ge rest.length (4 * w.toNat) with hlt | hle
  · rw [(longs_of_lt what hlt).1] at h
    exact absurd h List.not_mem_nil
  · rw [(longs_of_le what hle).1, List.mem_singleton] at h
    rw [h, List.length_append]
    omega

lemma length_of_records {what : String} {l : Layout α} (hl : l.Lawful) (he : l.Exact) (hs : ∀ a, 2 ≤ l.size a)
    {left : Bytes} {as : List α} (h : (records what l).read (Bytes.ofWord w ++ left) = (.ok as, rest)) :
    as.length = w.toNat ∧ 2 * w.toNat ≤ left.length := by
  rw [read_records, Reader.bind_of_ok (Reader.reads_word w left)] at h
  obtain ⟨u, mid, hu, ht⟩ := Reader.bind_eq_ok.mp h
  obtain rfl := (Reader.reserve_eq_ok hu).symm
  have htwo {bytes rest : Bytes} {a : α} (ha : l.read bytes = (.ok a, rest)) :
      2 ≤ (l.write a).bytes.length ∧ bytes = (l.write a).bytes ++ rest := by
    obtain ⟨hf, hbytes⟩ := he.writes ha
    rcases hl a with hcarries | ⟨⟨what, n, hfault⟩, -⟩
    · exact ⟨hcarries.length_bytes ▸ hs a, hbytes⟩
    · rw [hf] at hfault
      cases hfault
  obtain ⟨hn, hsizes, rfl⟩ : as.length = w.toNat ∧ (∀ a ∈ as, 2 ≤ (l.write a).bytes.length) ∧
      left = (as.flatMap fun a => (l.write a).bytes) ++ rest := Reader.times_eq_ok htwo ht
  have hsum := List.card_nsmul_le_sum (as.map fun a => (l.write a).bytes.length) 2 (List.forall_mem_map.mpr hsizes)
  rw [List.length_map, ← List.length_flatMap, smul_eq_mul] at hsum
  refine ⟨hn, ?_⟩
  rw [← hn, List.length_append]
  omega

end Layout

end PimSync.Wire
