import PimSync.Proofs.Message.Canonical
import PimSync.Proofs.Wire.Rooms

namespace PimSync

open Wire Schema

inductive ListElement where
  | value
  | entry
  | idList

namespace ListElement

abbrev Carrier : ListElement → Type
  | value => Bytes
  | entry => FormatEntry
  | idList => IdList

def layout : (e : ListElement) → Layout e.Carrier
  | value => valueLayout
  | entry => FormatEntry.layout
  | idList => IdList.layout

variable {e : ListElement}

lemma thrifty_layout (e : ListElement) : e.layout.Thrifty := by
  cases e with
  | value => exact Layout.thrifty_blob _
  | entry =>
    exact ((Layout.thrifty_block 4).pair (Layout.exact_block 4)
      (Layout.thrifty_byte.pair Layout.exact_byte (Layout.thrifty_blob _))).map _ _
  | idList => exact (Layout.thrifty_byte.pair Layout.exact_byte (Layout.thrifty_longs _)).map _ _

lemma lawful_layout (e : ListElement) : e.layout.Lawful := by
  cases e with
  | value => exact Layout.lawful_blob _
  | entry => exact FormatEntry.lawful_layout
  | idList => exact IdList.lawful_layout

lemma exact_layout (e : ListElement) : e.layout.Exact := by
  cases e with
  | value => exact Layout.exact_blob _
  | entry => exact FormatEntry.exact_layout
  | idList => exact IdList.exact_layout

lemma two_le_size (e : ListElement) (a : e.Carrier) : 2 ≤ e.layout.size a := by
  cases e with
  | value => exact Nat.le_add_right 2 _
  | entry =>
    simp only [layout, FormatEntry.layout, Layout.map, Layout.refine, Layout.pair, Layout.block]
    omega
  | idList =>
    simp only [layout, IdList.layout, Layout.map, Layout.refine, Layout.pair, Layout.byte, Layout.longs]
    omega

end ListElement

/-- No list is given room for more elements than half the bytes that are there for it. -/
theorem list_room_bounded (what : String) (e : ListElement) (bytes : Bytes) :
    (bytes.length < 2 → (Layout.records what e.layout).metered.rooms bytes = [] ∧
      (Layout.longs what).metered.rooms bytes = []) ∧
    ∀ (count : UInt16) (left : Bytes), bytes = Bytes.ofWord count ++ left →
      (∃ inner, (Layout.records what e.layout).metered.rooms bytes = min count.toNat (left.length / 2) :: inner ∧
        ∀ n ∈ inner, n ≤ left.length / 2) ∧
      (∀ list rest, (Layout.records what e.layout).read bytes = (.ok list, rest) →
        list.length = count.toNat ∧ list.length ≤ left.length / 2 ∧
          min count.toNat (left.length / 2) = count.toNat) ∧
      (4 * count.toNat ≤ left.length → (Layout.longs what).metered.rooms bytes = [count.toNat] ∧
        ∃ ids rest, (Layout.longs what).read bytes = (.ok ids, rest) ∧ ids.length = count.toNat) ∧
      (left.length < 4 * count.toNat → (Layout.longs what).metered.rooms bytes = [] ∧
        (Layout.longs what).read bytes = (.error (.truncated (4 * count.toNat) left.length), left)) := by
  refine ⟨fun h => ⟨Layout.rooms_records_short what _ h, Layout.rooms_longs_short what h⟩, ?_⟩
  rintro count left rfl
  refine ⟨⟨_, Layout.rooms_records what _ count left, fun n hn => ?_⟩, fun list rest h => ?_,
    Layout.longs_of_le what, Layout.longs_of_lt what⟩
  · have := e.thrifty_layout.times e.exact_layout hn
    omega
  · obtain ⟨hlength, hhalf⟩ := Layout.length_of_records e.lawful_layout e.exact_layout e.two_le_size h
    omega

theorem list_room_bounded_full :
    (∃ list, (Layout.records "values" valueLayout).read [2, 0, 0, 0, 0, 0] = (.ok list, []) ∧ list.length = 2) ∧
    (∃ inner, (Layout.records "values" valueLayout).metered.rooms [0xff, 0xff, 0, 0, 0, 0] = 2 :: inner) ∧
    (Layout.longs "ids").read [0xe8, 0x03, 1, 0, 0, 0] = (.error (.truncated 4000 4), [1, 0, 0, 0]) := by
  obtain ⟨-, hfull⟩ := list_room_bounded "values" .value [2, 0, 0, 0, 0, 0]
  obtain ⟨-, hmore⟩ := list_room_bounded "values" .value [0xff, 0xff, 0, 0, 0, 0]
  obtain ⟨-, hshort⟩ := list_room_bounded "ids" .idList [0xe8, 0x03, 1, 0, 0, 0]
  obtain ⟨inner, hrooms, -⟩ := (hmore 0xffff [0, 0, 0, 0] rfl).1
  have hread : (Layout.records "values" valueLayout).read [2, 0, 0, 0, 0, 0] = (.ok [[], []], []) := by decide
  exact ⟨⟨_, hread, ((hfull 2 [0, 0, 0, 0] rfl).2.1 _ _ hread).1⟩, ⟨inner, hrooms⟩,
    ((hshort 1000 [1, 0, 0, 0] rfl).2.2.2 (by decide)).2⟩

end PimSync
