import PimSync.Item.Record

namespace PimSync

open Schema

structure Item where
  category : Category
  record : Record category.fields
deriving DecidableEq

namespace Item

def blank (c : Category) : Item := ⟨c, .blank c.fields⟩

def get? (item : Item) (tag : FieldTag) (t : FieldType) : Option t.Value := item.record.get? tag t

def set (item : Item) (tag : FieldTag) (t : FieldType) (value : Option t.Value) : Item :=
  { item with record := item.record.set tag t value }

def syncId? (item : Item) : Option UInt32 := item.get? (.ascii 'S' 'Y' 'I' 'D') .long

def titleTags : Category → List FieldTag
  | .todo => [.ascii 'T' 'I' 'T' 'L']
  | .calendar => [.ascii 'D' 'S' 'C' 'R']
  | .address => [.ascii 'F' 'U' 'L' 'L', .ascii 'L' 'N' 'M' 'E', .ascii 'C' 'M' 'P' 'Y']

def title? (item : Item) : Option String := (titleTags item.category).findSome? (item.get? · .utf8)

end Item

end PimSync
