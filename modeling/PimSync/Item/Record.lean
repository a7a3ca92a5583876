import PimSync.Item.Field

namespace PimSync

open Schema

abbrev Schema.FieldType.Value : FieldType → Type
  | .bit | .byte => UInt8
  | .word => UInt16
  | .long | .time => UInt32
  | .byteArray => Bytes
  | .utf8 => String

instance (t : FieldType) : DecidableEq t.Value := by cases t <;> exact inferInstance

def Field.Is (f : Field) (tag : FieldTag) (t : FieldType) : Prop := f.tag = tag ∧ f.type = t

instance (f : Field) (tag : FieldTag) (t : FieldType) : Decidable (f.Is tag t) :=
  inferInstanceAs (Decidable (_ ∧ _))

def Record : List Field → Type
  | [] => Unit
  | f :: fs => Option f.type.Value × Record fs

namespace Record

instance instDecidableEq : (fs : List Field) → DecidableEq (Record fs)
  | [] => inferInstanceAs (DecidableEq Unit)
  | f :: fs =>
    have := instDecidableEq fs
    inferInstanceAs (DecidableEq (Option f.type.Value × Record fs))

def blank : (fs : List Field) → Record fs
  | [] => ()
  | _ :: fs => (none, blank fs)

def Declares (fs : List Field) (tag : FieldTag) (t : FieldType) : Prop := ∃ f ∈ fs, f.Is tag t

instance (fs : List Field) (tag : FieldTag) (t : FieldType) : Decidable (Declares fs tag t) :=
  inferInstanceAs (Decidable (∃ f ∈ fs, f.Is tag t))

def get? : {fs : List Field} → Record fs → FieldTag → (t : FieldType) → Option t.Value
  | [], _, _, _ => none
  | f :: _, (value, rest), tag, t => if h : f.Is tag t then h.2 ▸ value else rest.get? tag t

def set : {fs : List Field} → Record fs → FieldTag → (t : FieldType) → Option t.Value → Record fs
  | [], r, _, _, _ => r
  | f :: _, (value, rest), tag, t, v => if h : f.Is tag t then (h.2 ▸ v, rest) else (value, rest.set tag t v)

def entries : {fs : List Field} → Record fs → List (Field × (t : FieldType) × t.Value)
  | [], _ => []
  | _ :: _, (none, rest) => rest.entries
  | f :: _, (some v, rest) => (f, ⟨f.type, v⟩) :: rest.entries

def populated {fs : List Field} (r : Record fs) : Nat := r.entries.length

end Record

end PimSync
