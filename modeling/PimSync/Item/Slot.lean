import PimSync.Item.Values

/-! Slots: the place that a record has for a tag and a type, what is in it, and the record with something else put
there. -/

namespace PimSync

open Schema

inductive Schema.TypeName where
  | field (t : FieldType)
  | unknown (code : UInt8)
deriving DecidableEq

def Schema.ParamType.typeName (p : ParamType) : TypeName :=
  match p.field? with
  | some t => .field t
  | none => .unknown p.code

def Field.Answers (f : Field) (tag : FieldTag) (t : TypeName) : Prop := tag = f.tag ∧ t = .field f.type

instance (f : Field) (tag : FieldTag) (t : TypeName) : Decidable (f.Answers tag t) :=
  inferInstanceAs (Decidable (_ ∧ _))

structure Slot (fs : List Field) where
  type : FieldType
  held : Option type.Value
  put : Option type.Value → Record fs

def Slot.store {fs : List Field} (s : Slot fs) (tag : FieldTag) (value : Bytes) : Except SchemaError (Record fs) :=
  match s.type.decode value with
  | .ok v => .ok (s.put (some v))
  | .error width => .error (.fieldWidth tag width value.length)

abbrev TypedValue := (t : FieldType) × t.Value

def TypedValue.encode (v : TypedValue) : Bytes := v.1.encode v.2

namespace Record

def slot? : {fs : List Field} → Record fs → FieldTag → TypeName → Option (Slot fs)
  | [], _, _, _ => none
  | f :: _, (value, rest), tag, t =>
    if f.Answers tag t then some ⟨f.type, value, fun v => (v, rest)⟩
    else (rest.slot? tag t).map fun s => ⟨s.type, s.held, fun v => (value, s.put v)⟩

def field? : {fs : List Field} → Record fs → FieldTag → TypeName → Option TypedValue
  | [], _, _, _ => none
  | f :: _, (value, rest), tag, t => if f.Answers tag t then value.map (⟨f.type, ·⟩) else rest.field? tag t

def contents : {fs : List Field} → Record fs → List (Option TypedValue)
  | [], _ => []
  | f :: _, (value, rest) => value.map (⟨f.type, ·⟩) :: rest.contents

end Record

end PimSync
