import PimSync.Item.Basic
import PimSync.Schema.Error

/-! Items as lists of values: a value belongs to the entry at its position, and to the field with the tag and type of
that. -/

namespace PimSync

open Schema

namespace Schema.FieldType

def decode : (t : FieldType) → Bytes → Except Nat t.Value
  | .bit, bytes | .byte, bytes => if bytes.length = 1 then .ok bytes.toByte else .error 1
  | .word, bytes => if bytes.length = 2 then .ok bytes.toWord else .error 2
  | .long, bytes | .time, bytes => if bytes.length = 4 then .ok bytes.toLong else .error 4
  | .byteArray, bytes => .ok bytes
  | .utf8, bytes => .ok (Text.Utf8.decode bytes)

def encode : (t : FieldType) → t.Value → Bytes
  | .bit, v | .byte, v => [v]
  | .word, v => Bytes.ofWord v
  | .long, v | .time, v => Bytes.ofLong v
  | .byteArray, v => v
  | .utf8, v => Text.Utf8.encode v

end Schema.FieldType

namespace Record

variable {fs : List Field}

def store (r : Record fs) (entry : FormatEntry) (value : Bytes) : Except SchemaError (Record fs) :=
  match entry.type.field? with
  | none => .ok r
  | some t =>
    if value.isEmpty ∨ ¬ Declares fs entry.tag t then .ok r
    else match t.decode value with
      | .ok v => .ok (r.set entry.tag t (some v))
      | .error width => .error (.fieldWidth entry.tag width value.length)

def ofValues (fs : List Field) (format : Format) (values : Values) : Except SchemaError (Record fs) :=
  if format.length = values.length then
    (format.zip values).foldlM (fun r (entry, value) => r.store entry value) (blank fs)
  else .error (.lengthMismatch format.length values.length)

def value (r : Record fs) (entry : FormatEntry) : Bytes :=
  match entry.type.field? with
  | none => []
  | some t => ((r.get? entry.tag t).map t.encode).getD []

def values (r : Record fs) (format : Format) : Values := format.map r.value

end Record

namespace Item

def ofValues (c : Category) (format : Format) (values : Values) : Except SchemaError Item :=
  (Record.ofValues c.fields format values).map (⟨c, ·⟩)

def values (item : Item) (format : Format) : Values := item.record.values format

end Item

end PimSync
