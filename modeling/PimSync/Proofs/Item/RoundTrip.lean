import PimSync.Proofs.Item.Values

namespace PimSync

open Schema Text

namespace Schema

variable {t : FieldType} {v : t.Value} {type : ParamType}

def FieldType.Hollow : (t : FieldType) → t.Value → Prop
  | .byteArray, v => v = []
  | .utf8, v => v = ""
  | _, _ => False

instance : (t : FieldType) → DecidablePred t.Hollow
  | .byteArray, v => inferInstanceAs (Decidable (v = []))
  | .utf8, v => inferInstanceAs (Decidable (v = ""))
  | .bit, _ | .byte, _ | .word, _ | .long, _ | .time, _ => inferInstanceAs (Decidable False)

end Schema

namespace Record

variable {fs : List Field} {r : Record fs} {tag : FieldTag} {t : FieldType}

def Lists (format : Format) (tag : FieldTag) (t : FieldType) : Prop :=
  ∃ e ∈ format, e.tag = tag ∧ e.type = .ofField t

instance (format : Format) (tag : FieldTag) (t : FieldType) : Decidable (Lists format tag t) :=
  inferInstanceAs (Decidable (∃ e ∈ format, _))

/-- The record without the fields that the format does not list and without text and byte arrays that are empty. -/
def restrict (format : Format) : {fs : List Field} → Record fs → Record fs
  | [], r => r
  | f :: _, (value, rest) =>
    (value.filter fun v => Lists format f.tag f.type ∧ ¬ f.type.Hollow v, rest.restrict format)

end Record

namespace Item

def restrict (item : Item) (format : Format) : Item := { item with record := item.record.restrict format }

end Item

end PimSync
