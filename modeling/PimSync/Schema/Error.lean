import PimSync.Category
import PimSync.Schema.Format

namespace PimSync.Schema

inductive SchemaError where
  | lengthMismatch (entries values : Nat)
  | alreadyObtained (c : Category)
  | formatMissing (c : Category)
  | fieldWidth (tag : FieldTag) (expected actual : Nat)
  | noMemory (tag : FieldTag) (size : Nat)
deriving DecidableEq

def SchemaError.message : SchemaError → String
  | .lengthMismatch entries values => s!"parameter format has {entries} entries but {values} values were received"
  | .alreadyObtained c => s!"parameter format for {c.name} already obtained"
  | .formatMissing c => s!"parameter format for {c.name} has not been obtained"
  | .fieldWidth tag expected actual => s!"field {tag.text}: expected {expected} bytes, got {actual}"
  | .noMemory tag size => s!"allocation of {size} bytes for field {tag.text} failed"

end PimSync.Schema
