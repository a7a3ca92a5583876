import PimSync.Text.Columns

namespace PimSync.Wire

structure MessageTag where
  bytes : Block 3
deriving DecidableEq

namespace MessageTag

def ascii (a b c : Char) : MessageTag := ⟨⟨[a.toUInt8, b.toUInt8, c.toUInt8], rfl⟩⟩

def text (tag : MessageTag) : String := String.ofList (tag.bytes.val.flatMap Text.escapeByte)

instance : LT MessageTag := ⟨fun s t => s.bytes.val < t.bytes.val⟩

instance (s t : MessageTag) : Decidable (s < t) := inferInstanceAs (Decidable (s.bytes.val < t.bytes.val))

end MessageTag

end PimSync.Wire
