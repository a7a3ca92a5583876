import PimSync.Schema.Format

/-! Cutting any byte string into entries of a format and their values. -/

namespace PimSync.Schema

def cut (bytes : Bytes) : List (FormatEntry × Bytes) := go bytes.length bytes
where
  go : Nat → Bytes → List (FormatEntry × Bytes)
    | fuel + 1, a :: b :: c :: d :: code :: size :: rest =>
      (⟨⟨⟨[a, b, c, d], rfl⟩⟩, ⟨code⟩, []⟩, rest.take size.toNat) :: go fuel (rest.drop size.toNat)
    | _, _ => []

end PimSync.Schema
