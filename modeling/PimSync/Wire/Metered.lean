import PimSync.Wire.Reader

/-! Reading that tells for how many elements its lists ask for room. -/

namespace PimSync.Wire

structure Metered (α : Type) where
  reader : Reader α
  rooms : Bytes → List Nat

namespace Metered

variable {α β : Type}

def ofReader (read : Reader α) : Metered α := ⟨read, fun _ => []⟩

def bind (read : Metered α) (next : α → Metered β) : Metered β where
  reader := read.reader >>= fun a => (next a).reader
  rooms bytes := read.rooms bytes ++
    match read.reader bytes with
    | (.ok a, rest) => (next a).rooms rest
    | (.error _, _) => []

instance : Monad Metered where
  pure a := ofReader (pure a)
  bind := bind

def reserve (what : String) (size : Bytes → Nat) : Metered Unit where
  reader := .reserve what size
  rooms rest := [size rest]

def times (read : Metered α) (n : Nat) : Metered (List α) where
  reader := read.reader.times n
  rooms := go n
where
  go : Nat → Bytes → List Nat
    | 0, _ => []
    | n + 1, bytes => read.rooms bytes ++
      match read.reader bytes with
      | (.ok _, rest) => go n rest
      | (.error _, _) => []

end Metered

end PimSync.Wire
