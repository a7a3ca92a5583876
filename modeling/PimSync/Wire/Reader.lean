import PimSync.Wire.Error

/-! Reading from the front of a byte string. A read returns the unread rest in every case; one that runs out of bytes
has taken none of them. -/

namespace PimSync.Wire

def Reader (α : Type) := Bytes → Except CodingError α × Bytes

namespace Reader

variable {α β : Type}

@[inline] def pure (a : α) : Reader α := fun rest => (.ok a, rest)

@[inline] def bind (read : Reader α) (next : α → Reader β) : Reader β := fun bytes =>
  match read bytes with
  | (.ok a, rest) => next a rest
  | (.error e, rest) => (.error e, rest)

instance : Monad Reader where
  pure := pure
  bind := bind

@[inline] def fail (e : CodingError) : Reader α := fun rest => (.error e, rest)

def ofExcept : Except CodingError α → Reader α
  | .ok a => pure a
  | .error e => fail e

def block (n : Nat) : Reader (Block n) := fun bytes =>
  match bytes.split? n with
  | some (block, rest) => (.ok block, rest)
  | none => (.error (.truncated n bytes.length), bytes)

def byte : Reader UInt8 := do return (← block 1).val.toByte

def word : Reader UInt16 := do return (← block 2).val.toWord

def long : Reader UInt32 := do return (← block 4).val.toLong

def slice (n : Nat) : Reader Bytes := do return (← block n).val

def blob : Reader Bytes := do slice (← word).toNat

def ensure (n : Nat) : Reader Unit := fun rest =>
  if rest.length < n then (.error (.truncated n rest.length), rest) else (.ok (), rest)

def reserve (what : String) (size : Bytes → Nat) : Reader Unit :=
  fun rest => (Wire.reserve what (size rest), rest)

def times (read : Reader α) (n : Nat) : Reader (List α) := go n []
where
  go : Nat → List α → Reader (List α)
    | 0, found => pure found.reverse
    | n + 1, found => fun bytes =>
      match read bytes with
      | (.ok a, rest) => go n (a :: found) rest
      | (.error e, rest) => (.error e, rest)

def finish (tag : MessageTag) : Reader Unit := fun rest =>
  if rest.isEmpty then (.ok (), rest) else (.error (.trailing tag rest.length), rest)

def run (read : Reader α) (bytes : Bytes) : Except CodingError α := (read bytes).1

end Reader

end PimSync.Wire
