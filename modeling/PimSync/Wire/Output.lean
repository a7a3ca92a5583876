import PimSync.Wire.Error

namespace PimSync.Wire

structure Output where
  bytes : Bytes
  fault? : Option CodingError
deriving DecidableEq

namespace Output

def empty : Output := ⟨[], none⟩

def append (a b : Output) : Output :=
  match a.fault? with
  | none => ⟨a.bytes ++ b.bytes, b.fault?⟩
  | some e => ⟨a.bytes, some e⟩

instance : Append Output := ⟨append⟩

def slice (bytes : Bytes) : Output := ⟨bytes, none⟩

def byte (b : UInt8) : Output := slice [b]

def word (w : UInt16) : Output := slice (Bytes.ofWord w)

def long (w : UInt32) : Output := slice (Bytes.ofLong w)

def countLimit : Nat := 65535

def count (what : String) (n : Nat) : Output :=
  if n ≤ countLimit then word (UInt16.ofNat n) else ⟨[], some (.tooLong what n countLimit)⟩

def blob (what : String) (bytes : Bytes) : Output := count what bytes.length ++ slice bytes

def all {α : Type} (write : α → Output) (as : List α) : Output :=
  as.foldr (fun a rest => write a ++ rest) empty

def toExcept (out : Output) : Except CodingError Bytes :=
  match out.fault? with
  | none => .ok out.bytes
  | some e => .error e

end Output

end PimSync.Wire
