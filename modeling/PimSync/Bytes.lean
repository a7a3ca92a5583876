namespace PimSync

abbrev Bytes := List UInt8

abbrev Block (n : Nat) := { bytes : Bytes // bytes.length = n }

def Block.zero (n : Nat) : Block n := ⟨List.replicate n 0, List.length_replicate⟩

namespace Bytes

def split? (n : Nat) (bytes : Bytes) : Option (Block n × Bytes) :=
  let head := bytes.take n
  if h : head.length = n then some (⟨head, h⟩, bytes.drop n) else none

def toNat : Bytes → Nat
  | [] => 0
  | b :: bs => b.toNat + 256 * toNat bs

def ofNat : (width : Nat) → Nat → Bytes
  | 0, _ => []
  | width + 1, n => UInt8.ofNat n :: ofNat width (n / 256)

def ofWord (w : UInt16) : Bytes := ofNat 2 w.toNat

def ofLong (w : UInt32) : Bytes := ofNat 4 w.toNat

def toByte (bytes : Bytes) : UInt8 := UInt8.ofNat bytes.toNat

def toWord (bytes : Bytes) : UInt16 := UInt16.ofNat bytes.toNat

def toLong (bytes : Bytes) : UInt32 := UInt32.ofNat bytes.toNat

def chunks (width : Nat) (bytes : Bytes) : List Bytes := go bytes.length bytes
where
  go : Nat → Bytes → List Bytes
    | 0, _ => []
    | _, [] => []
    | fuel + 1, b :: bs => (b :: bs).take width :: go fuel ((b :: bs).drop width)

end Bytes

def isGraphic (b : UInt8) : Bool := 0x21 ≤ b && b ≤ 0x7e

def graphic (b : UInt8) : Char := Char.ofNat b.toNat

end PimSync
