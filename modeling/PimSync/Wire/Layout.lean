import PimSync.Wire.Metered
import PimSync.Wire.Output

namespace PimSync.Wire

structure Layout (α : Type) where
  size : α → Nat
  write : α → Output
  metered : Metered α

namespace Layout

variable {α β : Type}

def read (layout : Layout α) : Reader α := layout.metered.reader

def empty : Layout Unit where
  size _ := 0
  write _ := .empty
  metered := pure ()

def byte : Layout UInt8 where
  size _ := 1
  write := .byte
  metered := .ofReader .byte

def long : Layout UInt32 where
  size _ := 4
  write := .long
  metered := .ofReader .long

def block (n : Nat) : Layout (Block n) where
  size _ := n
  write b := .slice b.val
  metered := .ofReader (.block n)

def blob (what : String) : Layout Bytes where
  size bytes := 2 + bytes.length
  write := .blob what
  metered := .ofReader .blob

def pair (first : Layout α) (second : Layout β) : Layout (α × β) where
  size v := first.size v.1 + second.size v.2
  write v := first.write v.1 ++ second.write v.2
  metered := do
    let a ← first.metered
    return (a, ← second.metered)

def refine (layout : Layout α) (view : β → α) (check : α → Except CodingError β) : Layout β where
  size b := layout.size (view b)
  write b := layout.write (view b)
  metered := do .ofReader (.ofExcept (check (← layout.metered)))

def map (layout : Layout α) (view : β → α) (make : α → β) : Layout β := layout.refine view (.ok ∘ make)

def longs (what : String) : Layout (List UInt32) where
  size ids := 2 + 4 * ids.length
  write ids := .count what ids.length ++ .all .long ids
  metered := do
    let count := (← .ofReader .word).toNat
    -- all of them must be there before any is given room
    .ofReader (.ensure (4 * count))
    .reserve what fun _ => count
    (Metered.ofReader .long).times count

/-- How many records are given room before the first is read: none is shorter than two bytes. -/
def room (count : Nat) (rest : Bytes) : Nat := min count (rest.length / 2)

def records (what : String) (record : Layout α) : Layout (List α) where
  size as := as.foldr (record.size · + ·) 2
  write as := .count what as.length ++ .all record.write as
  metered := do
    let count := (← .ofReader .word).toNat
    .reserve what (room count)
    record.metered.times count

def encode (layout : Layout α) (a : α) : Except CodingError Bytes := (layout.write a).toExcept

def decode (layout : Layout α) (tag : MessageTag) (bytes : Bytes) : Except CodingError α :=
  Reader.run (do let a ← layout.read; Reader.finish tag; return a) bytes

end Layout

end PimSync.Wire
