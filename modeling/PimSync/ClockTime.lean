import PimSync.Text.Utf8
import PimSync.Wire.Layout

namespace PimSync

def isDigit (b : UInt8) : Bool := 0x30 ≤ b && b ≤ 0x39

structure ClockTime where
  digits : Block 14
  isDigit : digits.val.all isDigit = true
deriving DecidableEq

namespace ClockTime

open Wire

def ofBlock (digits : Block 14) : Except CodingError ClockTime :=
  if h : digits.val.all PimSync.isDigit = true then .ok ⟨digits, h⟩ else .error .badTime

def ofBytes (bytes : Bytes) : Except CodingError ClockTime :=
  if h : bytes.length = 14 then ofBlock ⟨bytes, h⟩ else .error .badTime

def parse (text : String) : Except CodingError ClockTime := ofBytes (Text.Utf8.encode text)

def decimals : (width : Nat) → Nat → Bytes
  | 0, _ => []
  | width + 1, n => decimals width (n / 10) ++ [UInt8.ofNat (0x30 + n % 10)]

def ofParts (year : UInt16) (month day hour minute second : UInt8) : Except CodingError ClockTime :=
  if year > 9999 ∨ month > 99 ∨ day > 99 ∨ hour > 99 ∨ minute > 99 ∨ second > 99 then .error .badTime
  else ofBytes (decimals 4 year.toNat ++ decimals 2 month.toNat ++ decimals 2 day.toNat ++
    decimals 2 hour.toNat ++ decimals 2 minute.toNat ++ decimals 2 second.toNat)

def slice (t : ClockTime) (start width : Nat) : Bytes := (t.digits.val.drop start).take width

def number (t : ClockTime) (start width : Nat) : Nat :=
  (t.slice start width).foldl (fun n b => n * 10 + (b - 0x30).toNat) 0

def year (t : ClockTime) : Nat := t.number 0 4

def month (t : ClockTime) : Nat := t.number 4 2

def day (t : ClockTime) : Nat := t.number 6 2

def hour (t : ClockTime) : Nat := t.number 8 2

def minute (t : ClockTime) : Nat := t.number 10 2

def second (t : ClockTime) : Nat := t.number 12 2

def written (t : ClockTime) (start width : Nat) : String := String.ofList ((t.slice start width).map graphic)

def text (t : ClockTime) : String :=
  t.written 0 4 ++ "-" ++ t.written 4 2 ++ "-" ++ t.written 6 2 ++ " " ++
    t.written 8 2 ++ ":" ++ t.written 10 2 ++ ":" ++ t.written 12 2

def layout : Layout ClockTime := (Layout.block 14).refine digits ofBlock

end ClockTime

end PimSync
