import PimSync.Bytes

namespace PimSync.Text

def padLeft (fill : Char) (width : Nat) (text : String) : String :=
  String.ofList (List.replicate (width - text.length) fill) ++ text

def padRight (fill : Char) (width : Nat) (text : String) : String :=
  text ++ String.ofList (List.replicate (width - text.length) fill)

def decimal (n : Nat) : String := String.ofList (Nat.toDigits 10 n)

def hex (width n : Nat) : String := padLeft '0' width (String.ofList (Nat.toDigits 16 n))

def hexDigit (n : Nat) : Char := (Nat.digitChar n)

def hexPair (b : UInt8) : List Char := [hexDigit (b.toNat / 16), hexDigit (b.toNat % 16)]

def hexBytes (bytes : Bytes) : String := String.ofList (bytes.flatMap hexPair)

def escapeByte (b : UInt8) : List Char := if isGraphic b then [graphic b] else '\\' :: 'x' :: hexPair b

end PimSync.Text
