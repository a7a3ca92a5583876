import PimSync.Bytes

namespace PimSync.Text.Utf8

def encode (text : String) : Bytes := text.toList.flatMap String.utf8EncodeChar

def replacement : Char := '\uFFFD'

structure Partial where
  missing : Nat
  low : Nat
  high : Nat
  bits : Nat

inductive Lead where
  | single (c : Char)
  | start (p : Partial)
  | stray

def lead (b : Nat) : Lead :=
  if b < 0x80 then .single (Char.ofNat b)
  else if b < 0xc2 then .stray
  else if b < 0xe0 then .start ⟨0, 0x80, 0xbf, b - 0xc0⟩
  else if b = 0xe0 then .start ⟨1, 0xa0, 0xbf, 0⟩
  else if b = 0xed then .start ⟨1, 0x80, 0x9f, 0xd⟩
  else if b < 0xf0 then .start ⟨1, 0x80, 0xbf, b - 0xe0⟩
  else if b = 0xf0 then .start ⟨2, 0x90, 0xbf, 0⟩
  else if b < 0xf4 then .start ⟨2, 0x80, 0xbf, b - 0xf0⟩
  else if b = 0xf4 then .start ⟨2, 0x80, 0x8f, 4⟩
  else .stray

abbrev State := Option Partial × List Char

def first (chars : List Char) (b : Nat) : State :=
  match lead b with
  | .single c => (none, c :: chars)
  | .start p => (some p, chars)
  | .stray => (none, replacement :: chars)

def step : State → UInt8 → State
  | (none, chars), b => first chars b.toNat
  | (some p, chars), b =>
    if p.low ≤ b.toNat ∧ b.toNat ≤ p.high then
      let bits := p.bits * 64 + (b.toNat - 0x80)
      match p.missing with
      | 0 => (none, Char.ofNat bits :: chars)
      | missing + 1 => (some ⟨missing, 0x80, 0xbf, bits⟩, chars)
    else first (replacement :: chars) b.toNat

def finish : State → List Char
  | (none, chars) => chars.reverse
  | (some _, chars) => (replacement :: chars).reverse

def decode (bytes : Bytes) : String := String.ofList (finish (bytes.foldl step (none, [])))

end PimSync.Text.Utf8
