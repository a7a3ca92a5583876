import PimSync.Wire.Control
import PimSync.Wire.Frame

/-! What crosses a link: control frames and message frames, one after another without a delimiter. The first seven
bytes tell which of the two comes next. -/

namespace PimSync.Wire

inductive Packet where
  | control (c : Control)
  | message (f : Frame)
deriving DecidableEq

namespace Packet

def bytes : Packet → Bytes
  | control c => c.frame
  | message f => f.bytes

def name : Packet → String
  | control c => c.name
  | message f => f.tag.text

inductive Scan where
  | needs (total : Nat)
  | packet (p : Packet) (rest : Bytes)
  | tooShort (bodySize : UInt16) (rest : Bytes)

def headerOf (front : Block 15) : Header := ⟨front.val.take 13, by simp [front.property]⟩

def sizeOf (front : Block 15) : UInt16 :=
  have _ := front.property
  Bytes.toWord [front.val[13], front.val[14]]

def frameOf (header : Header) (bodySize : Nat) (_ : 3 ≤ bodySize) (body : Block (bodySize + 2)) : Frame :=
  have _ := body.property
  let tag : Block 3 := ⟨[body.val[0], body.val[1], body.val[2]], rfl⟩
  .received header ⟨tag⟩ (body.val.extract 3 bodySize) (Bytes.toWord [body.val[bodySize], body.val[bodySize + 1]])

def scanBody (header : Header) (bodySize : UInt16) (bytes : Bytes) : Scan :=
  if h : bodySize.toNat < 3 then .tooShort bodySize bytes
  else match bytes.split? (bodySize.toNat + 2) with
    | none => .needs (17 + bodySize.toNat)
    | some (body, rest) => .packet (.message (frameOf header bodySize.toNat (Nat.le_of_not_lt h) body)) rest

def scanMessage (bytes : Bytes) : Scan :=
  match bytes.split? 15 with
  | none => .needs 15
  | some (front, rest) => scanBody (headerOf front) (sizeOf front) rest

def scan (bytes : Bytes) : Scan :=
  match bytes.split? 7 with
  | none => .needs 7
  | some (head, rest) =>
    match Control.ofFrame? head with
    | some c => .packet (.control c) rest
    | none => scanMessage bytes

def ended (consumed needed : Nat) : LinkError := if consumed = 0 then .closed else .cutOff consumed needed

def next (bytes : Bytes) : Except WireError Packet × Bytes :=
  match scan bytes with
  | .packet p rest => (.ok p, rest)
  | .tooShort size rest => (.error (.coding (.bodyTooShort size)), rest)
  | .needs total => (.error (.link (ended bytes.length total)), [])

end Packet

end PimSync.Wire
