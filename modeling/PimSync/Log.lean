import PimSync.Talk.Basic

/-! The message log: every packet that crosses a link, with its direction, a label and its bytes in a dump. -/

namespace PimSync

open Wire

namespace Log

inductive Direction where
  | sent
  | received
deriving DecidableEq

def Direction.mark : Direction → String
  | .sent => ">>"
  | .received => "<<"

structure Entry where
  direction : Direction
  label : String
  bytes : Bytes
deriving DecidableEq

def frameLabel (f : Frame) : String :=
  let name := MessageSpec.nameFor f.tag
  let checksum := Text.hex 4 f.checksum.toNat
  let verdict := if f.checksumMatches then "" else " MISMATCH"
  s!"{f.tag.text} ({name}) content={f.content.length} checksum={checksum}{verdict}"

def packetLabel : Packet → String
  | .control c => c.name
  | .message f => frameLabel f

namespace Entry

def ofPacket (direction : Direction) (p : Packet) : Entry := ⟨direction, packetLabel p, p.bytes⟩

def ofEvent? : Event → Option Entry
  | ⟨.send _ p, _⟩ => some (ofPacket .sent p)
  | ⟨.receive _, .ok p⟩ => some (ofPacket .received p)
  | _ => none

def header (e : Entry) : String := s!"{e.direction.mark} {e.label} [{e.bytes.length} bytes]"

def row (offset : Nat) (bytes : Bytes) : String :=
  let pairs := " ".intercalate (bytes.map fun b => String.ofList (Text.hexPair b))
  let shown := String.ofList (bytes.map fun b => if isGraphic b then graphic b else '.')
  "  " ++ Text.hex 4 offset ++ "  " ++ Text.padRight ' ' 47 pairs ++ "  " ++ shown ++ "\n"

def text (e : Entry) : String :=
  e.header ++ "\n" ++ String.join ((e.bytes.chunks 16).mapIdx fun i bytes => row (16 * i) bytes)

end Entry

def ofEvents (events : List Event) : List Entry := events.filterMap Entry.ofEvent?

def text (entries : List Entry) : String := String.join (entries.map Entry.text)

end Log

end PimSync
