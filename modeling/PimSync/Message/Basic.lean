import PimSync.Message.Payload
import PimSync.Wire.Packet

namespace PimSync

open Wire

structure Message where
  type : MessageType
  payload : type.Payload
deriving DecidableEq

namespace Message

def tag (m : Message) : MessageTag := m.type.tag

def origin (m : Message) : Origin := m.type.origin

def name (m : Message) : String := m.type.name

def payload? (m : Message) (t : MessageType) : Option t.Payload :=
  if h : m.type = t then some (h ▸ m.payload) else none

def encodedLength (m : Message) : Nat := m.type.layout.size m.payload

def write (m : Message) : Output := m.type.layout.write m.payload

def encode (m : Message) : Except CodingError Bytes := m.write.toExcept

def decode (tag : MessageTag) (content : Bytes) : Except CodingError Message :=
  match MessageType.ofTag? tag with
  | none => .error (.unknownType tag)
  | some t => (t.layout.decode tag content).map (⟨t, ·⟩)

def fillFrame (m : Message) (f : Frame) : Except CodingError Frame :=
  if f.isFilled then .error .alreadyFilled
  else do
    reserve "message content" m.encodedLength
    f.fill (← m.encode)

def frame (m : Message) : Except CodingError Frame := m.fillFrame (.new m.tag m.origin)

def ofFrame (f : Frame) : Except CodingError Message := decode f.tag f.content

end Message

end PimSync
