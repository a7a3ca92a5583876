import PimSync.Wire.Reader

/-! Message frames. One starts without content and is filled once; one that was received is filled. -/

namespace PimSync.Wire

inductive Origin where
  | device
  | desktop
deriving DecidableEq

abbrev Header := Block 13

def Origin.header : Origin → Header
  | .device => ⟨[0x00, 0x00, 0x00, 0x00, 0x00, 0x96, 0x01, 0x01, 0x0c, 0x00, 0x00, 0x00, 0x00], rfl⟩
  | .desktop => ⟨[0x00, 0x00, 0x00, 0x00, 0x00, 0x96, 0x01, 0x01, 0x0b, 0x00, 0x00, 0xff, 0xff], rfl⟩

namespace Header

def origin (header : Header) : Origin := if header.val[8]? = some 0x0b then .desktop else .device

def setLength (header : Header) (size : UInt16) : Header :=
  ⟨(header.val.set 9 size.toUInt8).set 10 (size >>> 8).toUInt8, by simp [header.property]⟩

end Header

def checksum (tag : MessageTag) (content : Bytes) : UInt16 :=
  (tag.bytes.val ++ content).foldl (fun sum b => sum + b.toUInt16) 0

structure Frame where
  header : Header
  tag : MessageTag
  content? : Option Bytes
  checksum : UInt16
deriving DecidableEq

namespace Frame

def contentLimit : Nat := 65532

def new (tag : MessageTag) (origin : Origin) : Frame := ⟨origin.header, tag, none, 0⟩

def received (header : Header) (tag : MessageTag) (content : Bytes) (checksum : UInt16) : Frame :=
  ⟨header, tag, some content, checksum⟩

def origin (f : Frame) : Origin := f.header.origin

def isFilled (f : Frame) : Bool := f.content?.isSome

def content (f : Frame) : Bytes := f.content?.getD []

def fill (f : Frame) (content : Bytes) : Except CodingError Frame :=
  if f.isFilled then .error .alreadyFilled
  else if content.length > contentLimit then .error (.tooLong "message content" content.length contentLimit)
  else
    let header := if f.origin = .desktop then f.header.setLength (UInt16.ofNat content.length) else f.header
    .ok ⟨header, f.tag, some content, Wire.checksum f.tag content⟩

def bodySize (f : Frame) : UInt16 := UInt16.ofNat (3 + f.content.length)

def computedChecksum (f : Frame) : UInt16 := Wire.checksum f.tag f.content

def checksumMatches (f : Frame) : Bool := f.checksum = f.computedChecksum

def wireLength (f : Frame) : Nat := 20 + f.content.length

def bytes (f : Frame) : Bytes :=
  f.header.val ++ (Bytes.ofWord f.bodySize ++ (f.tag.bytes.val ++ (f.content ++ Bytes.ofWord f.checksum)))

def readBody (header : Header) (bodySize : UInt16) : Reader Frame := do
  let tag ← Reader.block 3
  let content ← Reader.slice (bodySize.toNat - 3)
  return .received header ⟨tag⟩ content (← Reader.word)

def reader : Reader Frame := do
  let header ← Reader.block 13
  let bodySize ← Reader.word
  if bodySize < 3 then .fail (.bodyTooShort bodySize) else readBody header bodySize

def parse (bytes : Bytes) : Except CodingError Frame := reader.run bytes

end Frame

end PimSync.Wire
