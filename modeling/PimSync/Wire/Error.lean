import PimSync.Wire.Tag

namespace PimSync.Wire

inductive CodingError where
  | truncated (needed available : Nat)
  | unknownType (tag : MessageTag)
  | unknownVariant (tag : MessageTag) (value : UInt8)
  | noMemory (what : String) (size : Nat)
  | alreadyFilled
  | bodyTooShort (size : UInt16)
  | tooLong (what : String) (size limit : Nat)
  | trailing (tag : MessageTag) (remaining : Nat)
  | badTime
deriving DecidableEq

def CodingError.message : CodingError → String
  | .truncated needed available => s!"unexpected end of payload: needed {needed} bytes, {available} available"
  | .unknownType tag => s!"unknown message type: {tag.text}"
  | .unknownVariant tag value => s!"unknown {tag.text} variant: 0x{Text.hex 2 value.toNat}"
  | .noMemory what size => s!"allocation of {size} bytes for {what} failed"
  | .alreadyFilled => "frame content already encoded"
  | .bodyTooShort size => s!"body size {size.toNat} is smaller than the type tag"
  | .tooLong what size limit => s!"{what} too long for the wire: {size} bytes (max {limit})"
  | .trailing tag remaining => s!"{remaining} trailing bytes after {tag.text} payload"
  | .badTime => "invalid device time"

inductive LinkError where
  | bind (address cause : String)
  | connect (address cause : String)
  | accept (cause : String)
  | io (during cause : String)
  | closed
  | cutOff (consumed expected : Nat)
deriving DecidableEq

namespace LinkError

def message : LinkError → String
  | bind address cause => s!"failed to bind listener on {address}: {cause}"
  | connect address cause => s!"failed to connect to {address}: {cause}"
  | accept cause => s!"failed to accept connection: {cause}"
  | io during cause => s!"I/O error during {during}: {cause}"
  | closed => "peer closed the connection"
  | cutOff consumed expected => s!"peer closed the connection after {consumed} of {expected} bytes"

def isPeerClosed : LinkError → Bool
  | closed | cutOff .. => true
  | _ => false

end LinkError

inductive WireError where
  | link (e : LinkError)
  | coding (e : CodingError)
deriving DecidableEq

def WireError.message : WireError → String
  | .link e => e.message
  | .coding e => e.message

def memoryLimit : Nat := 0x8000000000000000

def reserve (what : String) (size : Nat) : Except CodingError Unit :=
  if size < memoryLimit then .ok () else .error (.noMemory what size)

def zeroed (what : String) (size : Nat) : Except CodingError Bytes :=
  (reserve what size).map fun _ => List.replicate size 0

end PimSync.Wire
