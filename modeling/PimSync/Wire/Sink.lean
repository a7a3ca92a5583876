import PimSync.Wire.Packet

namespace PimSync.Wire

inductive Acceptance where
  | takes (most : Nat)
  | interrupted
deriving DecidableEq

/-- A link being written to: how it answers the calls to come, after which it takes all it is offered; how many bytes
it has room for, and how it fails once it is full; whether flushing fails. -/
structure Sink where
  calls : List Acceptance
  room? : Option Nat
  full? : Option String
  flushFault? : Option String
  written : List Bytes
  flushes : Nat

def Acceptance.periodic (most : Nat) (period? : Option Nat) (calls : Nat) : List Acceptance :=
  (List.range calls).map fun i => if period?.any fun k => (i + 1) % k = 0 then interrupted else takes most

namespace Sink

def bytes (sink : Sink) : Bytes := sink.written.reverse.flatten

def nothingTaken : String := "failed to write whole buffer"

def piece (sink : Sink) (offered : Bytes) : Except String Bytes :=
  match sink.room? with
  | some 0 => .error (sink.full?.getD nothingTaken)
  | some room => .ok (offered.take room)
  | none => .ok offered

def take (sink : Sink) (piece : Bytes) : Sink :=
  { sink with room? := sink.room?.map (· - piece.length), written := piece :: sink.written }

def writeAll (sink : Sink) (bytes : Bytes) : Except String Unit × Sink := go sink.calls sink bytes
where
  go : List Acceptance → Sink → Bytes → Except String Unit × Sink
    | calls, sink, [] => (.ok (), { sink with calls })
    | .interrupted :: calls, sink, bytes => go calls sink bytes
    | .takes most :: calls, sink, bytes =>
      match sink.piece (bytes.take most) with
      | .error cause => (.error cause, { sink with calls })
      | .ok [] => (.error nothingTaken, { sink with calls })
      | .ok piece => go calls (sink.take piece) (bytes.drop piece.length)
    | [], sink, bytes =>
      match sink.piece bytes with
      | .error cause => (.error cause, { sink with calls := [] })
      | .ok piece =>
        let sink := { sink.take piece with calls := [] }
        if piece.length = bytes.length then (.ok (), sink) else (.error (sink.full?.getD nothingTaken), sink)

def flush (sink : Sink) : Except String Unit × Sink :=
  (match sink.flushFault? with
   | none => .ok ()
   | some cause => .error cause, { sink with flushes := sink.flushes + 1 })

def write (sink : Sink) (p : Packet) : Except LinkError Unit × Sink :=
  match sink.writeAll p.bytes with
  | (.error cause, sink) => (.error (.io "send" cause), sink)
  | (.ok (), sink) =>
    match sink.flush with
    | (.error cause, sink) => (.error (.io "send" cause), sink)
    | (.ok (), sink) => (.ok (), sink)

end Sink

end PimSync.Wire
