import PimSync.Talk.Basic

namespace PimSync.Simulation

open Wire

structure Tape where
  unread : Bytes
  pieces : List Bytes
  closed : Bool
deriving DecidableEq

namespace Tape

def ofInput (input : Bytes) : Tape := ⟨input, [], false⟩

def written (t : Tape) : Bytes := t.pieces.reverse.flatten

def read (t : Tape) (n : Nat) : Bytes × Tape := (t.unread.take n, { t with unread := t.unread.drop n })

def brokenPipe : String := "broken pipe"

def write (t : Tape) (bytes : Bytes) : Except String Nat × Tape :=
  if t.closed then (.error brokenPipe, t) else (.ok bytes.length, { t with pieces := bytes :: t.pieces })

def close (t : Tape) : Tape := { t with closed := true }

def send (t : Tape) (p : Packet) : Except LinkError Unit × Tape :=
  match t.write p.bytes with
  | (.ok _, t) => (.ok (), t)
  | (.error cause, t) => (.error (.io "send" cause), t)

def receive (t : Tape) : Except WireError Packet × Tape :=
  let (answer, unread) := Packet.next t.unread
  (answer, { t with unread })

end Tape

structure Tapes where
  inbound : Tape
  outbound : Tape
deriving DecidableEq

namespace Tapes

def get (t : Tapes) : Leg → Tape
  | .inbound => t.inbound
  | .outbound => t.outbound

def set (t : Tapes) (leg : Leg) (tape : Tape) : Tapes :=
  match leg with
  | .inbound => { t with inbound := tape }
  | .outbound => { t with outbound := tape }

def network : Network Tapes
  | .listen _, t | .dial .., t => some (.ok (), t)
  | .accept _, t => some (.ok "", t)
  | .unlisten, t => some ((), t)
  | .close leg, t => some ((), t.set leg (t.get leg).close)
  | .send leg p, t =>
    let (answer, tape) := (t.get leg).send p
    some (answer, t.set leg tape)
  | .receive leg, t =>
    let (answer, tape) := (t.get leg).receive
    some (answer, t.set leg tape)

end Tapes

end PimSync.Simulation
