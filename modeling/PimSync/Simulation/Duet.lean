import PimSync.Device.Serve

/-! A desktop and a device that run side by side. What the one writes on a link reaches the other byte by byte and in
order, and nothing says which of the two moves next. -/

namespace PimSync.Simulation

open Wire

structure Pipe where
  bytes : Bytes
  ended : Bool
deriving DecidableEq

namespace Pipe

def fresh : Pipe := ⟨[], false⟩

def push (p : Pipe) (b : UInt8) : Pipe := if p.ended then p else { p with bytes := p.bytes ++ [b] }

def pop (p : Pipe) : Pipe := { p with bytes := p.bytes.tail }

def finish (p : Pipe) : Pipe := { p with ended := true }

end Pipe

abbrev Pipes := Leg → Pipe

def Pipes.edit (p : Pipes) (leg : Leg) (f : Pipe → Pipe) : Pipes := fun l => if l = leg then f (p l) else p l

structure Voice (α : Type) where
  talk : Talk α
  moved : Bytes

inductive Move where
  | within
  | write (leg : Leg) (b : UInt8)
  | read (leg : Leg)
  | close (leg : Leg)

namespace Move

def onOutgoing : Move → Pipes → Pipes
  | write leg b, p => p.edit leg (·.push b)
  | close leg, p => p.edit leg .finish
  | _, p => p

def onIncoming : Move → Pipes → Pipes
  | read leg, p => p.edit leg .pop
  | _, p => p

end Move

namespace Voice

variable {α : Type}

def start (talk : Talk α) : Voice α := ⟨talk, []⟩

/-- A party moves one byte, or takes the answer to its request. It waits where there is nothing to read, and where it
wants to be called or to call, since there is nobody else. -/
def step (p : Voice α) (outgoing incoming : Pipes) : Option (Voice α × Move) :=
  match p.talk with
  | .done _ | .ask (.listen _) _ | .ask (.accept _) _ | .ask (.dial ..) _ => none
  | .ask .unlisten next => some (start (next ()), .within)
  | .ask (.close leg) next => some (start (next ()), .close leg)
  | .ask (.send leg packet) next =>
    if (outgoing leg).ended then some (start (next (.error .closed)), .within)
    else match packet.bytes[p.moved.length]? with
      | some b => some ({ p with moved := p.moved ++ [b] }, .write leg b)
      | none => some (start (next (.ok ())), .within)
  | .ask (.receive leg) next =>
    if (outgoing leg).ended then some (start (next (.error (.link .closed))), .within)
    else match Packet.scan p.moved with
      | .packet packet _ => some (start (next (.ok packet)), .within)
      | .tooShort size _ => some (start (next (.error (.coding (.bodyTooShort size)))), .within)
      | .needs total =>
        match (incoming leg).bytes with
        | b :: _ => some ({ p with moved := p.moved ++ [b] }, .read leg)
        | [] =>
          if (incoming leg).ended then
            some (start (next (.error (.link (Packet.ended p.moved.length total)))), .within)
          else none

end Voice

structure Duet (α : Type) where
  desktop : Voice α
  device : Voice Device.Served
  toDevice : Pipes
  toDesktop : Pipes

namespace Duet

variable {α : Type}

def start (talk : Talk α) (d : Device) : Duet α := ⟨.start talk, .start d.round, fun _ => .fresh, fun _ => .fresh⟩

def hasHungUp (d : Duet α) : Bool :=
  match d.device.talk with
  | .done (.finished _) => true
  | _ => false

def heard (d : Duet α) : Pipes := fun leg => if d.hasHungUp then (d.toDesktop leg).finish else d.toDesktop leg

def stepDesktop (d : Duet α) : Option (Duet α) :=
  (d.desktop.step d.toDevice d.heard).map fun (p, move) =>
    { d with desktop := p, toDevice := move.onOutgoing d.toDevice, toDesktop := move.onIncoming d.toDesktop }

def stepDevice (d : Duet α) : Option (Duet α) :=
  match d.device.talk with
  | .done (.again device) => some { d with device := .start device.round }
  | _ =>
    (d.device.step d.toDesktop d.toDevice).map fun (p, move) =>
      { d with device := p, toDesktop := move.onOutgoing d.toDesktop, toDevice := move.onIncoming d.toDevice }

inductive Steps : Nat → Duet α → Duet α → Prop
  | stay (d : Duet α) : Steps 0 d d
  | desktop {d e f : Duet α} {n : Nat} : d.stepDesktop = some e → Steps n e f → Steps (n + 1) d f
  | device {d e f : Duet α} {n : Nat} : d.stepDevice = some e → Steps n e f → Steps (n + 1) d f

/-- In whatever order the parties move, they come to this end, where neither can move. -/
def Settles (d final : Duet α) : Prop :=
  final.stepDesktop = none ∧ final.stepDevice = none ∧
    ∃ n, ∀ k e, Steps k d e → k ≤ n ∧ Steps (n - k) e final

end Duet

end PimSync.Simulation
