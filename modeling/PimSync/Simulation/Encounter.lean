import PimSync.Simulation.Duet

/-! A desktop and a device that have yet to find each other. Binding and dialling succeed, a call waits until it is
taken, and whoever wants to take one waits for it. -/

namespace PimSync.Simulation

abbrev Calls := Leg → Nat

namespace Calls

def none : Calls := fun _ => 0

def add (c : Calls) (leg : Leg) : Calls := fun l => if l = leg then c l + 1 else c l

def take (c : Calls) (leg : Leg) : Calls := fun l => if l = leg then c l - 1 else c l

end Calls

inductive Contact where
  | bind
  | dial (leg : Leg)
  | accept (leg : Leg)

namespace Contact

def onOutgoing : Contact → Calls → Calls
  | dial leg, c => c.add leg
  | _, c => c

def onIncoming : Contact → Calls → Calls
  | accept leg, c => c.take leg
  | _, c => c

end Contact

def Voice.contact {α : Type} (p : Voice α) (incoming : Calls) (host : Leg → String) : Option (Voice α × Contact) :=
  match p.talk with
  | .ask (.listen _) next => some (start (next (.ok ())), .bind)
  | .ask (.dial leg _) next => some (start (next (.ok ())), .dial leg)
  | .ask (.accept leg) next => if incoming leg = 0 then none else some (start (next (.ok (host leg))), .accept leg)
  | _ => none

structure Encounter (α : Type) where
  duet : Duet α
  toDevice : Calls
  toDesktop : Calls
  host : Leg → String

namespace Encounter

variable {α : Type}

def start (talk : Talk α) (d : Device) (desktop : Endpoint) (host : Leg → String) : Encounter α where
  duet := ⟨.start talk, .start (d.meet false desktop), fun _ => .fresh, fun _ => .fresh⟩
  toDevice := .none
  toDesktop := .none
  host := host

def between (initiating : Bool) (talk : Talk α) (d : Device) (desktop : Endpoint) (host : Leg → String) :
    Encounter α :=
  { start talk d desktop host with
    duet := ⟨.start talk, .start (d.meet initiating desktop), fun _ => .fresh, fun _ => .fresh⟩ }

def stepDesktop (e : Encounter α) : Option (Encounter α) :=
  match e.duet.desktop.contact e.toDesktop e.host with
  | some (p, x) => some { e with
      duet := { e.duet with desktop := p }
      toDevice := x.onOutgoing e.toDevice
      toDesktop := x.onIncoming e.toDesktop }
  | none => e.duet.stepDesktop.map fun d => { e with duet := d }

def stepDevice (e : Encounter α) : Option (Encounter α) :=
  match e.duet.device.contact e.toDevice e.host with
  | some (p, x) => some { e with
      duet := { e.duet with device := p }
      toDesktop := x.onOutgoing e.toDesktop
      toDevice := x.onIncoming e.toDevice }
  | none => e.duet.stepDevice.map fun d => { e with duet := d }

def Moves (d e : Encounter α) : Prop := d.stepDesktop = some e ∨ d.stepDevice = some e

end Encounter

end PimSync.Simulation
