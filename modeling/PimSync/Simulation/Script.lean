import PimSync.Simulation.Tape

namespace PimSync.Simulation

open Wire

structure Connection where
  outbound : Bytes
  inbound : Bytes
deriving DecidableEq

structure Call where
  connection : Connection
  outbound? : Option Tape
  inbound? : Option Tape
deriving DecidableEq

namespace Call

def openOutbound (c : Call) : Call := { c with outbound? := some (.ofInput c.connection.outbound) }

def openInbound (c : Call) : Call := { c with inbound? := some (.ofInput c.connection.inbound) }

def tape? (c : Call) : Leg → Option Tape
  | .outbound => c.outbound?
  | .inbound => c.inbound?

def setTape (c : Call) (leg : Leg) (t : Tape) : Call :=
  match leg with
  | .outbound => { c with outbound? := some t }
  | .inbound => { c with inbound? := some t }

end Call

/-- The calls are known by their position. `used` of them are begun; those in `waiting` are to be accepted; `caller?`
has called first and is to be dialled back; each leg of the desktop is on one of them. -/
structure Script where
  calls : List Call
  used : Nat
  waiting : List Nat
  caller? : Option Nat
  outbound? : Option Nat
  inbound? : Option Nat
  portTaken : Bool
  held : Bool
deriving DecidableEq

namespace Script

def ofConnections (connections : List Connection) (portTaken : Bool) : Script where
  calls := connections.map (⟨·, none, none⟩)
  used := 0
  waiting := []
  caller? := none
  outbound? := none
  inbound? := none
  portTaken := portTaken
  held := false

def leg? (s : Script) : Leg → Option Nat
  | .outbound => s.outbound?
  | .inbound => s.inbound?

def edit (s : Script) (i : Nat) (f : Call → Call) : Script := { s with calls := s.calls.modify i f }

def callIn (s : Script) : Script :=
  if s.used < s.calls.length then
    { s.edit s.used Call.openInbound with
      used := s.used + 1, waiting := s.waiting ++ [s.used], caller? := some s.used }
  else s

def hangUp (s : Script) : Script := { s with caller? := none }

def dial (s : Script) : Option Script :=
  match s.caller? with
  | some i => some { s.edit i Call.openOutbound with caller? := none, outbound? := some i }
  | none =>
    if s.used < s.calls.length then
      some { s.edit s.used (Call.openInbound ∘ Call.openOutbound) with
        used := s.used + 1, waiting := s.waiting ++ [s.used], outbound? := some s.used }
    else none

def onTape {α : Type} (s : Script) (leg : Leg) (missing : α) (f : Tape → α × Tape) : α × Script :=
  match s.leg? leg with
  | none => (missing, s)
  | some i =>
    match s.calls[i]?.bind (·.tape? leg) with
    | none => (missing, s)
    | some tape =>
      let (answer, tape) := f tape
      (answer, s.edit i (·.setTape leg tape))

def network : Network Script
  | .listen address, s =>
    if s.portTaken ∨ s.held then some (.error (.bind address.text "Address already in use"), s)
    else some (.ok (), { s with held := true })
  | .unlisten, s => some ((), { s with held := false, waiting := [] })
  | .dial _ address, s =>
    match s.dial with
    | some s => some (.ok (), s)
    | none => some (.error (.connect address.text "Connection refused"), s)
  | .accept _, s =>
    match s.waiting with
    | i :: waiting => some (.ok "127.0.0.1", { s with waiting, inbound? := some i })
    | [] => none
  | .send leg p, s => some (s.onTape leg (.error .closed) (·.send p))
  | .receive leg, s => some (s.onTape leg (.error (.link .closed)) (·.receive))
  | .close _, s => some ((), s)

def sent (s : Script) : List (Option Bytes × Option Bytes) :=
  s.calls.map fun c => (c.outbound?.map Tape.written, c.inbound?.map Tape.written)

end Script

end PimSync.Simulation
