import PimSync.Session.Correspondent
import PimSync.Simulation.Duet

/-! Two parties that talk over two links and nothing else. They move in any order, and what has been written can be
read in pieces of any size. -/

namespace PimSync.Simulation

open Wire

inductive Voice.Acts {α : Type} : Voice α → Pipes → Pipes → Voice α → Pipes → Pipes → Prop
  | step {p q : Voice α} {outgoing incoming : Pipes} {x : Move} :
      p.step outgoing incoming = some (q, x) →
      Acts p outgoing incoming q (x.onOutgoing outgoing) (x.onIncoming incoming)
  | write {leg : Leg} {packet : Packet} {next : Except LinkError Unit → Talk α} {moved part : Bytes}
      {outgoing incoming : Pipes} :
      part ≠ [] → moved ++ part <+: packet.bytes → (outgoing leg).ended = false →
      Acts ⟨.ask (.send leg packet) next, moved⟩ outgoing incoming ⟨.ask (.send leg packet) next, moved ++ part⟩
        (outgoing.edit leg fun p => { p with bytes := p.bytes ++ part }) incoming
  | read {leg : Leg} {next : Except WireError Packet → Talk α} {moved part rest : Bytes} {total : Nat}
      {outgoing incoming : Pipes} :
      part ≠ [] → Packet.scan moved = .needs total → moved.length + part.length ≤ total →
      (outgoing leg).ended = false → (incoming leg).bytes = part ++ rest →
      Acts ⟨.ask (.receive leg) next, moved⟩ outgoing incoming ⟨.ask (.receive leg) next, moved ++ part⟩
        outgoing (incoming.edit leg fun p => { p with bytes := rest })

def Voice.Starves {α : Type} (p : Voice α) (incoming : Pipes) : Prop :=
  ∃ leg next total, p.talk = .ask (.receive leg) next ∧ Packet.scan p.moved = .needs total ∧
    (incoming leg).bytes = []

structure Dialogue (α β : Type) where
  desktop : Voice α
  device : Voice β
  toDevice : Pipes
  toDesktop : Pipes

namespace Dialogue

variable {α β : Type}

def start (t : Talk α) (u : Talk β) : Dialogue α β := ⟨.start t, .start u, fun _ => .fresh, fun _ => .fresh⟩

inductive Step : Dialogue α β → Dialogue α β → Prop
  | desktop {p q : Voice α} {v : Voice β} {a b a' b' : Pipes} : p.Acts a b q a' b' → Step ⟨p, v, a, b⟩ ⟨q, v, a', b'⟩
  | device {p : Voice α} {v w : Voice β} {a b a' b' : Pipes} : v.Acts b a w b' a' → Step ⟨p, v, a, b⟩ ⟨p, w, a', b'⟩

def Deadlocked (d : Dialogue α β) : Prop := d.desktop.Starves d.toDesktop ∧ d.device.Starves d.toDevice

end Dialogue

structure Post where
  message : Message
  toDevice : Bool

namespace Post

def handle (leg : Leg) (own : Bool) (p : Post) : Exchange (Option Message) :=
  if own then do
    Exchange.deliver leg p.message
    return none
  else do return some (← Exchange.collect leg)

def converse (leg : Leg) (own : Post → Bool) (posts : List Post) :
    Talk (List (Except ExchangeError (Option Message))) :=
  posts.mapM fun p => (p.handle leg (own p)).run

def turnDown (leg : Leg) : Talk (Except ExchangeError Message × Except ExchangeError Unit) := do
  let asked ← (Exchange.collect leg).run
  return (asked, ← (Exchange.refuse leg).run)

end Post

end PimSync.Simulation
