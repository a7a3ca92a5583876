import PimSync.Message.Basic

/-! Conversations over two links. The same talk can be run against any network. -/

namespace PimSync

open Wire

inductive Leg where
  | inbound
  | outbound
deriving DecidableEq

namespace Leg

def name : Leg → String
  | inbound => "inbound"
  | outbound => "outbound"

end Leg

structure Endpoint where
  host : String
  port : UInt16
deriving DecidableEq

def Endpoint.text (e : Endpoint) : String := s!"{e.host}:{e.port.toNat}"

inductive Request where
  | listen (address : Endpoint)
  | unlisten
  | accept (leg : Leg)
  | dial (leg : Leg) (address : Endpoint)
  | send (leg : Leg) (p : Packet)
  | receive (leg : Leg)
  | close (leg : Leg)
deriving DecidableEq

abbrev Request.Answer : Request → Type
  | listen _ | dial .. | send .. => Except LinkError Unit
  | accept _ => Except LinkError String
  | receive _ => Except WireError Packet
  | unlisten | close _ => Unit

inductive Talk (α : Type) where
  | done (a : α)
  | ask (r : Request) (next : r.Answer → Talk α)

/-- A network answers requests and changes as it does. Where it has no answer, the party waits for good. -/
abbrev Network (σ : Type) := (r : Request) → σ → Option (r.Answer × σ)

def Network.outOfReach {σ : Type} (network : Network σ) : Network σ
  | .dial .., _ | .accept _, _ => none
  | r, s => network r s

structure Event where
  request : Request
  answer : request.Answer

namespace Talk

variable {α β σ : Type}

def bind : Talk α → (α → Talk β) → Talk β
  | done a, f => f a
  | ask r next, f => ask r fun answer => (next answer).bind f

instance : Monad Talk where
  pure := done
  bind := bind

def request (r : Request) : Talk r.Answer := ask r done

def run (network : Network σ) : Talk α → σ → Option (α × σ × List Event)
  | done a, s => some (a, s, [])
  | ask r next, s =>
    match network r s with
    | none => none
    | some (answer, s) =>
      ((next answer).run network s).map fun (a, s, events) => (a, s, ⟨r, answer⟩ :: events)

end Talk

end PimSync
