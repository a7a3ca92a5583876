import PimSync.Talk.Basic

/-! Each message crosses between a request by its receiver and an acknowledgement by its receiver. -/

namespace PimSync

open Wire

inductive ExchangeError where
  | link (e : LinkError)
  | coding (e : CodingError)
  | control (expected : Control) (actual : String)
  | message (expected actual : String)
deriving DecidableEq

def ExchangeError.ofWire : WireError → ExchangeError
  | .link e => link e
  | .coding e => coding e

abbrev Exchange (α : Type) := ExceptT ExchangeError Talk α

namespace Exchange

def request (r : Request) : Exchange r.Answer := ExceptT.lift (Talk.request r)

def linked {α : Type} : Except LinkError α → Exchange α
  | .ok a => pure a
  | .error e => throw (.link e)

def coded {α : Type} : Except CodingError α → Exchange α
  | .ok a => pure a
  | .error e => throw (.coding e)

def send (leg : Leg) (p : Packet) : Exchange Unit := do linked (← request (.send leg p))

def sendControl (leg : Leg) (c : Control) : Exchange Unit := send leg (.control c)

def sendMessage (leg : Leg) (m : Message) : Exchange Unit := do send leg (.message (← coded m.frame))

def receive (leg : Leg) : Exchange Packet := do
  match ← request (.receive leg) with
  | .ok p => return p
  | .error e => throw (.ofWire e)

def expectControl (leg : Leg) (expected : Control) : Exchange Unit := do
  let p ← receive leg
  if p = .control expected then return () else throw (.control expected p.name)

def receiveMessage (leg : Leg) : Exchange Message := do
  match ← receive leg with
  | .message f => coded (Message.ofFrame f)
  | .control c => throw (.message "message" c.name)

def deliver (leg : Leg) (m : Message) : Exchange Unit := do
  expectControl leg .request
  sendMessage leg m
  expectControl leg .acknowledge

def collect (leg : Leg) : Exchange Message := do
  sendControl leg .request
  let m ← receiveMessage leg
  sendControl leg .acknowledge
  return m

def refuse (leg : Leg) : Exchange Unit := do
  expectControl leg .request
  sendControl leg .abort
  sendMessage leg ⟨.authDenied, ()⟩
  expectControl leg .acknowledge

end Exchange

end PimSync
