import PimSync.Device.Respond

/-! The device's side of a conversation: how it meets the desktop, and the rounds of request and reply until the
desktop takes its leave. -/

namespace PimSync.Device

def expectReady : Exchange Unit := do
  match ← Exchange.collect .outbound with
  | ⟨.ready, _⟩ => return ()
  | other => throw (.message "RAY" other.tag.text)

def awaitDesktop (desktop : Endpoint) : Exchange Unit := do
  let _ ← Exchange.linked (← Exchange.request (.accept .outbound))
  expectReady
  Exchange.linked (← Exchange.request (.dial .inbound desktop))

def callDesktop (desktop : Endpoint) : Exchange Unit := do
  Exchange.linked (← Exchange.request (.dial .inbound desktop))
  Exchange.deliver .inbound ⟨.deviceReady, ()⟩
  let _ ← Exchange.linked (← Exchange.request (.accept .outbound))
  expectReady

def give : Reply → Exchange Unit
  | .message m => Exchange.deliver .inbound m
  | .deny => Exchange.refuse .inbound

inductive Served where
  | again (d : Device)
  | finished (result : Except ExchangeError Device)

def conclude (request : Message) (reply : Reply) : Exchange Unit := do
  give reply
  if request.type = .terminate then expectReady

/-- One request and its reply. A desktop that is gone before it has made its request has ended the conversation; one
that goes later has broken it off. -/
def round (d : Device) : Talk Served := do
  match ← (Exchange.collect .inbound).run with
  | .error (.link _) => return .finished (.ok d)
  | .error e => return .finished (.error e)
  | .ok request =>
    match d.respond request with
    | (.error e, _) => return .finished (.error e)
    | (.ok reply, d) =>
      match ← (conclude request reply).run with
      | .error e => return .finished (.error e)
      | .ok () => return if request.type = .terminate then .finished (.ok d) else .again d

def meet (initiating : Bool) (desktop : Endpoint) (d : Device) : Talk Served := do
  match ← (if initiating then callDesktop desktop else awaitDesktop desktop).run with
  | .ok () => return .again d
  | .error e => return .finished (.error e)

def serve : (rounds : Nat) → Served → Talk (Except ExchangeError Device)
  | _, .finished result => return result
  | 0, .again d => return .ok d
  | rounds + 1, .again d => do serve rounds (← round d)

end PimSync.Device
