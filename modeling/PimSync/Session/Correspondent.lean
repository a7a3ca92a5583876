import PimSync.Session.Basic

/-! Whom a session asks. Over links each message is an exchange. -/

namespace PimSync

open Wire

class Correspondent (b : Type → Type) where
  ask : Message → b (Except ExchangeError Message)
  authorize : Bytes → b (Except ExchangeError Access)
  farewell : b (Except ExchangeError Unit)

def ready : Message := ⟨.ready, ()⟩

namespace Exchange

def ask (m : Message) : Exchange Message := do
  deliver .inbound m
  collect .inbound

def readAccess : Exchange Access := do
  sendControl .inbound .request
  match ← receive .inbound with
  | .message f =>
    let reply ← coded (Message.ofFrame f)
    sendControl .inbound .acknowledge
    match reply with
    | ⟨.authNotRequired, _⟩ => return .granted
    | other => throw (.message "auth not required" other.name)
  | .control .abort =>
    let reply ← receiveMessage .inbound
    sendControl .inbound .acknowledge
    match reply with
    | ⟨.authDenied, _⟩ => return .denied
    | other => throw (.message "auth denied" other.name)
  | .control c => throw (.message "auth response" c.name)

def authorize (password : Bytes) : Exchange Access := do
  deliver .inbound ⟨.authRequest, password⟩
  readAccess

end Exchange

def Talk.farewell : Talk (Except ExchangeError Unit) := do
  let answer ← (Exchange.deliver .outbound ready).run
  Talk.request (.close .outbound)
  return answer

instance : Correspondent Talk where
  ask m := (Exchange.ask m).run
  authorize password := (Exchange.authorize password).run
  farewell := Talk.farewell

end PimSync
