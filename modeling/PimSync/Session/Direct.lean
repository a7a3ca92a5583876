import PimSync.Device.Respond
import PimSync.Session.Action

/-! A session that has its device at hand: each of its requests is a call of the device, with no link between them. -/

namespace PimSync

structure Turn where
  request : Message
  reply : Except ExchangeError Device.Reply

structure Desk where
  device : Device
  turns : List Turn

abbrev Direct := StateM Desk

namespace Direct

def respond (m : Message) : Direct (Except ExchangeError Device.Reply) := do
  let desk ← get
  let (reply, device) := desk.device.respond m
  set (⟨device, desk.turns ++ [⟨m, reply⟩]⟩ : Desk)
  return reply

def answer : Device.Reply → Except ExchangeError Message
  | .message m => .ok m
  | .deny => .error (.message "message" Wire.Control.abort.name)

def verdict : Device.Reply → Except ExchangeError Access
  | .message ⟨.authNotRequired, _⟩ => .ok .granted
  | .message other => .error (.message "auth not required" other.name)
  | .deny => .ok .denied

end Direct

instance : Correspondent Direct where
  ask m := return (← Direct.respond m).bind Direct.answer
  authorize password := return (← Direct.respond ⟨.authRequest, password⟩).bind Direct.verdict
  farewell := return .ok ()

namespace Session

abbrev runAt {α : Type} (x : StateT Session Direct α) (s : Session) (desk : Desk) : (α × Session) × Desk :=
  (x.run s).run desk

def atHand (s : Session) (errands : List Errand) (d : Device) : (List Outcome × Session) × Desk :=
  runAt (performAll errands) s ⟨d, []⟩

end Session

end PimSync
