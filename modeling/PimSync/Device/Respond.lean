import PimSync.Device.Basic
import PimSync.Talk.Exchange

/-! How a device answers a request. A locked device tells what it is, takes a password and lets go; it refuses
everything else. -/

namespace PimSync.Device

open Schema

inductive Reply where
  | message (m : Message)
  | deny
deriving DecidableEq

def isOpen : MessageType → Bool
  | .infoRequest | .authRequest | .terminate => true
  | _ => false

def complete : Reply := .message ⟨.complete, ()⟩

def authorize (d : Device) (password : Bytes) : Reply × Device :=
  if d.password?.all (· = password) then (.message ⟨.authNotRequired, ()⟩, { d with unlocked := true })
  else (.deny, d)

def consult (d : Device) (c : Category) (view : Collection → Message) : Reply × Device :=
  (.message (view (d.collection c)), d.setCollection c (d.collection c))

def erase (d : Device) (c : Category) (ids : List UInt32) : Device :=
  d.setCollection c { d.collection c with items := ids.foldl Store.erase (d.collection c).items }

def write (d : Device) (w : ItemWrite) : Reply × Device :=
  match w.target with
  | .insert => stored d.nextId { d with nextId := d.nextId + 1 }
  | .update id | .flagged id _ => stored id d
where
  stored (id : UInt32) (d : Device) : Reply × Device :=
    (.message ⟨.itemWritten, id⟩, d.store w.category id w.values)

def answer (d : Device) : Message → Except ExchangeError (Reply × Device)
  | ⟨.infoRequest, _⟩ => .ok (.message ⟨.info, d.info⟩, d)
  | ⟨.authRequest, password⟩ => .ok (d.authorize password)
  | ⟨.timeRequest, _⟩ => .ok (.message ⟨.time, d.time⟩, d)
  | ⟨.setTime, time⟩ => .ok (complete, { d with time })
  | ⟨.pathRequest, _⟩ => .ok (.message ⟨.path, d.storagePath⟩, d)
  | ⟨.stateRequest, _⟩ => .ok (.message ⟨.state, d.flags⟩, d)
  | ⟨.setState, flags⟩ => .ok (complete, { d with flags })
  | ⟨.formatRequest, c⟩ => .ok (d.consult c fun x => ⟨.format, x.format⟩)
  | ⟨.idsRequest, c⟩ => .ok (d.consult c fun x => ⟨.ids, x.ids⟩)
  | ⟨.itemRequest, key⟩ => .ok (d.consult key.category fun x => ⟨.item, (x.items.get? key.id).getD []⟩)
  | ⟨.deleteItems, deletion⟩ => .ok (complete, d.erase deletion.category deletion.ids)
  | ⟨.itemWrite, w⟩ => .ok (d.write w)
  | ⟨.syncDone, c⟩ => .ok (complete, { d with flags := d.flags.mark c })
  | ⟨.terminate, _⟩ => .ok (complete, d)
  | other => .error (.message "desktop request" other.tag.text)

def record (d : Device) (request : Message) : Device := { d with requests := d.requests ++ [request] }

def respond (d : Device) (request : Message) : Except ExchangeError Reply × Device :=
  let d := d.record request
  if ¬ d.unlocked ∧ ¬ isOpen request.type then (.ok .deny, d)
  else match d.answer request with
    | .ok (reply, d) => (.ok reply, d)
    | .error e => (.error e, d)

def errorMessage : ExchangeError → String
  | .link e => e.message
  | .coding e => e.message
  | .control expected actual => s!"device expected {expected.name}, got {actual}"
  | .message expected actual => s!"device expected {expected}, got {actual}"

end PimSync.Device
