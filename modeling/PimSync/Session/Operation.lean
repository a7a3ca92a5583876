import PimSync.Session.Correspondent

/-! The operations of a session. Each changes the session as it goes, and asks its correspondent; what it has changed
before an error stays changed. -/

namespace PimSync.Session

open Schema

abbrev Procedure (b : Type → Type) (α : Type) := ExceptT SessionError (StateT Session b) α

abbrev Operation (α : Type) := Procedure Talk α

variable {α : Type} {b : Type → Type} [Monad b]

namespace Procedure

def converse (x : b α) : Procedure b α := ExceptT.lift (StateT.lift x)

def ofExcept : Except SessionError α → Procedure b α
  | .ok a => pure a
  | .error e => throw e

def settle (x : Except ExchangeError α) : Procedure b α := ofExcept (x.mapError .exchange)

def schematic (x : Except SchemaError α) : Procedure b α := ofExcept (x.mapError .schema)

def require (operation : String) (least : State) : Procedure b Unit := do
  let s ← get
  if s.state.isConnected ∧ least ≤ s.state then return () else throw (.invalidState operation s.state)

def requireLink (present : Session → Bool) : Procedure b Unit := do
  if present (← get) then return () else throw .notConnected

def cachedFormat (c : Category) : Procedure b Format := do
  match (← get).formatFor? c with
  | some format => return format
  | none => throw (.schema (.formatMissing c))

variable [Correspondent b]

def inquire (m : Message) (reply : MessageType) : Procedure b reply.Payload := do
  requireLink inbound
  let answer ← settle (← converse (Correspondent.ask m))
  match answer.payload? reply with
  | some payload => return payload
  | none => throw (.unexpected reply.name answer.name)

/-- A request that needs at least some state: what it carries, unless the session refuses to make it, and what the
session makes of the reply. -/
def pose (request reply : MessageType) (operation : String) (least : State)
    (content : Session → Except SessionError request.Payload)
    (conclude : reply.Payload → Session → α × Session) : Procedure b α := do
  require operation least
  let payload ← ofExcept (content (← get))
  modifyGet (conclude (← inquire ⟨request, payload⟩ reply))

end Procedure

namespace Operation

def request (r : Request) : Operation r.Answer := Procedure.converse (Talk.request r)

def linked : Except Wire.LinkError α → Operation α
  | .ok a => pure a
  | .error e => throw (.link e)

def exchange (x : Exchange α) : Operation α := do Procedure.settle (← Procedure.converse x.run)

def requireListening (operation : String) : Operation Unit := do
  let s ← get
  if s.state = .listening then return () else throw (.invalidState operation s.state)

end Operation

open Procedure

section Links

open Operation

def listen : Operation Unit := do
  let s ← get
  if ¬ s.state.canListen then throw (.invalidState "listen" s.state)
  linked (← request (.listen s.config.listener))
  modify ({ · with listening := true, device? := none, access? := none, flags? := none, state := .listening })

def connect : Operation Unit := do
  requireListening "connect"
  linked (← request (.dial .outbound (← get).config.device))
  modify ({ · with outbound := true })
  exchange (Exchange.deliver .outbound ready)
  requireLink listening
  let _ ← linked (← request (.accept .inbound))
  modify ({ · with inbound := true, state := .connected })

def acceptDevice : Operation Unit := do
  requireListening "accept_device"
  requireLink listening
  let host ← linked (← request (.accept .inbound))
  modify ({ · with inbound := true })
  match ← exchange (Exchange.collect .inbound) with
  | ⟨.deviceReady, _⟩ => pure ()
  | other => throw (.unexpected "device ready" other.name)
  linked (← request (.dial .outbound ⟨host, (← get).config.device.port⟩))
  modify ({ · with outbound := true })
  exchange (Exchange.deliver .outbound ready)
  modify ({ · with state := .connected })

def finalize : Operation Unit := do
  let s ← get
  if s.inbound then request (.close .inbound)
  if s.outbound then request (.close .outbound)
  if s.listening then request .unlisten
  set { s with
    inbound := false, outbound := false, listening := false, cached? := none
    state := if s.state = State.idle then State.idle else State.disconnected }

end Links

def select (s : Session) (c : Category) : Session :=
  if c = s.category then s
  else
    -- another category has another format
    let fallsBack := State.stateKnown < s.state ∧ s.state.isConnected
    { s with category := c, cached? := none, state := if fallsBack then .stateKnown else s.state }

def selectCategory (c : Category) : Procedure b Unit := modify (·.select c)

def dropFormat (s : Session) : Session :=
  let fallsBack := s.state = .formatKnown ∨ s.state = .iterating ∨ s.state = .done
  { s with cached? := none, state := if fallsBack then .stateKnown else s.state }

def resetFormat : Procedure b Unit := modify dropFormat

variable [Correspondent b]

def requestInfo : Procedure b DeviceInfo :=
  pose .infoRequest .info "request_device_info" .connected (fun _ => .ok ())
    fun info s => (info, { s with device? := some info }.advance .infoKnown)

def authenticate (password : Bytes) : Procedure b Access := do
  require "authenticate" .infoKnown
  requireLink inbound
  let access ← settle (← converse (Correspondent.authorize password))
  modify fun s =>
    let s := { s with access? := some access }
    if access = .granted then s.advance .authenticated else s
  return access

def mayProceed (s : Session) : Prop := ¬ s.device?.any DeviceInfo.requiresAuth ∨ s.access? = some .granted

instance (s : Session) : Decidable s.mayProceed := inferInstanceAs (Decidable (_ ∨ _))

def requestState : Procedure b Flags :=
  pose .stateRequest .state "request_sync_state" .infoKnown
    (fun s => if s.mayProceed then .ok s.category else .error (.invalidState "request_sync_state" s.state))
    fun flags s => (flags, { s with flags? := some flags }.advance .stateKnown)

def flagsReset (s : Session) (c : Category) : Flags := (s.flags?.getD .none).reset c

def resetState (c : Category) : Procedure b Flags :=
  pose .setState .complete "reset_sync_state" .stateKnown (fun s => .ok (s.flagsReset c))
    fun _ s => (s.flagsReset c, { s with flags? := some (s.flagsReset c) })

def obtainFormat : Procedure b Format :=
  pose .formatRequest .format "obtain_param_format" .stateKnown
    (fun s => match s.cached? with
      | some cached => .error (.schema (.alreadyObtained cached.category))
      | none => .ok s.category)
    fun entries s => (entries, { s.advance .formatKnown with cached? := some ⟨s.category, entries⟩ })

def requestIds : Procedure b IdLists :=
  pose .idsRequest .ids "request_sync_ids" .formatKnown (fun s => .ok s.category)
    fun lists s => (lists, s.advance .iterating)

def fetchValues (id : UInt32) : Procedure b Values :=
  pose .itemRequest .item "fetch_param_values" .formatKnown (fun s => .ok ⟨s.category, id⟩)
    fun values s => (values, s.advance .iterating)

def fetchItem (id : UInt32) : Procedure b Item := do
  let _ ← cachedFormat (← get).category
  let values ← fetchValues id
  let c := (← get).category
  schematic (Item.ofValues c (← cachedFormat c) values)

def writeItem (w : ItemWrite) : Procedure b UInt32 :=
  pose .itemWrite .itemWritten "write_item" .formatKnown (fun _ => .ok w) fun id s => (id, s)

def insertItem (item : Item) : Procedure b UInt32 := do
  require "insert_item" .formatKnown
  writeItem ⟨item.category, .insert, item.values (← cachedFormat item.category)⟩

def updateItem (id : UInt32) (item : Item) : Procedure b UInt32 := do
  require "update_item" .formatKnown
  writeItem ⟨item.category, .update id, item.values (← cachedFormat item.category)⟩

def deleteItems (ids : List UInt32) : Procedure b Unit :=
  pose .deleteItems .complete "delete_items" .formatKnown (fun s => .ok ⟨s.category, ids⟩) fun _ s => ((), s)

def markDone : Procedure b Unit :=
  pose .syncDone .complete "mark_done" .formatKnown (fun s => .ok s.category)
    fun _ s => ((), { s with flags? := s.flags?.map (·.mark s.category), state := .done })

def requestTime : Procedure b ClockTime :=
  pose .timeRequest .time "request_time" .connected (fun _ => .ok ()) fun time s => (time, s)

def setTime (time : ClockTime) : Procedure b Unit :=
  pose .setTime .complete "set_time" .connected (fun _ => .ok time) fun _ s => ((), s)

def requestPath : Procedure b String :=
  pose .pathRequest .path "request_storage_path" .connected (fun _ => .ok ())
    fun path s => (Text.Utf8.decode path, s)

def terminate : Procedure b Unit := do
  require "terminate" .connected
  let _ ← inquire ⟨.terminate, ()⟩ .complete
  requireLink outbound
  -- the link is given up whether or not the device takes the last word
  modify ({ · with outbound := false })
  settle (← converse Correspondent.farewell)
  modify ({ · with state := .disconnected })

def pullChanges : Procedure b Changes := do
  require "pull_changes" .stateKnown
  if (← get).format?.isNone then
    let _ ← obtainFormat
  let ids ← requestIds
  let items ← ids.changed.mapM fetchItem
  let s ← get
  return ⟨s.category, s.flags?.all (·.needsSlowSync s.category), ids, items⟩

def initiate : Operation Access := do
  if (← get).state.canListen then listen
  connect
  let info ← requestInfo
  let access ← match (← get).config.password? with
    | some password => authenticate password
    | none => if info.requiresAuth then authenticate [] else pure .granted
  if access = .denied then return access
  let _ ← requestState
  return access

end PimSync.Session
