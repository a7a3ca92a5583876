import PimSync.Device.Serve
import PimSync.Simulation.Tape

/-! Desktop and device over two links. The network of the desktop is the device itself: whenever the desktop has done
something, the device goes on until it waits. -/

namespace PimSync.Simulation

open Wire

structure Line where
  toDevice : Bytes
  toDesktop : Bytes
  deserted : Bool
deriving DecidableEq

def Line.fresh : Line := ⟨[], [], false⟩

inductive Party where
  | talking (talk : Talk Device.Served)
  | gone (result : Except ExchangeError Device)

/-- `dialled`: the desktop has dialled and the device is to accept; `met`: the device has accepted; `calling`: the
device has called and the desktop is to accept. -/
structure Meeting where
  device : Party
  inbound : Line
  outbound : Line
  listening : Bool
  dialled : Bool
  met : Bool
  calling : Bool

namespace Meeting

def desktopEndpoint : Endpoint := ⟨"127.0.0.1", 0⟩

def line (m : Meeting) : Leg → Line
  | .inbound => m.inbound
  | .outbound => m.outbound

def setLine (m : Meeting) (leg : Leg) (l : Line) : Meeting :=
  match leg with
  | .inbound => { m with inbound := l }
  | .outbound => { m with outbound := l }

def answerDevice (m : Meeting) : (r : Request) → Option (r.Answer × Meeting)
  | .accept _ =>
    if m.dialled then some (.ok desktopEndpoint.host, { m with dialled := false, met := true }) else none
  | .dial _ address =>
    if m.listening then some (.ok (), { m with calling := true, inbound := .fresh })
    else some (.error (.connect address.text "Connection refused"), m)
  | .send leg p =>
    let l := m.line leg
    some (.ok (), m.setLine leg { l with toDesktop := l.toDesktop ++ p.bytes })
  | .receive leg =>
    let l := m.line leg
    match Packet.scan l.toDevice with
    | .packet p rest => some (.ok p, m.setLine leg { l with toDevice := rest })
    | .tooShort size rest =>
      some (.error (.coding (.bodyTooShort size)), m.setLine leg { l with toDevice := rest })
    | .needs total =>
      if l.deserted then some (.error (.link (Packet.ended l.toDevice.length total)), m) else none
  | .listen _ => some (.ok (), m)
  | .unlisten | .close _ => some ((), m)

def advance : Talk Device.Served → Meeting → Talk Device.Served × Meeting
  | .done s, m => (.done s, m)
  | .ask r next, m =>
    match m.answerDevice r with
    | none => (.ask r next, m)
    | some (answer, m) => advance (next answer) m

def settleFor : Nat → Meeting → Meeting
  | 0, m => m
  | rounds + 1, m =>
    match m.device with
    | .gone _ => m
    | .talking talk =>
      match advance talk m with
      | (.done (.finished result), m) => { m with device := .gone result }
      | (.done (.again d), m) => settleFor rounds { m with device := .talking d.round }
      | (talk, m) => { m with device := .talking talk }

def settle (m : Meeting) : Meeting := settleFor (m.inbound.toDevice.length + 3) m

def isGone (m : Meeting) : Bool :=
  match m.device with
  | .gone _ => true
  | .talking _ => false

def desert (m : Meeting) (leg : Leg) : Meeting := m.setLine leg { m.line leg with deserted := true }

def network : Network Meeting
  | .listen _, m => some (.ok (), { m with listening := true })
  | .unlisten, m =>
    let m := { m with listening := false }
    some ((), if m.calling then settle ({ m with calling := false }.desert .inbound) else m)
  | .dial _ address, m =>
    if m.isGone ∨ m.met ∨ m.dialled then some (.error (.connect address.text "Connection refused"), m)
    else some (.ok (), settle { m with dialled := true, outbound := .fresh })
  | .accept _, m => if m.calling then some (.ok desktopEndpoint.host, { m with calling := false }) else none
  | .send leg p, m =>
    let l := m.line leg
    some (.ok (), settle (m.setLine leg { l with toDevice := l.toDevice ++ p.bytes }))
  | .receive leg, m =>
    let l := m.line leg
    match Packet.scan l.toDesktop with
    | .packet p rest => some (.ok p, m.setLine leg { l with toDesktop := rest })
    | .tooShort size rest =>
      some (.error (.coding (.bodyTooShort size)), m.setLine leg { l with toDesktop := rest })
    | .needs total =>
      if m.isGone then
        some (.error (.link (Packet.ended l.toDesktop.length total)), m.setLine leg { l with toDesktop := [] })
      else none
  | .close leg, m => some ((), settle (m.desert leg))

def start (initiating listening : Bool) (d : Device) : Meeting :=
  settle ⟨.talking (d.meet initiating desktopEndpoint), .fresh, .fresh, listening, false, false, false⟩

def visit : Talk Unit := do
  let _ ← Talk.request (.dial .outbound desktopEndpoint)
  Talk.request (.close .outbound)

def result? (m : Meeting) : Option (Except ExchangeError Device) :=
  match m.device with
  | .gone result => some result
  | .talking _ => none

end Meeting

end PimSync.Simulation
