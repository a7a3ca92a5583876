import PimSync.Talk.Basic
import Std.Internal.UV.DNS
import Std.Internal.UV.TCP

namespace PimSync

open Wire Std.Net Std.Internal.UV
open TCP (Socket)

structure Sockets where
  listener? : Option Socket
  inbound? : Option Socket
  outbound? : Option Socket

namespace Sockets

def closed : Sockets := ⟨none, none, none⟩

def leg? (s : Sockets) : Leg → Option Socket
  | .inbound => s.inbound?
  | .outbound => s.outbound?

def setLeg (s : Sockets) (leg : Leg) (socket? : Option Socket) : Sockets :=
  match leg with
  | .inbound => { s with inbound? := socket? }
  | .outbound => { s with outbound? := socket? }

def settle {α : Type} (begin : IO (IO.Promise (Except IO.Error α))) : IO α := do
  match ← IO.wait (← begin).result? with
  | some (.ok a) => return a
  | some (.error e) => throw e
  | none => throw (IO.userError "abandoned")

def attempt {α ε : Type} (fault : String → ε) (action : IO α) : IO (Except ε α) := do
  match ← action.toBaseIO with
  | .ok a => return .ok a
  | .error e => return .error (fault (toString e))

def address (e : Endpoint) : IO SocketAddress := do
  let hosts ← settle (DNS.getAddrInfo e.host "" 0)
  match hosts.toList with
  | .v4 host :: _ => return .v4 ⟨host, e.port⟩
  | .v6 host :: _ => return .v6 ⟨host, e.port⟩
  | [] => throw (IO.userError "no address")

def host : SocketAddress → String
  | .v4 a => a.addr.toString
  | .v6 a => a.addr.toString

def listenAt (e : Endpoint) : IO Socket := do
  let socket ← Socket.new
  socket.bind (← address e)
  socket.listen 128
  return socket

def dial (e : Endpoint) : IO Socket := do
  let socket ← Socket.new
  settle (socket.connect (← address e))
  socket.noDelay
  return socket

def accept (listener : Socket) : IO (Socket × String) := do
  let socket ← settle listener.accept
  socket.noDelay
  return (socket, host (← socket.getPeerName))

def receive (socket : Socket) : Nat → Bytes → IO (Except WireError Packet)
  | 0, _ => return .error (.link .closed)
  | steps + 1, got =>
    match Packet.scan got with
    | .packet p _ => return .ok p
    | .tooShort size _ => return .error (.coding (.bodyTooShort size))
    | .needs total => do
      match ← attempt (.io "recv") (settle (socket.recv? (total - got.length).toUInt64)) with
      | .error e => return .error (.link e)
      | .ok none => return .error (.link (Packet.ended got.length total))
      | .ok (some bytes) => receive socket steps (got ++ bytes.toList)

def receiveSteps : Nat := 17 + 65535 + 1

def answer (s : Sockets) : (r : Request) → IO (r.Answer × Sockets)
  | .listen address => do
    match ← attempt (.bind address.text) (listenAt address) with
    | .ok socket => return (.ok (), { s with listener? := some socket })
    | .error e => return (.error e, s)
  | .unlisten => return ((), { s with listener? := none })
  | .accept leg => do
    match s.listener? with
    | none => return (.error (.accept "not listening"), s)
    | some listener =>
      match ← attempt .accept (accept listener) with
      | .ok (socket, host) => return (.ok host, s.setLeg leg (some socket))
      | .error e => return (.error e, s)
  | .dial leg address => do
    match ← attempt (.connect address.text) (dial address) with
    | .ok socket => return (.ok (), s.setLeg leg (some socket))
    | .error e => return (.error e, s)
  | .send leg p => do
    match s.leg? leg with
    | none => return (.error .closed, s)
    | some socket => return (← attempt (.io "send") (settle (socket.send #[⟨p.bytes.toArray⟩])), s)
  | .receive leg => do
    match s.leg? leg with
    | none => return (.error (.link .closed), s)
    | some socket => return (← receive socket receiveSteps [], s)
  | .close leg => do
    if let some socket := s.leg? leg then
      let _ ← attempt id (settle socket.shutdown)
    return ((), s.setLeg leg none)

end Sockets

def Talk.carryOut {α : Type} (tell : Event → IO Unit) : Talk α → Sockets → IO α
  | done a, _ => return a
  | ask r next, s => do
    let (answer, s) ← s.answer r
    tell ⟨r, answer⟩
    (next answer).carryOut tell s

end PimSync
