import PimSync.Talk.Exchange
import PimSync.Wire.Sink
import PimSync.Wire.Source

namespace PimSync

open Wire

structure Duplex where
  source : Source
  sink : Sink

def Duplex.network : Network Duplex
  | .send _ p, d =>
    let (answer, sink) := d.sink.write p
    some (answer, { d with sink })
  | .receive _, d => some (d.source.read.result, { d with source := d.source.read.rest })
  | _, _ => none

namespace Channel

inductive Operation where
  | sendControl (c : Control)
  | sendMessage (m : Message)
  | receive
  | expectControl (c : Control)
  | receiveMessage
  | deliver (m : Message)
  | collect

namespace Operation

abbrev Result : Operation → Type
  | receive => Packet
  | receiveMessage | collect => Message
  | sendControl _ | sendMessage _ | expectControl _ | deliver _ => Unit

def perform (leg : Leg) : (op : Operation) → Exchange op.Result
  | sendControl c => Exchange.sendControl leg c
  | sendMessage m => Exchange.sendMessage leg m
  | receive => Exchange.receive leg
  | expectControl c => Exchange.expectControl leg c
  | receiveMessage => Exchange.receiveMessage leg
  | deliver m => Exchange.deliver leg m
  | collect => Exchange.collect leg

end Operation

structure Outcome where
  operation : Operation
  result : Except ExchangeError operation.Result

def performAll (leg : Leg) : List Operation → Talk (List Outcome)
  | [] => return []
  | op :: ops => do
    let result ← (op.perform leg).run
    return ⟨op, result⟩ :: (← performAll leg ops)

end Channel

end PimSync
