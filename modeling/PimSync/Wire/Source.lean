import PimSync.Wire.Packet

namespace PimSync.Wire

inductive Delivery where
  | data (bytes : Bytes)
  | interrupted
  | failed (cause : String)
  | ended
deriving DecidableEq

abbrev Source := List Delivery

namespace Source

inductive Stop where
  | ended
  | failed (cause : String)
deriving DecidableEq

structure Gathered where
  bytes : Bytes
  stop? : Option Stop
  rest : Source

def gather (source : Source) (wanted : Nat) : Gathered := go [] wanted source
where
  go (pieces : List Bytes) : Nat → Source → Gathered
    | 0, source => ⟨pieces.reverse.flatten, none, source⟩
    | _ + 1, [] => ⟨pieces.reverse.flatten, some .ended, []⟩
    | _ + 1, .ended :: rest => ⟨pieces.reverse.flatten, some .ended, rest⟩
    | _ + 1, .failed cause :: rest => ⟨pieces.reverse.flatten, some (.failed cause), rest⟩
    | wanted + 1, .interrupted :: rest => go pieces (wanted + 1) rest
    | wanted + 1, .data bytes :: rest =>
      let piece := bytes.take (wanted + 1)
      if piece.length = wanted + 1 then
        ⟨(piece :: pieces).reverse.flatten, none, .data (bytes.drop (wanted + 1)) :: rest⟩
      else go (piece :: pieces) (wanted + 1 - piece.length) rest

structure Reading where
  result : Except WireError Packet
  consumed : Nat
  rest : Source

/-- Reads on until the bytes at hand are a packet, and never beyond it. The first argument bounds the reads: a packet
needs at most three. -/
def readFrom : Nat → Bytes → Source → Reading
  | 0, got, source => ⟨.error (.link .closed), got.length, source⟩
  | steps + 1, got, source =>
    match Packet.scan got with
    | .packet p _ => ⟨.ok p, got.length, source⟩
    | .tooShort size _ => ⟨.error (.coding (.bodyTooShort size)), got.length, source⟩
    | .needs total =>
      let part := source.gather (total - got.length)
      let got := got ++ part.bytes
      match part.stop? with
      | none => readFrom steps got part.rest
      | some .ended => ⟨.error (.link (Packet.ended got.length total)), got.length, part.rest⟩
      | some (.failed cause) => ⟨.error (.link (.io "recv" cause)), got.length, part.rest⟩

def read (source : Source) : Reading := readFrom 4 [] source

end Source

end PimSync.Wire
