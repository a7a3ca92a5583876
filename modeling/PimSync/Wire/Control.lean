import PimSync.Bytes

namespace PimSync.Wire

inductive Control where
  | acknowledge
  | request
  | abort
deriving DecidableEq

namespace Control

def lead : Bytes := [0x00, 0x00, 0x00, 0x00, 0x00, 0x96]

def marker : Control → UInt8
  | acknowledge => 0x06
  | request => 0x05
  | abort => 0x18

def ofMarker? : UInt8 → Option Control
  | 0x06 => some acknowledge
  | 0x05 => some request
  | 0x18 => some abort
  | _ => none

def frame (c : Control) : Bytes := lead ++ [c.marker]

def ofFrame? (frame : Block 7) : Option Control :=
  if frame.val.take 6 = lead then (frame.val[6]?).bind ofMarker? else none

def name : Control → String
  | acknowledge => "ACK"
  | request => "REQ"
  | abort => "ABORT"

end Control

end PimSync.Wire
