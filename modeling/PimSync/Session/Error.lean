import PimSync.Schema.Error
import PimSync.Session.State
import PimSync.Talk.Exchange

namespace PimSync.Session

open Schema

inductive SessionError where
  | exchange (e : ExchangeError)
  | schema (e : SchemaError)
  | invalidState (operation : String) (state : State)
  | notConnected
deriving DecidableEq

namespace SessionError

def link (e : Wire.LinkError) : SessionError := exchange (.link e)

def unexpected (expected actual : String) : SessionError := exchange (.message expected actual)

def message : SessionError → String
  | exchange (.link e) => s!"transport error: {e.message}"
  | exchange (.coding e) => s!"codec error: {e.message}"
  | schema e => s!"schema error: {e.message}"
  | exchange (.control expected actual) => s!"expected {expected.name} control frame, got {actual}"
  | exchange (.message expected actual) => s!"expected {expected}, got {actual}"
  | invalidState operation state => s!"{operation} is not allowed in state {state.name}"
  | notConnected => "not connected to device"

def code : SessionError → Int
  | exchange (.link _) => -1
  | exchange (.coding _) => -2
  | schema _ => -3
  | exchange (.control ..) => -4
  | exchange (.message ..) => -5
  | invalidState .. => -6
  | notConnected => -7

def isFatal : SessionError → Bool
  | exchange (.link _) | exchange (.coding _) => true
  | _ => false

def isPeerClosed : SessionError → Bool
  | exchange (.link e) => e.isPeerClosed
  | _ => false

end SessionError

end PimSync.Session
