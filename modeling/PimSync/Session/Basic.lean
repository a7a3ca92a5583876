import PimSync.Item.Values
import PimSync.Session.Error

namespace PimSync

open Schema

structure Config where
  device : Endpoint
  listener : Endpoint
  password? : Option Bytes
  category : Category
deriving DecidableEq

namespace Config

def devicePort : UInt16 := 4244

def desktopPort : UInt16 := 4245

def new (deviceHost : String) : Config := ⟨⟨deviceHost, devicePort⟩, ⟨"0.0.0.0", desktopPort⟩, none, .todo⟩

def standard : Config := new "127.0.0.1"

end Config

inductive Access where
  | granted
  | denied
deriving DecidableEq

def Access.name : Access → String
  | .granted => "not_required"
  | .denied => "denied"

namespace Session

structure CachedFormat where
  category : Category
  entries : Format
deriving DecidableEq

structure Changes where
  category : Category
  slowSync : Bool
  ids : IdLists
  items : List Item
deriving DecidableEq

end Session

structure Session where
  config : Config
  state : Session.State
  listening : Bool
  inbound : Bool
  outbound : Bool
  device? : Option DeviceInfo
  access? : Option Access
  category : Category
  flags? : Option Flags
  cached? : Option Session.CachedFormat
deriving DecidableEq

namespace Session

def new (config : Config) : Session where
  config := config
  state := .idle
  listening := false
  inbound := false
  outbound := false
  device? := none
  access? := none
  category := config.category
  flags? := none
  cached? := none

def formatFor? (s : Session) (c : Category) : Option Format :=
  s.cached?.bind fun f => if f.category = c then some f.entries else none

def format? (s : Session) : Option Format := s.formatFor? s.category

def advance (s : Session) (state : State) : Session := if s.state < state then { s with state } else s

end Session

end PimSync
