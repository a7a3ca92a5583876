import PimSync.Wire.Frame

/-! The registry of messages: tag, origin and name of every type that is known. -/

namespace PimSync

open Wire

namespace Wire.MessageTag

def ready : MessageTag := .ascii 'R' 'A' 'Y'
def infoRequest : MessageTag := .ascii 'R' 'I' 'G'
def authRequest : MessageTag := .ascii 'R' 'R' 'L'
def timeRequest : MessageTag := .ascii 'R' 'T' 'G'
def setTime : MessageTag := .ascii 'R' 'T' 'S'
def pathRequest : MessageTag := .ascii 'R' 'M' 'G'
def stateRequest : MessageTag := .ascii 'R' 'S' 'S'
def setState : MessageTag := .ascii 'R' 'M' 'S'
def formatRequest : MessageTag := .ascii 'R' 'D' 'I'
def idsRequest : MessageTag := .ascii 'R' 'S' 'Y'
def itemRequest : MessageTag := .ascii 'R' 'D' 'R'
def deleteItems : MessageTag := .ascii 'R' 'D' 'D'
def itemWrite : MessageTag := .ascii 'R' 'D' 'W'
def syncDone : MessageTag := .ascii 'R' 'D' 'S'
def terminate : MessageTag := .ascii 'R' 'Q' 'T'
def complete : MessageTag := .ascii 'A' 'E' 'X'
def deviceReady : MessageTag := .ascii 'A' 'A' 'Y'
def info : MessageTag := .ascii 'A' 'I' 'G'
def authNotRequired : MessageTag := .ascii 'A' 'N' 'L'
def authDenied : MessageTag := .ascii 'A' 'N' 'G'
def time : MessageTag := .ascii 'A' 'T' 'G'
def path : MessageTag := .ascii 'A' 'M' 'G'
def state : MessageTag := .ascii 'A' 'S' 'S'
def format : MessageTag := .ascii 'A' 'D' 'I'
def ids : MessageTag := .ascii 'A' 'S' 'Y'
def item : MessageTag := .ascii 'A' 'D' 'R'
def itemWritten : MessageTag := .ascii 'A' 'D' 'W'

end Wire.MessageTag

structure MessageSpec where
  tag : MessageTag
  origin : Origin
  name : String
deriving DecidableEq

namespace MessageSpec

def registry : List MessageSpec := [
  ⟨.ready, .desktop, "ready"⟩,
  ⟨.infoRequest, .desktop, "device info request"⟩,
  ⟨.authRequest, .desktop, "auth request"⟩,
  ⟨.timeRequest, .desktop, "time request"⟩,
  ⟨.setTime, .desktop, "set time"⟩,
  ⟨.pathRequest, .desktop, "storage path request"⟩,
  ⟨.stateRequest, .desktop, "sync state request"⟩,
  ⟨.setState, .desktop, "set sync state"⟩,
  ⟨.formatRequest, .desktop, "param format request"⟩,
  ⟨.idsRequest, .desktop, "sync ids request"⟩,
  ⟨.itemRequest, .desktop, "item request"⟩,
  ⟨.deleteItems, .desktop, "delete items"⟩,
  ⟨.itemWrite, .desktop, "item write"⟩,
  ⟨.syncDone, .desktop, "sync done"⟩,
  ⟨.terminate, .desktop, "terminate"⟩,
  ⟨.complete, .device, "exchange complete"⟩,
  ⟨.deviceReady, .device, "device ready"⟩,
  ⟨.info, .device, "device info"⟩,
  ⟨.authNotRequired, .device, "auth not required"⟩,
  ⟨.authDenied, .device, "auth denied"⟩,
  ⟨.time, .device, "device time"⟩,
  ⟨.path, .device, "storage path"⟩,
  ⟨.state, .device, "sync state"⟩,
  ⟨.format, .device, "param format"⟩,
  ⟨.ids, .device, "sync ids"⟩,
  ⟨.item, .device, "item data"⟩,
  ⟨.itemWritten, .device, "item written"⟩]

def lookup? (tag : MessageTag) : Option MessageSpec := registry.find? (·.tag = tag)

def nameFor (tag : MessageTag) : String := ((lookup? tag).map name).getD "unregistered"

end MessageSpec

end PimSync
