import PimSync.Message.Registry

namespace PimSync

open Wire

inductive MessageType where
  | ready
  | infoRequest
  | authRequest
  | timeRequest
  | setTime
  | pathRequest
  | stateRequest
  | setState
  | formatRequest
  | idsRequest
  | itemRequest
  | deleteItems
  | itemWrite
  | syncDone
  | terminate
  | complete
  | deviceReady
  | info
  | authNotRequired
  | authDenied
  | time
  | path
  | state
  | format
  | ids
  | item
  | itemWritten
deriving DecidableEq

namespace MessageType

def tag : MessageType → MessageTag
  | ready => .ready
  | infoRequest => .infoRequest
  | authRequest => .authRequest
  | timeRequest => .timeRequest
  | setTime => .setTime
  | pathRequest => .pathRequest
  | stateRequest => .stateRequest
  | setState => .setState
  | formatRequest => .formatRequest
  | idsRequest => .idsRequest
  | itemRequest => .itemRequest
  | deleteItems => .deleteItems
  | itemWrite => .itemWrite
  | syncDone => .syncDone
  | terminate => .terminate
  | complete => .complete
  | deviceReady => .deviceReady
  | info => .info
  | authNotRequired => .authNotRequired
  | authDenied => .authDenied
  | time => .time
  | path => .path
  | state => .state
  | format => .format
  | ids => .ids
  | item => .item
  | itemWritten => .itemWritten

def origin : MessageType → Origin
  | ready | infoRequest | authRequest | timeRequest | setTime | pathRequest | stateRequest | setState | formatRequest
  | idsRequest | itemRequest | deleteItems | itemWrite | syncDone | terminate => .desktop
  | _ => .device

def name (t : MessageType) : String := MessageSpec.nameFor t.tag

def ofTag? (tag : MessageTag) : Option MessageType :=
  if tag = .ready then some ready
  else if tag = .infoRequest then some infoRequest
  else if tag = .authRequest then some authRequest
  else if tag = .timeRequest then some timeRequest
  else if tag = .setTime then some setTime
  else if tag = .pathRequest then some pathRequest
  else if tag = .stateRequest then some stateRequest
  else if tag = .setState then some setState
  else if tag = .formatRequest then some formatRequest
  else if tag = .idsRequest then some idsRequest
  else if tag = .itemRequest then some itemRequest
  else if tag = .deleteItems then some deleteItems
  else if tag = .itemWrite then some itemWrite
  else if tag = .syncDone then some syncDone
  else if tag = .terminate then some terminate
  else if tag = .complete then some complete
  else if tag = .deviceReady then some deviceReady
  else if tag = .info then some info
  else if tag = .authNotRequired then some authNotRequired
  else if tag = .authDenied then some authDenied
  else if tag = .time then some time
  else if tag = .path then some path
  else if tag = .state then some state
  else if tag = .format then some format
  else if tag = .ids then some ids
  else if tag = .item then some item
  else if tag = .itemWritten then some itemWritten
  else none

end MessageType

end PimSync
