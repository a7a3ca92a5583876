import PimSync.Session.Operation

namespace PimSync.Session

open Schema

inductive Errand where
  | requestInfo
  | authenticate (password : Bytes)
  | requestState
  | resetState (c : Category)
  | selectCategory (c : Category)
  | obtainFormat
  | resetFormat
  | requestIds
  | fetchValues (id : UInt32)
  | fetchItem (id : UInt32)
  | writeItem (w : ItemWrite)
  | insertItem (item : Item)
  | updateItem (id : UInt32) (item : Item)
  | deleteItems (ids : List UInt32)
  | markDone
  | requestTime
  | setTime (time : ClockTime)
  | requestPath
  | terminate
  | pullChanges

namespace Errand

abbrev Result : Errand → Type
  | requestInfo => DeviceInfo
  | authenticate _ => Access
  | requestState | resetState _ => Flags
  | obtainFormat => Format
  | requestIds => IdLists
  | fetchValues _ => Values
  | fetchItem _ => Item
  | writeItem _ | insertItem _ | updateItem .. => UInt32
  | requestTime => ClockTime
  | requestPath => String
  | pullChanges => Changes
  | selectCategory _ | resetFormat | deleteItems _ | markDone | setTime _ | terminate => Unit

variable {b : Type → Type} [Monad b] [Correspondent b]

def perform : (e : Errand) → Procedure b e.Result
  | requestInfo => Session.requestInfo
  | authenticate password => Session.authenticate password
  | requestState => Session.requestState
  | resetState c => Session.resetState c
  | selectCategory c => Session.selectCategory c
  | obtainFormat => Session.obtainFormat
  | resetFormat => Session.resetFormat
  | requestIds => Session.requestIds
  | fetchValues id => Session.fetchValues id
  | fetchItem id => Session.fetchItem id
  | writeItem w => Session.writeItem w
  | insertItem item => Session.insertItem item
  | updateItem id item => Session.updateItem id item
  | deleteItems ids => Session.deleteItems ids
  | markDone => Session.markDone
  | requestTime => Session.requestTime
  | setTime time => Session.setTime time
  | requestPath => Session.requestPath
  | terminate => Session.terminate
  | pullChanges => Session.pullChanges

end Errand

structure Outcome where
  errand : Errand
  result : Except SessionError errand.Result

def performAll {b : Type → Type} [Monad b] [Correspondent b] : List Errand → StateT Session b (List Outcome)
  | [] => return []
  | e :: es => do
    let result ← e.perform.run
    return ⟨e, result⟩ :: (← performAll es)

inductive Action where
  | listen
  | connect
  | acceptDevice
  | finalize
  | initiate
  | errand (e : Errand)

namespace Action

abbrev Result : Action → Type
  | listen | connect | acceptDevice | finalize => Unit
  | initiate => Access
  | errand e => e.Result

def perform : (a : Action) → Operation a.Result
  | listen => Session.listen
  | connect => Session.connect
  | acceptDevice => Session.acceptDevice
  | finalize => Session.finalize
  | initiate => Session.initiate
  | errand e => e.perform

structure Outcome where
  action : Action
  result : Except SessionError action.Result

def performAll : List Action → StateT Session Talk (List Outcome)
  | [] => return []
  | a :: as => do
    let result ← a.perform.run
    return ⟨a, result⟩ :: (← performAll as)

end Action

end PimSync.Session
