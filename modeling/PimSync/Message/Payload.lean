import PimSync.Category
import PimSync.ClockTime
import PimSync.Schema.Format
import PimSync.Message.Kind

namespace PimSync

open Wire Schema

structure DeviceInfo where
  model : Bytes
  language : Block 2
  authState : UInt8
deriving DecidableEq

namespace DeviceInfo

def modelName (info : DeviceInfo) : String := Text.Utf8.decode info.model

def languageCode (info : DeviceInfo) : String := Text.Utf8.decode info.language.val

def requiresAuth (info : DeviceInfo) : Bool := info.authState != 0

def layout : Layout DeviceInfo :=
  .map (.pair (.blob "device model") (.pair (.block 2) .byte))
    (fun i => (i.model, i.language, i.authState)) (fun (model, language, auth) => ⟨model, language, auth⟩)

end DeviceInfo

def Flags.layout : Layout Flags := Layout.byte.map bits .mk

/-- A category stands in the payload as its code; `tag` is the message that an unknown code is blamed on. -/
def Category.layout (tag : MessageTag) : Layout Category :=
  Layout.byte.refine code fun b =>
    match ofCode? b with
    | some c => .ok c
    | none => .error (.unknownVariant tag b)

structure ItemKey where
  category : Category
  id : UInt32
deriving DecidableEq

def ItemKey.layout : Layout ItemKey :=
  .map (.pair (Category.layout MessageType.itemRequest.tag) .long)
    (fun k => (k.category, k.id)) fun (c, id) => ⟨c, id⟩

structure Deletion where
  category : Category
  ids : List UInt32
deriving DecidableEq

def Deletion.layout : Layout Deletion :=
  .map (.pair (Category.layout MessageType.deleteItems.tag) (.longs "deleted ids"))
    (fun d => (d.category, d.ids)) fun (c, ids) => ⟨c, ids⟩

structure IdList where
  listId : UInt8
  ids : List UInt32
deriving DecidableEq

namespace IdList

def push (l : IdList) (id : UInt32) : IdList := { l with ids := l.ids ++ [id] }

def layout : Layout IdList :=
  .map (.pair .byte (.longs "sync id list")) (fun l => (l.listId, l.ids)) fun (n, ids) => ⟨n, ids⟩

end IdList

structure IdLists where
  new : IdList
  modified : IdList
  deleted : IdList
deriving DecidableEq

namespace IdLists

def ofIds (new modified deleted : List UInt32) : IdLists := ⟨⟨1, new⟩, ⟨2, modified⟩, ⟨3, deleted⟩⟩

def changed (l : IdLists) : List UInt32 := l.new.ids ++ l.modified.ids

def total (l : IdLists) : Nat := l.new.ids.length + l.modified.ids.length + l.deleted.ids.length

def isEmpty (l : IdLists) : Bool := l.total = 0

def layout : Layout IdLists :=
  .map (.pair IdList.layout (.pair IdList.layout IdList.layout))
    (fun l => (l.new, l.modified, l.deleted)) fun (new, modified, deleted) => ⟨new, modified, deleted⟩

end IdLists

inductive WriteTarget where
  | insert
  | update (id : UInt32)
  | flagged (id : UInt32) (flags : UInt16)
deriving DecidableEq

namespace WriteTarget

def code : WriteTarget → UInt8
  | insert => 0x01
  | update _ => 0x02
  | flagged .. => 0x03

def size : WriteTarget → Nat
  | insert => 0
  | update _ => 4
  | flagged .. => 6

def write : WriteTarget → Output
  | insert => .empty
  | update id => .long id
  | flagged id flags => .long id ++ .word flags

def reader? : UInt8 → Option (Reader WriteTarget)
  | 0x01 => some (pure insert)
  | 0x02 => some do return update (← .long)
  | 0x03 => some do return flagged (← .long) (← .word)
  | _ => none

end WriteTarget

structure ItemWrite where
  category : Category
  target : WriteTarget
  values : Values
deriving DecidableEq

namespace ItemWrite

def tag : MessageTag := MessageType.itemWrite.tag

def write (w : ItemWrite) : Output :=
  .byte w.target.code ++ ((Category.layout tag).write w.category ++
    (w.target.write ++ valuesLayout.write w.values))

def metered : Metered ItemWrite := do
  let code ← .ofReader .byte
  match WriteTarget.reader? code with
  | none => .ofReader (.fail (.unknownVariant tag code))
  | some target =>
    let category ← (Category.layout tag).metered
    let target ← .ofReader target
    return ⟨category, target, ← valuesLayout.metered⟩

def layout : Layout ItemWrite where
  size w := 2 + w.target.size + valuesLayout.size w.values
  write := write
  metered := metered

end ItemWrite

namespace MessageType

abbrev Payload : MessageType → Type
  | authRequest | path => Bytes
  | setTime | time => ClockTime
  | stateRequest | formatRequest | idsRequest | syncDone => Category
  | setState | state => Flags
  | itemRequest => ItemKey
  | deleteItems => Deletion
  | itemWrite => ItemWrite
  | info => DeviceInfo
  | format => Format
  | ids => IdLists
  | item => Values
  | itemWritten => UInt32
  | ready | infoRequest | timeRequest | pathRequest | terminate
  | complete | deviceReady | authNotRequired | authDenied => Unit

instance (t : MessageType) : DecidableEq t.Payload := by cases t <;> exact inferInstance

def layout : (t : MessageType) → Layout t.Payload
  | authRequest => .blob "password"
  | path => .blob "storage path"
  | setTime | time => ClockTime.layout
  | stateRequest => Category.layout stateRequest.tag
  | formatRequest => Category.layout formatRequest.tag
  | idsRequest => Category.layout idsRequest.tag
  | syncDone => Category.layout syncDone.tag
  | setState | state => Flags.layout
  | itemRequest => ItemKey.layout
  | deleteItems => Deletion.layout
  | itemWrite => ItemWrite.layout
  | info => DeviceInfo.layout
  | format => formatLayout
  | ids => IdLists.layout
  | item => valuesLayout
  | itemWritten => .long
  | ready | infoRequest | timeRequest | pathRequest | terminate
  | complete | deviceReady | authNotRequired | authDenied => .empty

end MessageType

end PimSync
