import PimSync.Device.Store
import PimSync.Message.Basic

namespace PimSync

open Schema

namespace Device

structure Collection where
  format : Format
  items : Store
  ids : IdLists
deriving DecidableEq

def Collection.empty : Collection := ⟨[], .empty, ⟨⟨0, []⟩, ⟨0, []⟩, ⟨0, []⟩⟩⟩

end Device

/-- The requests are all that the device was ever sent, in order; `nextId` goes to the next inserted item. -/
structure Device where
  info : DeviceInfo
  password? : Option Bytes
  flags : Flags
  time : ClockTime
  storagePath : Bytes
  collections : PerCategory (Option Device.Collection)
  requests : List Message
  unlocked : Bool
  nextId : UInt32
deriving DecidableEq

namespace Device

def firstInsertedId : UInt32 := 1000

def new (info : DeviceInfo) (time : ClockTime) : Device where
  info := info
  password? := none
  flags := .none
  time := time
  storagePath := []
  collections := .all none
  requests := []
  unlocked := true
  nextId := firstInsertedId

def collection (d : Device) (c : Category) : Collection := (d.collections.get c).getD .empty

def setCollection (d : Device) (c : Category) (x : Collection) : Device :=
  { d with collections := d.collections.set c (some x) }

def lock (d : Device) (password : Bytes) : Device :=
  { d with password? := some password, info := { d.info with authState := 1 }, unlocked := false }

def withFormat (d : Device) (c : Category) (format : Format) : Device :=
  d.setCollection c { d.collection c with format }

def store (d : Device) (c : Category) (id : UInt32) (values : Values) : Device :=
  d.setCollection c { d.collection c with items := (d.collection c).items.insert id values }

def editIds (d : Device) (c : Category) (edit : IdLists → IdLists) : Device :=
  d.setCollection c { d.collection c with ids := edit (d.collection c).ids }

def addNew (d : Device) (c : Category) (id : UInt32) (values : Values) : Device :=
  (d.store c id values).editIds c fun l => { l with new := l.new.push id }

def addModified (d : Device) (c : Category) (id : UInt32) (values : Values) : Device :=
  (d.store c id values).editIds c fun l => { l with modified := l.modified.push id }

def addDeleted (d : Device) (c : Category) (id : UInt32) : Device :=
  d.editIds c fun l => { l with deleted := l.deleted.push id }

inductive Built : Device → Prop
  | new (info : DeviceInfo) (time : ClockTime) : Built (.new info time)
  | lock {d : Device} (password : Bytes) : Built d → Built (d.lock password)
  | withFlags {d : Device} (flags : Flags) : Built d → Built { d with flags }
  | withStoragePath {d : Device} (storagePath : Bytes) : Built d → Built { d with storagePath }
  | withFormat {d : Device} (c : Category) (format : Format) : Built d → Built (d.withFormat c format)
  | addNew {d : Device} (c : Category) (id : UInt32) (values : Values) : Built d → Built (d.addNew c id values)
  | addModified {d : Device} (c : Category) (id : UInt32) (values : Values) :
      Built d → Built (d.addModified c id values)
  | addDeleted {d : Device} (c : Category) (id : UInt32) : Built d → Built (d.addDeleted c id)

end Device

end PimSync
