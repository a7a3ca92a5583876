import PimSync.Session.Basic
import PimSync.Text.Json

namespace PimSync

open Schema Text

namespace Schema.FieldType

def json : (t : FieldType) → t.Value → Json
  | .bit, v | .byte, v => .number v.toNat
  | .word, v => .number v.toNat
  | .long, v | .time, v => .number v.toNat
  | .byteArray, v => .list (v.map fun b => .number b.toNat)
  | .utf8, v => .text v

end Schema.FieldType

def Item.json (item : Item) : Json :=
  .object (("kind", .text item.category.name) ::
    item.record.entries.map fun (field, entry) => (field.name, entry.1.json entry.2))

def IdList.json (l : IdList) : Json :=
  .object [("list_id", .number l.listId.toNat), ("ids", .list (l.ids.map fun id => .number id.toNat))]

def IdLists.json (l : IdLists) : Json :=
  .object [("new", l.new.json), ("modified", l.modified.json), ("deleted", l.deleted.json)]

namespace Session.Changes

def json (c : Changes) : Json :=
  .object [("kind", .text c.category.name), ("slow_sync", .bool c.slowSync), ("ids", c.ids.json),
    ("items", .list (c.items.map Item.json))]

def line (id text : String) : String := "  [" ++ padLeft ' ' 8 id ++ "] " ++ text ++ "\n"

def itemLine (item : Item) : String :=
  line ((item.syncId?.map fun id => decimal id.toNat).getD "-") (item.title?.getD "(untitled)")

def text (c : Changes) : String :=
  c.category.name ++ " (" ++ (if c.slowSync then "slow" else "fast") ++ " sync)\n" ++
  "  New: " ++ decimal c.ids.new.ids.length ++ "  Modified: " ++ decimal c.ids.modified.ids.length ++
  "  Deleted: " ++ decimal c.ids.deleted.ids.length ++ "\n" ++
  String.join (c.items.map itemLine) ++
  String.join (c.ids.deleted.ids.map fun id => line (decimal id.toNat) "deleted")

end Session.Changes

namespace Command

def infoJson (info : DeviceInfo) (path : String) : Json :=
  .object [("model", .text info.modelName), ("language", .text info.languageCode),
    ("requires_auth", .bool info.requiresAuth), ("storage_path", .text path)]

def infoText (info : DeviceInfo) (path : String) : String :=
  "Device\n  Model:        " ++ info.modelName ++ "\n  Language:     " ++ info.languageCode ++
  "\n  Password:     " ++ (if info.requiresAuth then "required" else "not required") ++
  "\n  Storage path: " ++ path ++ "\n"

def flagLine (f : Flags) (c : Category) : String :=
  "  " ++ padRight ' ' 8 c.name ++ " " ++ (if f.isSynced c then "in sync" else "slow sync") ++ "\n"

def flagText (f : Flags) : String := String.join (Category.all.map (flagLine f))

end Command

end PimSync
