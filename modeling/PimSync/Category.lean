import PimSync.Bytes

namespace PimSync

inductive Category where
  | todo
  | calendar
  | address
deriving DecidableEq

namespace Category

def all : List Category := [todo, calendar, address]

def code : Category → UInt8
  | todo => 0x06
  | calendar => 0x01
  | address => 0x07

def ofCode? (code : UInt8) : Option Category := all.find? (·.code = code)

def name : Category → String
  | todo => "todo"
  | calendar => "calendar"
  | address => "address"

def ofName? (text : String) : Option Category :=
  match text.map Char.toLower with
  | "todo" | "todos" => some todo
  | "calendar" | "cal" => some calendar
  | "address" | "addressbook" | "contacts" => some address
  | _ => none

def unknownName (text : String) : String := s!"unknown item kind: {text}"

def onward : Category → List Category
  | todo => [todo, calendar, address]
  | calendar => [calendar, address]
  | address => [address]

end Category

structure PerCategory (α : Type) where
  todo : α
  calendar : α
  address : α
deriving DecidableEq

namespace PerCategory

variable {α : Type}

def all (a : α) : PerCategory α := ⟨a, a, a⟩

def get (p : PerCategory α) : Category → α
  | .todo => p.todo
  | .calendar => p.calendar
  | .address => p.address

def set (p : PerCategory α) (c : Category) (a : α) : PerCategory α :=
  match c with
  | .todo => { p with todo := a }
  | .calendar => { p with calendar := a }
  | .address => { p with address := a }

end PerCategory

structure Flags where
  bits : UInt8
deriving DecidableEq

namespace Flags

def none : Flags := ⟨0⟩

def allSynced : Flags := ⟨0x07⟩

def bit : Category → UInt8
  | .todo => 0x01
  | .calendar => 0x02
  | .address => 0x04

def isSynced (f : Flags) (c : Category) : Bool := f.bits &&& bit c != 0

def needsSlowSync (f : Flags) (c : Category) : Bool := !f.isSynced c

def mark (f : Flags) (c : Category) : Flags := ⟨f.bits ||| bit c⟩

def clear (f : Flags) (c : Category) : Flags := ⟨f.bits &&& ~~~(bit c)⟩

def reset (f : Flags) (c : Category) : Flags := c.onward.foldl clear f

end Flags

end PimSync
