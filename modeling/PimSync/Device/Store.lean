import PimSync.Schema.Format

namespace PimSync.Device

open Schema

structure Store where
  entries : List (UInt32 × Values)
deriving DecidableEq

namespace Store

def empty : Store := ⟨[]⟩

def get? (s : Store) (id : UInt32) : Option Values := s.entries.lookup id

def insertEntry (id : UInt32) (values : Values) : List (UInt32 × Values) → List (UInt32 × Values)
  | [] => [(id, values)]
  | e :: es =>
    if id < e.1 then (id, values) :: e :: es
    else if id = e.1 then (id, values) :: es
    else e :: insertEntry id values es

def insert (s : Store) (id : UInt32) (values : Values) : Store := ⟨insertEntry id values s.entries⟩

def erase (s : Store) (id : UInt32) : Store := ⟨s.entries.filter (·.1 ≠ id)⟩

end Store

end PimSync.Device
