import PimSync.Bytes

namespace PimSync.Session

inductive State where
  | idle
  | listening
  | connected
  | infoKnown
  | authenticated
  | stateKnown
  | formatKnown
  | iterating
  | done
  | disconnected
deriving DecidableEq

namespace State

def all : List State :=
  [idle, listening, connected, infoKnown, authenticated, stateKnown, formatKnown, iterating, done, disconnected]

def rank : State → Nat
  | idle => 0
  | listening => 1
  | connected => 2
  | infoKnown => 3
  | authenticated => 4
  | stateKnown => 5
  | formatKnown => 6
  | iterating => 7
  | done => 8
  | disconnected => 9

instance : LE State := ⟨fun s t => s.rank ≤ t.rank⟩

instance : LT State := ⟨fun s t => s.rank < t.rank⟩

instance (s t : State) : Decidable (s ≤ t) := inferInstanceAs (Decidable (s.rank ≤ t.rank))

instance (s t : State) : Decidable (s < t) := inferInstanceAs (Decidable (s.rank < t.rank))

def name : State → String
  | idle => "Idle"
  | listening => "Listening"
  | connected => "Connected"
  | infoKnown => "InfoKnown"
  | authenticated => "Authenticated"
  | stateKnown => "StateKnown"
  | formatKnown => "FormatKnown"
  | iterating => "Iterating"
  | done => "Done"
  | disconnected => "Disconnected"

def ofName? (name : String) : Option State := all.find? (·.name = name)

def isConnected (s : State) : Bool := connected ≤ s ∧ s ≤ done

def canListen (s : State) : Bool := s = idle ∨ s = disconnected

end State

end PimSync.Session
