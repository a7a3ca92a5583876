import PimSync.Command.Arguments
import PimSync.Command.Failure
import PimSync.Command.Report
import PimSync.Log
import PimSync.Session.Operation

/-! The commands. Each is a talk with the device that ends in the text to print or in a failure, and gives up its
links at the end in either case. -/

namespace PimSync.Command

open Session

abbrev Action (α : Type) := ExceptT Failure (StateT Session Talk) α

def perform {α : Type} (op : Operation α) : Action α := do
  match ← ExceptT.lift op.run with
  | .ok a => return a
  | .error e => throw (.session e)

def start : Action Unit := do
  if (← perform initiate) = .denied then throw .refused

def info (asJson : Bool) : Action String := do
  start
  match (← get).device? with
  | none => throw .unidentified
  | some info =>
    let path ← perform requestPath
    perform terminate
    return if asJson then (infoJson info path).pretty ++ "\n" else infoText info path

def pull (keepFlag asJson : Bool) : Action String := do
  start
  let changes ← perform pullChanges
  -- the device is done with the category before anything is printed
  if ¬ keepFlag then perform markDone
  perform terminate
  return if asJson then changes.json.pretty ++ "\n" else changes.text

def time (set? : Option String) : Action String := do
  let new? ← match set? with
    | none => pure none
    | some text =>
      match ClockTime.parse text with
      | .ok t => pure (some t)
      | .error e => throw (.coding e)
  start
  if let some t := new? then perform (setTime t)
  let t ← perform requestTime
  perform terminate
  return t.text ++ "\n"

def reset (c : Category) : Action String := do
  start
  let flags ← perform (resetState c)
  perform terminate
  return flagText flags

def Task.category : Task → Category
  | .pull c .. | .reset c => c
  | .info _ | .time _ => .todo

def Task.action : Task → Action String
  | .info asJson => Command.info asJson
  | .pull _ keepFlag asJson => Command.pull keepFlag asJson
  | .time set? => Command.time set?
  | .reset c => Command.reset c

namespace Invocation

def config (i : Invocation) : Config where
  device := i.device
  listener := ⟨"0.0.0.0", i.listenPort⟩
  password? := i.password?.map Text.Utf8.encode
  category := i.task.category

def logPath? (i : Invocation) (home? : Option String) : Option String :=
  if i.noLog then none else i.log?.orElse fun _ => home?.map (· ++ "/.handsync/handsync.log")

def talk (i : Invocation) : Talk (Except Failure String) := do
  let (result, session) ← i.task.action.run (Session.new i.config)
  let _ ← finalize.run session
  return result

end Invocation

structure Outcome where
  exit : UInt8
  output : String
  errors : String
deriving DecidableEq

namespace Outcome

def ofResult : Except Failure String → Outcome
  | .ok text => ⟨0, text, ""⟩
  | .error e => ⟨1, "", s!"Error: {e.technical}\n"⟩

def usage : String :=
  "Usage: handsync [OPTIONS] <info|pull|time|reset>\n" ++
  "  -d, --device <HOST>  --port <PORT>  --listen-port <PORT>  --password <TEXT>\n" ++
  "  --log <FILE>  --no-log  -v, --verbose\n" ++
  "  info [-f json]   pull [-k <CATEGORY>] [--keep-flag] [-f json]\n" ++
  "  time [--set <YYYYMMDDhhmmss>]   reset -k <CATEGORY>\n"

def ofRefusal : Refusal → Outcome
  | .usage => ⟨2, "", usage⟩
  | .help => ⟨0, usage, ""⟩

end Outcome

end PimSync.Command
