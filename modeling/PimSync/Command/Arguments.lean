import PimSync.Session.Basic

/-! The words of a command line. An option may stand before the command and after it; the one after it wins. -/

namespace PimSync.Command

inductive Task where
  | info (asJson : Bool)
  | pull (c : Category) (keepFlag asJson : Bool)
  | time (set? : Option String)
  | reset (c : Category)
deriving DecidableEq

structure Invocation where
  device : Endpoint
  listenPort : UInt16
  password? : Option String
  log? : Option String
  noLog : Bool
  verbose : Bool
  task : Task
deriving DecidableEq

inductive Refusal where
  | usage
  | help
deriving DecidableEq

structure Flag where
  short? : Option Char
  long : String
  hasValue : Bool
deriving DecidableEq

namespace Flag

def everywhere : List Flag :=
  [⟨some 'd', "device", true⟩, ⟨none, "port", true⟩, ⟨none, "listen-port", true⟩, ⟨none, "password", true⟩,
   ⟨none, "log", true⟩, ⟨none, "no-log", false⟩, ⟨some 'v', "verbose", false⟩, ⟨some 'h', "help", false⟩]

def version : Flag := ⟨some 'V', "version", false⟩

def format : Flag := ⟨some 'f', "format", true⟩

def kind : Flag := ⟨some 'k', "kind", true⟩

def keepFlag : Flag := ⟨none, "keep-flag", false⟩

def set : Flag := ⟨none, "set", true⟩

end Flag

abbrev Found := List (String × String)

def add (found : Found) (flag : Flag) (value : String) : Except Refusal Found :=
  if flag = .version ∨ flag.long = "help" then .error .help
  else if (found.lookup flag.long).isSome then .error .usage
  else .ok ((flag.long, value) :: found)

def isValue (word : String) : Bool := ¬ word.startsWith "-" ∨ word = "-"

abbrev Step := Except Refusal (Found × Option Flag)

def addShort (flags : List Flag) : Found → List Char → Step
  | found, [] => .ok (found, none)
  | found, c :: cs =>
    match flags.find? (·.short? = some c), cs with
    | none, _ => .error .usage
    | some flag, cs =>
      if ¬ flag.hasValue then do addShort flags (← add found flag "") cs
      else match cs with
        | [] => .ok (found, some flag)
        | '=' :: value => (add found flag (String.ofList value)).map (·, none)
        | value => (add found flag (String.ofList value)).map (·, none)

def addLong (flags : List Flag) (found : Found) (text : List Char) : Step :=
  let name := text.takeWhile (· ≠ '=')
  match flags.find? (·.long = String.ofList name), text.drop name.length with
  | none, _ => .error .usage
  | some flag, [] => if flag.hasValue then .ok (found, some flag) else (add found flag "").map (·, none)
  | some flag, _ :: value =>
    if flag.hasValue then (add found flag (String.ofList value)).map (·, none) else .error .usage

def options (flags : List Flag) : Found → Option Flag → List String → Except Refusal (Found × List String)
  | found, none, [] => .ok (found, [])
  | _, some _, [] => .error .usage
  | found, some flag, word :: words => do
    if isValue word then options flags (← add found flag word) none words else .error .usage
  | found, none, word :: words =>
    match word.toList with
    | ['-', '-'] => if words.isEmpty then .ok (found, []) else .error .usage
    | '-' :: '-' :: text => do
      let (found, pending?) ← addLong flags found text
      options flags found pending? words
    | '-' :: c :: text => do
      let (found, pending?) ← addShort flags found (c :: text)
      options flags found pending? words
    | _ => .ok (found, word :: words)

def given {α : Type} : Option α → Except Refusal α
  | some a => .ok a
  | none => .error .usage

def port? (text : String) : Option UInt16 :=
  let digits := if text.startsWith "+" then text.toList.drop 1 else text.toList
  let n := digits.foldl (fun (n : Nat) c => min 65536 (n * 10 + (c.toNat - '0'.toNat))) 0
  if digits ≠ [] ∧ digits.all Char.isDigit ∧ n < 65536 then some (UInt16.ofNat n) else none

def portOr (found : Found) (name : String) (default : UInt16) : Except Refusal UInt16 :=
  match found.lookup name with
  | none => .ok default
  | some text => given (port? text)

def taskFlags : String → Option (List Flag)
  | "info" => some [.format]
  | "pull" => some [.kind, .keepFlag, .format]
  | "time" => some [.set]
  | "reset" => some [.kind]
  | _ => none

def task (name : String) (found : Found) : Except Refusal Task := do
  let asJson := found.lookup "format" = some "json"
  let has (name : String) := (found.lookup name).isSome
  let kind ← (found.lookup "kind").mapM fun text => given (Category.ofName? text)
  match name, kind with
  | "info", _ => return .info asJson
  | "pull", kind => return .pull (kind.getD .todo) (has "keep-flag") asJson
  | "time", _ => return .time (found.lookup "set")
  | "reset", some c => return .reset c
  | _, _ => .error .usage

def help : List String → Refusal
  | [] => .help
  | [topic] => if topic = "help" ∨ (taskFlags topic).isSome then .help else .usage
  | _ => .usage

def checkPorts (found : Found) : Except Refusal Unit := do
  let _ ← portOr found "port" 0
  let _ ← portOr found "listen-port" 0
  if found.lookup "log" = some "" then .error .usage else .ok ()

def defaultHost : String := "192.168.129.201"

def parse (words : List String) : Except Refusal Invocation := do
  let (before, words) ← options (.version :: Flag.everywhere) [] none words
  checkPorts before
  match words with
  | [] => .error .usage
  | "help" :: topics => .error (help topics)
  | name :: words =>
    let (after, words) ← options ((← given (taskFlags name)) ++ Flag.everywhere) [] none words
    checkPorts after
    if words ≠ [] then .error .usage
    let found := after ++ before
    let task ← task name after
    let port ← portOr found "port" Config.devicePort
    let listenPort ← portOr found "listen-port" Config.desktopPort
    return {
      device := ⟨(found.lookup "device").getD defaultHost, port⟩
      listenPort := listenPort
      password? := found.lookup "password"
      log? := found.lookup "log"
      noLog := (found.lookup "no-log").isSome
      verbose := (found.lookup "verbose").isSome
      task := task }

end PimSync.Command
