import PimSync.Command.Run
import PimSync.Talk.Sockets

namespace PimSync.Command

def directory (path : String) : String :=
  String.ofList (path.toList.reverse.dropWhile (· ≠ '/') |>.drop 1 |>.reverse)

def openLog (path : String) : IO IO.FS.Handle := do
  if directory path ≠ "" then IO.FS.createDirAll (directory path)
  IO.FS.Handle.mk path .append

def note (log? : Option IO.FS.Handle) (verbose : Bool) (event : Event) : IO Unit := do
  if let some entry := Log.Entry.ofEvent? event then
    if verbose then IO.eprintln entry.header
    if let some log := log? then
      try
        log.putStr entry.text
        log.flush
      catch e => IO.eprintln s!"message log: {e}"

def carryOut (words : List String) : IO Outcome := do
  match parse words with
  | .error refusal => return .ofRefusal refusal
  | .ok invocation =>
    let log? ← (invocation.logPath? (← IO.getEnv "HOME")).mapM openLog
    return .ofResult (← invocation.talk.carryOut (note log? invocation.verbose) .closed)

end PimSync.Command

def main (words : List String) : IO UInt32 := do
  let outcome ← PimSync.Command.carryOut words
  IO.print outcome.output
  IO.eprint outcome.errors
  return outcome.exit.toUInt32
