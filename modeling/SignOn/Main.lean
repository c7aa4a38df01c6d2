import SignOn.CommandLine.Execution
import SignOn.CommandLine.Help
/-!
# The program

The outer layer: it reads what the process is given, carries the command line out, writes the state
files that have changed, and prints.  It has no sockets of its own, so that to it every peer is out
of reach and no browser comes back.
-/

namespace SignOn.Program

/-- The variables that `/proc/self/environ` holds, each behind the one before with a zero byte
between them. -/
def variablesOf (bytes : Bytes) : List (String × String) :=
  (Text.splitWhere (· == '\x00') (Utf8.decodeLossy bytes).toList).filterMap fun entry =>
    (Text.cutAt? (· == '=') entry).map fun (name, v) => (String.ofList name, String.ofList v)

/-- The whole number at the start of a text behind blanks. -/
def leadingNumber (s : List Char) : Nat :=
  (Text.digitsToNat? ((s.dropWhile Text.isBlank).takeWhile Char.isDigit)).getD 0

/-- The time in seconds since 1970: that of the start of the machine and how long it has run. -/
def unixOf (stat uptime : String) : Nat :=
  let started := match Text.cutAtText? "btime".toList stat.toList with
    | some (_, rest) => leadingNumber rest
    | none => 0
  started + leadingNumber uptime.toList

/-- What is found at a path. -/
def readContent (path : String) : IO StateFile.Content := do
  try
    return .file (← IO.FS.readBinFile path).toList
  catch
    | .noFileOrDirectory _ _ _ => return .missing
    | _ => return .directory

/-- Replace a state file, or tell what stands in the way. -/
def write (f : StateFile) (bytes : Bytes) : IO (Option StateFile.Obstacle) := do
  let directory := StateFile.parent f.path
  let copy := StateFile.copyPath f.path
  try
    if !directory.isEmpty then IO.FS.createDirAll directory
  catch e => return some (.createDir (toString e))
  try
    IO.FS.writeBinFile copy ⟨bytes.toArray⟩
    if f.ownerOnly then IO.setAccessRights copy { user := { read := true, write := true } }
  catch e => return some (.write (toString e))
  try
    IO.FS.rename copy f.path
  catch e => return some (.rename (toString e))
  return none

/-- Write a state file if it has changed. -/
def keep (before after : Except Fault StateFile) : IO (Option StateFile.Obstacle) :=
  match before, after with
  | .ok old, .ok new =>
    match new.content with
    | .file bytes => if old.content = new.content then return none else write new bytes
    | _ => return none
  | _, _ => return none

/-- A state file that cannot be replaced. -/
def hinder (f : Except Fault StateFile) (o : Option StateFile.Obstacle) : Except Fault StateFile :=
  f.map fun f => { f with obstacles := fun _ => o }

/-- A network out of reach. -/
def unreachable : Network :=
  ⟨some "Network is unreachable (os error 101)", fun _ _ => .silence false,
    fun _ _ => .silence false, fun _ _ => [], fun _ _ => .fails "no connection", []⟩

/-- Carry a command out.  When a state file turns out not to be replaceable, the command is carried
out again with that known: nothing was sent before, and what was written stays as it is. -/
def perform (c : Command) (config : Config) (w : Surroundings) : IO Report := do
  let (report, after, _) := c.run config w unreachable
  let pins ← keep w.pins after.pins
  let credentials ← keep w.credentials after.credentials
  match pins, credentials with
  | none, none => return report
  | _, _ =>
    let known := { w with
      pins := hinder w.pins pins, credentials := hinder w.credentials credentials }
    return (c.run config known unreachable).1

/-- Read the configuration and carry the command out. -/
def start (i : Invocation) (environ : List (String × String)) : IO Report := do
  let file ← i.config.mapM fun path => do return (path, ← readContent path)
  match Config.load (← IO.currentDir).toString file environ with
  | .error cause => return .ofFault cause
  | .ok config =>
    let home := (environ.lookup "HOME").filter fun path => !path.isEmpty
    let stateFile (path : Except Fault String) : IO (Except Fault StateFile) := do
      match path with
      | .error cause => return .error cause
      | .ok path => return .ok (.new path (← readContent path))
    let now : Moment :=
      ⟨unixOf (← IO.FS.readFile "/proc/stat") (← IO.FS.readFile "/proc/uptime"), ← IO.monoNanosNow⟩
    perform i.command config {
      credentials := ← stateFile (config.credentials.resolvedPath home)
      pins := ← stateFile (config.trust.resolvedPath home)
      environment := fun name => environ.lookup name
      now
      bound := .ok ⟨"127.0.0.1", config.provider.callbackPort⟩
      redirects := [] }

/-- Run the program with its arguments. -/
def run (arguments : List String) : IO Report := do
  let environ := variablesOf (← IO.FS.readBinFile "/proc/self/environ").toList
  let environment (name : String) : Option String := environ.lookup name
  match Invocation.ofArguments environment arguments with
  | .error stop => return stop.report environment
  | .ok i => start i environ

end SignOn.Program

/-- Print the report and end with its exit code. -/
def main (arguments : List String) : IO UInt32 := do
  let report ← SignOn.Program.run arguments
  IO.print report.output
  IO.eprint report.errors
  return report.exitCode.toUInt32
