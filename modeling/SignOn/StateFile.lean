import SignOn.Fault
import SignOn.Text.Utf8
/-!
# State files

A state file is replaced as a whole: its directory is made, the new text is written next to it, and
the copy is renamed over it.  Each of the three steps can fail, and the file then holds what it
held before.  Which step of each coming replacement fails is part of the file, so that every
course of events is a value.
-/

namespace SignOn

/-- What is found at the path of a state file. -/
inductive StateFile.Content
  | missing
  | directory
  | file (bytes : Bytes)
  deriving DecidableEq

/-- The step of a replacement that fails, with the reason. -/
inductive StateFile.Obstacle
  | createDir (cause : String)
  | write (cause : String)
  | rename (cause : String)
  deriving DecidableEq

/-- A state file.  `obstacles n` is what stands in the way of the replacement after the next `n`.
`ownerOnly` says that nobody but the owner may read it, `leftover` that a copy is left behind. -/
structure StateFile where
  path : String
  content : StateFile.Content
  ownerOnly : Bool
  leftover : Bool
  obstacles : Nat → Option StateFile.Obstacle

namespace StateFile

/-- A file at `path` that can be replaced. -/
def new (path : String) (content : Content) : StateFile :=
  ⟨path, content, false, false, fun _ => none⟩

/-- The directory of a path. -/
def parent (path : String) : String :=
  match Text.cutAtLast? (· == '/') path.toList with
  | some ([], _) => "/"
  | some (a, _) => String.ofList a
  | none => ""

/-- The name of a file without its last extension; a leading dot opens no extension. -/
def stem (name : List Char) : List Char :=
  match Text.cutAtLast? (· == '.') name with
  | some (c :: a, _) => c :: a
  | _ => name

/-- The path of the copy that is renamed over the file. -/
def copyPath (path : String) : String :=
  match Text.cutAtLast? (· == '/') path.toList with
  | some (dir, name) => String.ofList (dir ++ '/' :: stem name) ++ ".json.tmp"
  | none => String.ofList (stem path.toList) ++ ".json.tmp"

/-- The fault of an obstacle. -/
def Obstacle.fault (path : String) : Obstacle → StorageFault
  | createDir cause => .createDir (parent path) cause
  | write cause => .write (copyPath path) cause
  | rename cause => .replace path cause

/-- Whether there is anything at the path. -/
def isPresent (f : StateFile) : Bool :=
  f.content ≠ .missing

/-- Why a file gives no text, or its text. -/
def text (f : StateFile) : Except String String :=
  match f.content with
  | .missing => .error "No such file or directory (os error 2)"
  | .directory => .error "Is a directory (os error 21)"
  | .file bytes =>
    match Utf8.decode? bytes with
    | some text => .ok text
    | none => .error "stream did not contain valid UTF-8"

/-- Replace the file by a text.  `restrict` asks that only its owner may read it. -/
def replace (f : StateFile) (restrict : Bool) (text : String) : Except Fault Unit × StateFile :=
  let later := { f with obstacles := fun n => f.obstacles (n + 1) }
  match f.obstacles 0 with
  | none =>
    (.ok (), { later with
      content := .file (Utf8.encode text), ownerOnly := restrict, leftover := false })
  | some (.rename cause) =>
    (.error (.storage ((Obstacle.rename cause).fault f.path)), { later with leftover := true })
  | some obstacle => (.error (.storage (obstacle.fault f.path)), later)

end StateFile

end SignOn
