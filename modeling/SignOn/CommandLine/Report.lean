import SignOn.Json.Writer
import SignOn.Service
/-!
# Reports

A command ends with a `Report`: what is printed and the exit code.  Success is told on the output,
failure among the errors.
-/

namespace SignOn

/-- What is printed, and the exit code. -/
structure Report where
  exitCode : Nat
  output : String
  errors : String
  deriving DecidableEq, Repr

namespace Report

/-- Lines with a line break after each. -/
def lines (list : List String) : String := list.foldr (fun line rest => line ++ "\n" ++ rest) ""

/-- A success that prints lines. -/
def success (list : List String) : Report := ⟨0, lines list, ""⟩

/-- A failure that prints a line. -/
def failure (line : String) : Report := ⟨1, "", "❌ " ++ line ++ "\n"⟩

/-- A failure for a cause. -/
def ofFault (cause : Fault) : Report := failure cause.message

/-- One report after another; it is a success if both are. -/
def andThen (a b : Report) : Report :=
  ⟨if a.exitCode = 0 then b.exitCode else a.exitCode, a.output ++ b.output, a.errors ++ b.errors⟩

/-- The status of a scope; one that is not usable is a failure. -/
def ofStatus (id : String) (status : Status) : Report :=
  let line := id ++ ": " ++ status.display
  if status.isUsable then success ["✅ " ++ line] else failure line

/-- A pinned certificate. -/
def pinLines (p : Pin) : List String :=
  ["🔒 " ++ p.name, "   " ++ p.summary, "   Acquired: " ++ p.acquiredAt.offsetText]

/-- The pinned certificates of a store. -/
def ofPins (s : PinStore) : Report :=
  if s.pins.isEmpty then success ["No pinned certificates in " ++ s.file.path]
  else
    let title := toString s.pins.values.length ++ " pinned certificate(s) in " ++ s.file.path
    success ((title ++ ":\n") :: s.pins.values.flatMap pinLines)

/-- The end of a try to capture the chain behind a URL. -/
def ofCapture (url : String) (done : Bool) (s : PinStore) : Report :=
  if done then
    success ["✅ Pinned certificates from " ++ url ++ " (" ++ toString s.pins.values.length ++
      " in store)"]
  else
    failure ("Could not acquire certificates from " ++ url ++ ": " ++ s.lastError.getD "")

/-- A row of the overview as a line of a table. -/
def rowLine (r : ServiceRow) : String :=
  Text.leftAligned 24 r.scope.displayName ++ " " ++ Text.leftAligned 16 r.status.display ++ " " ++
    r.username.getD "-"

/-- A row of the overview as a document. -/
def rowJson (r : ServiceRow) : Json :=
  .obj [("scope", .str r.scope.id), ("display_name", .str r.scope.displayName),
    ("status", .str r.status.marker), ("username", Json.ofOption .str r.username)]

/-- The overview, in JSON or as a table. -/
def ofRows (format : String) (rows : List ServiceRow) : Report :=
  if format = "json" then success [(Json.arr (rows.map rowJson)).pretty]
  else if rows.isEmpty then success ["No services configured."]
  else success (rows.map rowLine)

/-- The expiry of a token: a time, or its number if there is no such time. -/
def expiryText (seconds : Int) : String :=
  match Timestamp.ofParts? seconds 0 with
  | some t => t.offsetText
  | none => toString seconds

/-- The verdict on the stored bearer token. -/
def ofVerdict : Except Fault (Option Verified) → Report
  | .ok (some claims) =>
    success ["✅ Token valid for " ++
        (claims.text? "preferred_username").getD Claims.fallbackUsername,
      "   Expires: " ++ expiryText claims.expiry]
  | .ok none => ⟨1, lines ["No bearer token stored."], ""⟩
  | .error (.token cause) => failure ((Fault.token cause).message ++ " (stored token cleared)")
  | .error cause => ofFault cause

/-- Where the operator logs in. -/
def ofLoginPage (url : Url) : Report :=
  success ["Open this URL in a browser to log in:\n\n  " ++ url.write ++ "\n"]

/-- The end of a browser login; there is none when the time is up. -/
def ofLogin : Option BrowserOutcome → Report
  | none => failure "Timed out waiting for the browser login"
  | some ⟨.failed reason, _⟩ => failure ("Login failed: " ++ reason)
  | some ⟨_, services⟩ =>
    services.foldl (fun report (scope, status) => report.andThen (ofStatus scope.id status))
      (success ["✅ Logged in to the identity provider"])

end Report

end SignOn
