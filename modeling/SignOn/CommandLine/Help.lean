import SignOn.CommandLine.Invocation
import SignOn.CommandLine.Report
/-!
# Help

The help of a place says what it is for, how it is used, and what its commands, operands and
options mean.  Explanations stand in a column of their own and are broken between words, so that no
line is longer than `Help.width` unless a single word is.
-/

namespace SignOn

namespace Switch

/-- What an option means. -/
def about : Switch → String
  | config => "Path to configuration file (YAML)"
  | logLevel => "Log level (trace, debug, info, warn, error)"
  | logFormat => "Log format (text, json)"
  | username => "Username"
  | password => "Password"
  | all => "Log out of every configured service"
  | format => "Output format (table, json)"
  | timeout => "Give up after this many seconds"
  | help => "Print help"
  | version => "Print version"

/-- What stands for the value of an option. -/
def standIn (s : Switch) : String :=
  "<" ++ Text.upperAscii (Text.replaceAll "-" "_" s.name) ++ ">"

/-- The value of an option that is not given at all. -/
def default? : Switch → Option String
  | logLevel => some "warn"
  | format => some "table"
  | timeout => some "300"
  | _ => none

/-- The note on the variable of an option, which does not tell a password. -/
def variableNote (environment : String → Option String) (s : Switch) : List String :=
  match s.variableName? with
  | none => []
  | some name =>
    if s = password then ["[env: " ++ name ++ "]"]
    else ["[env: " ++ name ++ "=" ++ (environment name).getD "" ++ "]"]

/-- What an option means, with notes on its variable and its default. -/
def explanation (environment : String → Option String) (s : Switch) : String :=
  let note := s.default?.toList.map fun v => "[default: " ++ v ++ "]"
  " ".intercalate (s.about :: s.variableNote environment ++ note)

/-- The written form of an option: its letter and its name, with what stands for its value. -/
def term (s : Switch) : String :=
  let letter := match s.letter? with
    | some c => "-" ++ c.toString ++ ", "
    | none => "    "
  letter ++ "--" ++ s.name ++ (if s.takesValue then " " ++ s.standIn else "")

/-- The order in which options are explained. -/
def inOrder : List Switch :=
  [all, config, format, timeout, username, logLevel, password, logFormat, help, version]

end Switch

/-- The name of the program. -/
def Help.programName : String := "controlroom-auth"

/-- The name and the version of the program. -/
def Help.versionLine : String := Help.programName ++ " 0.4.0"

namespace Place

/-- The words that lead to a place. -/
def words : Place → List String
  | program => []
  | certs => ["certs"]
  | certsAcquire => ["certs", "acquire"]
  | certsRefresh => ["certs", "refresh"]
  | certsList => ["certs", "list"]
  | login => ["login"]
  | logout => ["logout"]
  | status => ["status"]
  | oauth => ["oauth"]
  | oauthLogin => ["oauth", "login"]
  | oauthLogout => ["oauth", "logout"]
  | token => ["token"]
  | tokenCheck => ["token", "check"]
  | help => ["help"]

/-- What a place is for. -/
def about : Place → String
  | program => "Control-room authentication: certificate pinning, service logins and OAuth2"
  | certs => "Identity provider certificate pinning"
  | certsAcquire => "Capture and pin the certificate chain served at a URL"
  | certsRefresh => "Re-acquire the configured identity provider's chain"
  | certsList => "List pinned certificates"
  | login => "Log in to a service with username and password"
  | logout => "Log out of one service, or all of them"
  | status => "Show the cached login status of every service"
  | oauth => "OAuth2 browser login"
  | oauthLogin => "Print the login URL and wait for the browser redirect"
  | oauthLogout => "End the identity provider session and clear the bearer token"
  | token => "Stored bearer token checks"
  | tokenCheck => "Verify the stored bearer token against the provider's JWKS"
  | help => "Print this message or the help of the given subcommand(s)"

/-- The operand of a place, with its meaning. -/
def operand? : Place → Option (String × String)
  | certsAcquire => some ("[URL]", "HTTPS URL; defaults to the configured identity provider")
  | login => some ("<SCOPE>", "Service scope id (e.g. logbook)")
  | logout => some ("[SCOPE]", "Service scope id")
  | help => some ("[COMMAND]...", "Print help for the subcommand(s)")
  | _ => none

/-- How a place is used. -/
def usage (p : Place) : String :=
  let options := if p.switches.isEmpty then [] else ["[OPTIONS]"]
  let required := if p = login then ["--username <USERNAME>", "--password <PASSWORD>"] else []
  let operand := p.operand?.toList.map Prod.fst
  let command := if p.below.isEmpty then [] else ["<COMMAND>"]
  "Usage: " ++ " ".intercalate
    (Help.programName :: p.words ++ options ++ required ++ operand ++ command)

end Place

namespace Help

/-- How long a line of help may be. -/
def width : Nat := 100

/-- Break words into lines of at most `room` characters.  `line` is the line so far. -/
def breakWords (room : Nat) (line : String) : List String → List String
  | [] => [line]
  | word :: words =>
    if line.length + 1 + word.length ≤ room then breakWords room (line ++ " " ++ word) words
    else line :: breakWords room word words

/-- Break a text between words. -/
def wrap (room : Nat) (text : String) : List String :=
  match Text.splitOn ' ' text with
  | [] => []
  | word :: words => breakWords room word words

/-- Terms with their explanations, in two columns. -/
def columns (entries : List (String × String)) : List String :=
  let longest := entries.foldl (fun n (term, _) => max n term.length) 0
  let indent := String.ofList (List.replicate (longest + 4) ' ')
  entries.flatMap fun (term, text) =>
    match wrap (width - (longest + 4)) text with
    | [] => ["  " ++ term]
    | line :: lines =>
      ("  " ++ Text.leftAligned longest term ++ "  " ++ line) :: lines.map (indent ++ ·)

/-- A titled part of the help behind an empty line; nothing when it has no entries. -/
def part (title : String) (entries : List (String × String)) : List String :=
  if entries.isEmpty then [] else "" :: (title ++ ":") :: columns entries

/-- The help of a place. -/
def text (environment : String → Option String) (p : Place) : String :=
  let commands := p.below.map fun (word, q) => (word, q.about)
  let options := (Switch.inOrder.filter p.switches.contains).map fun s =>
    (s.term, s.explanation environment)
  Report.lines ([p.about, "", p.usage] ++ part "Commands" commands ++
    part "Arguments" p.operand?.toList ++ part "Options" options)

end Help

/-- What is printed when a command line is not carried out. -/
def Stop.report (environment : String → Option String) (stop : Stop) : Report :=
  match stop with
  | .help p => ⟨0, Help.text environment p, ""⟩
  | .version => .success [Help.versionLine]
  | .noCommand p true => ⟨2, "", Help.text environment p⟩
  | stop => ⟨2, "", "error: " ++ stop.message ++ "\n\nFor more information, try '--help'.\n"⟩

end SignOn
