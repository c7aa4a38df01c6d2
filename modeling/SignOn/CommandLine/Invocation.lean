import SignOn.CommandLine.Basic
/-!
# Reading a command line

The words of a command line are read one by one.  A word may lead on to the next place, name an
option, be the value of the option before it, or be the operand of a place.  The value of an option
is taken in when the next option or operand comes, or at the end of the line; of two faults that
one is reported which is seen first this way, at the innermost place before those around it.
-/

namespace SignOn

/-- Why a command line is not carried out: help or the version was asked for, or there is a fault
in it. -/
inductive Stop
  | help (p : Place)
  | version
  | unknownArgument (text : String)
  | unknownCommand (text : String)
  | noValue (s : Switch)
  | badValue (s : Switch) (text : String)
  | surplusValue (s : Switch)
  | twice (s : Switch)
  | allWithScope
  | missing (p : Place)
  | noCommand (p : Place) (nothingGiven : Bool)
  deriving DecidableEq, Repr

namespace Stop

/-- The exit code. -/
def exitCode : Stop → Nat
  | help _ | version => 0
  | _ => 2

/-- What is said about a fault. -/
def message : Stop → String
  | help _ | version => ""
  | unknownArgument text => "unexpected argument '" ++ text ++ "' found"
  | unknownCommand text => "unrecognized subcommand '" ++ text ++ "'"
  | noValue s => "a value is required for '--" ++ s.name ++ "' but none was supplied"
  | badValue s text => "invalid value '" ++ text ++ "' for '--" ++ s.name ++ "'"
  | surplusValue s => "unexpected value for '--" ++ s.name ++ "' found; no more were expected"
  | twice s => "the argument '--" ++ s.name ++ "' cannot be used multiple times"
  | allWithScope => "the argument '[SCOPE]' cannot be used with '--all'"
  | missing _ => "the following required arguments were not provided"
  | noCommand _ _ => "a subcommand is required"

end Stop

/-- A command line that was understood. -/
structure Invocation where
  config : Option String
  logLevel : String
  logFormat : Option String
  command : Command
  deriving DecidableEq, Repr

/-- What was read at a place.  `pending` is an option whose value is not taken in yet, `trailing`
says that two dashes have ended the options.  An option without a value is given as empty. -/
structure Level where
  place : Place
  given : List (Switch × String)
  pending : Option (Switch × Option String)
  operand : Option String
  trailing : Bool

namespace Level

/-- A place where nothing was read yet. -/
def new (p : Place) : Level := ⟨p, [], none, none, false⟩

/-- The value that was given for an option. -/
def value? (l : Level) (s : Switch) : Option String := l.given.lookup s

/-- Whether an option was given. -/
def has (l : Level) (s : Switch) : Bool := (l.value? s).isSome

/-- Whether the value of an option is still to come. -/
def isOpen (l : Level) : Bool := l.pending.any fun (_, v) => v.isNone

/-- Check the value of an option: a path is not empty, a timeout is a number. -/
def check (s : Switch) (v : String) : Except Stop Unit :=
  match s with
  | .config => if v.isEmpty then throw (.noValue s) else pure ()
  | .timeout => if (Switch.seconds? v).isNone then throw (.badValue s v) else pure ()
  | _ => pure ()

/-- Take an option in; at each place it is given once. -/
def accept (l : Level) (s : Switch) (v : String) : Except Stop Level := do
  if l.has s then throw (.twice s)
  check s v
  return { l with given := l.given ++ [(s, v)] }

/-- Take the pending option in. -/
def settle (l : Level) : Except Stop Level :=
  match l.pending with
  | none => pure l
  | some (s, none) => throw (.noValue s)
  | some (s, some v) => { l with pending := none }.accept s v

/-- Read an option whose value, if any, is attached to it. -/
def takeSwitch (l : Level) (s : Switch) (attached : Option String) : Except Stop Level :=
  match s.takesValue, attached with
  | true, some v => do (← l.settle).accept s v
  | true, none => do return { ← l.settle with pending := some (s, none) }
  | false, some _ => throw (.surplusValue s)
  | false, none => do
    let l ← l.settle
    match s with
    | .help => throw (.help l.place)
    | .version => throw .version
    | s => l.accept s ""

/-- Read what stands behind two dashes: a name, and after a sign of equality a value. -/
def takeNamed (l : Level) (text : List Char) : Except Stop Level :=
  let (name, attached) := match Text.cutAt? (· == '=') text with
    | some (name, v) => (name, some (String.ofList v))
    | none => (text, none)
  match l.place.named? (String.ofList name) with
  | some s => l.takeSwitch s attached
  | none => throw (.unknownArgument ("--" ++ String.ofList name))

/-- Read the letters behind one dash.  What follows the letter of an option with a value is that
value; a sign of equality before it does not count. -/
def takeLetters (l : Level) : List Char → Except Stop Level
  | [] => pure l
  | c :: rest =>
    match l.place.lettered? c with
    | none => throw (.unknownArgument ("-" ++ c.toString))
    | some s =>
      if s.takesValue then
        match rest with
        | [] => l.takeSwitch s none
        | '=' :: v | v => l.takeSwitch s (some (String.ofList v))
      else do (← l.takeSwitch s none).takeLetters rest

/-- Read a word that is neither a command nor an option nor a value. -/
def takeOperand (l : Level) (word : String) : Except Stop Level :=
  if l.place.takesOperand && l.operand.isNone then do
    return { ← l.settle with operand := some word }
  else if l.place.below.isEmpty || (l.trailing && (l.place.step? word).isSome) then
    throw (.unknownArgument word)
  else throw (.unknownCommand word)

/-- Read a word that is no command. -/
def take (l : Level) (word : String) : Except Stop Level :=
  if l.trailing then l.takeOperand word
  else
    match word.toList with
    | ['-', '-'] => pure { l with trailing := true }
    | '-' :: '-' :: text => l.takeNamed text
    | '-' :: c :: rest => l.takeLetters (c :: rest)
    | _ =>
      match l.pending with
      | some (s, none) => pure { l with pending := some (s, some word) }
      | _ => l.takeOperand word

/-- Check the variables that stand in for the options that were not given. -/
def checkVariables (environment : String → Option String) (l : Level) : Except Stop Unit :=
  l.place.switches.forM fun s =>
    match l.value? s, s.variableName?.bind environment with
    | none, some v => check s v
    | _, _ => pure ()

/-- Take what is pending in and check the variables. -/
def close (environment : String → Option String) (l : Level) : Except Stop Level := do
  let l ← l.settle
  l.checkVariables environment
  return l

/-- The value of an option: the one given, else that of its variable. -/
def setting? (environment : String → Option String) (l : Level) (s : Switch) : Option String :=
  l.value? s <|> s.variableName?.bind environment

/-- Whether anything was given at a place, by variables included. -/
def isGiven (environment : String → Option String) (l : Level) : Bool :=
  l.operand.isSome || l.place.switches.any fun s => (l.setting? environment s).isSome

/-- The command of the innermost place. -/
def command (environment : String → Option String) (l : Level) : Except Stop Command :=
  match l.place with
  | .certsAcquire => pure (.pins (.acquire l.operand))
  | .certsRefresh => pure (.pins .refresh)
  | .certsList => pure (.pins .list)
  | .login =>
    match l.operand, l.setting? environment .username, l.setting? environment .password with
    | some scope, some username, some password => pure (.logins (.login scope username password))
    | _, _, _ => throw (.missing .login)
  | .logout =>
    match l.operand, l.has .all with
    | some _, true => throw .allWithScope
    | some scope, false => pure (.logins (.logout scope))
    | none, true => pure (.logins .logoutAll)
    | none, false => throw (.missing .logout)
  | .status => pure (.logins (.overview ((l.value? .format).getD "table")))
  | .oauthLogin =>
    let seconds := ((l.value? .timeout).bind Switch.seconds?).getD 300
    pure (.logins (.browserLogin seconds))
  | .oauthLogout => pure (.logins .browserLogout)
  | .tokenCheck => pure (.logins .checkToken)
  | p => throw (.noCommand p (!l.isGiven environment))

end Level

/-- How far the reading of a command line is: at a place, with the levels around it from the inside
out, or on the way to the place whose help was asked for. -/
inductive Reading
  | level (around : List Level) (l : Level)
  | help (p : Place)

namespace Reading

/-- Read one word.  A word that leads to a place does so before anything else, but not as the value
of an option and not behind two dashes. -/
def take (word : String) : Reading → Except Stop Reading
  | .help p =>
    match p.step? word with
    | some q => pure (.help q)
    | none => throw (.unknownCommand word)
  | .level around l =>
    match l.place.step? word, l.trailing || l.isOpen with
    | some .help, false => pure (.help l.place)
    | some p, false => pure (.level (l :: around) (.new p))
    | _, _ => do return .level around (← l.take word)

/-- End the reading.  Of an option that is allowed everywhere the innermost value counts. -/
def finish (environment : String → Option String) : Reading → Except Stop Invocation
  | .help p => throw (.help p)
  | .level around l => do
    let l ← l.close environment
    let command ← l.command environment
    let around ← around.mapM (Level.close environment)
    let setting? (s : Switch) : Option String :=
      (l :: around).findSome? (·.value? s) <|> s.variableName?.bind environment
    return ⟨setting? .config, (setting? .logLevel).getD "warn", setting? .logFormat, command⟩

end Reading

/-- Read a command line. -/
def Invocation.ofArguments (environment : String → Option String) (words : List String) :
    Except Stop Invocation := do
  let reading ← words.foldlM (fun r word => r.take word) (Reading.level [] (.new .program))
  reading.finish environment

end SignOn
