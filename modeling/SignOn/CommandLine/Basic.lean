import SignOn.Text.Split
/-!
# Commands and options

What the program can be asked to do (`Command`), and how that is said: a command stands at a
`Place` in a tree, and at each place some options (`Switch`) may be given.  Three options are
allowed everywhere, and some may be given by environment variables as well.
-/

namespace SignOn

/-- A command about pinned certificates. -/
inductive PinCommand
  | acquire (url : Option String)
  | refresh
  | list
  deriving DecidableEq, Repr

/-- A command about logins. -/
inductive LoginCommand
  | login (scope username password : String)
  | logout (scope : String)
  | logoutAll
  | overview (format : String)
  | browserLogin (seconds : Nat)
  | browserLogout
  | checkToken
  deriving DecidableEq, Repr

/-- What the program is asked to do. -/
inductive Command
  | pins (c : PinCommand)
  | logins (c : LoginCommand)
  deriving DecidableEq, Repr

/-- An option. -/
inductive Switch
  | config
  | logLevel
  | logFormat
  | username
  | password
  | all
  | format
  | timeout
  | help
  | version
  deriving DecidableEq, Repr

namespace Switch

/-- The name, which stands behind two dashes. -/
def name : Switch → String
  | config => "config"
  | logLevel => "log-level"
  | logFormat => "log-format"
  | username => "username"
  | password => "password"
  | all => "all"
  | format => "format"
  | timeout => "timeout-secs"
  | help => "help"
  | version => "version"

/-- The letter, which stands behind one dash. -/
def letter? : Switch → Option Char
  | config => some 'c'
  | username => some 'u'
  | password => some 'p'
  | format => some 'f'
  | help => some 'h'
  | version => some 'V'
  | logLevel | logFormat | all | timeout => none

/-- Whether a value follows. -/
def takesValue : Switch → Bool
  | all | help | version => false
  | _ => true

/-- The environment variable that is used when the option is not given. -/
def variableName? : Switch → Option String
  | config => some "CONTROLROOM_AUTH_CONFIG"
  | logLevel => some "CONTROLROOM_AUTH_LOG_LEVEL"
  | logFormat => some "CONTROLROOM_AUTH_LOG_FORMAT"
  | username => some "CONTROLROOM_AUTH_USERNAME"
  | password => some "CONTROLROOM_AUTH_PASSWORD"
  | all | format | timeout | help | version => none

/-- The options that are allowed everywhere. -/
def everywhere : List Switch := [config, logLevel, logFormat, help]

/-- A number of seconds below 2^64; a plus may stand before it. -/
def seconds? (text : String) : Option Nat :=
  let digits := match text.toList with
    | '+' :: rest => rest
    | s => s
  (Text.digitsToNat? digits).filter (· < 0x10000000000000000)

end Switch

/-- A place in the tree of commands. -/
inductive Place
  | program
  | certs
  | certsAcquire
  | certsRefresh
  | certsList
  | login
  | logout
  | status
  | oauth
  | oauthLogin
  | oauthLogout
  | token
  | tokenCheck
  | help
  deriving DecidableEq, Repr

namespace Place

/-- The places right below one, with the words that lead there. -/
def below : Place → List (String × Place)
  | program => [("certs", certs), ("login", login), ("logout", logout), ("status", status),
      ("oauth", oauth), ("token", token), ("help", help)]
  | certs => [("acquire", certsAcquire), ("refresh", certsRefresh), ("list", certsList),
      ("help", help)]
  | oauth => [("login", oauthLogin), ("logout", oauthLogout), ("help", help)]
  | token => [("check", tokenCheck), ("help", help)]
  | _ => []

/-- The place to which a word leads. -/
def step? (p : Place) (word : String) : Option Place :=
  p.below.lookup word

/-- The options of a place. -/
def switches : Place → List Switch
  | program => Switch.everywhere ++ [.version]
  | login => [.username, .password] ++ Switch.everywhere
  | logout => .all :: Switch.everywhere
  | status => .format :: Switch.everywhere
  | oauthLogin => .timeout :: Switch.everywhere
  | help => []
  | _ => Switch.everywhere

/-- Whether a word without a dash may be given at a place. -/
def takesOperand : Place → Bool
  | certsAcquire | login | logout => true
  | _ => false

/-- The option with a name. -/
def named? (p : Place) (name : String) : Option Switch :=
  p.switches.find? fun s => s.name = name

/-- The option with a letter. -/
def lettered? (p : Place) (c : Char) : Option Switch :=
  p.switches.find? fun s => s.letter? = some c

end Place

end SignOn
