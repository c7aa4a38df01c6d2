import SignOn.Store.Contents
import SignOn.StateFile
/-!
# The credential store

The store keeps the credentials of all scopes and the bearer token, in memory or also in a file.
Every change is written before it is made: one that cannot be written leaves memory, file and
subscribers as they were.
-/

namespace SignOn

/-- What subscribers are told about a change. -/
inductive StoreEvent
  | scopeChanged (id : String)
  | scopeRemoved (id : String)
  | bearerChanged
  | cleared
  deriving DecidableEq

/-- The diagnostic text of an event. -/
def StoreEvent.diagnostic : StoreEvent → String
  | scopeChanged id => "ScopeChanged(" ++ Text.quoted id ++ ")"
  | scopeRemoved id => "ScopeRemoved(" ++ Text.quoted id ++ ")"
  | bearerChanged => "BearerChanged"
  | cleared => "Cleared"

/-- A credential store: its file, if it has one, what it holds, and all events sent so far. -/
structure Store where
  file : Option StateFile
  contents : Contents
  events : List StoreEvent

/-- What is noticed when a store is opened. -/
inductive Store.Notice
  | corrupt
  | unreadable (cause : String)
  deriving DecidableEq

namespace Store

/-- A store that never touches a file. -/
def inMemory : Store := ⟨none, .empty, []⟩

/-- Read what a file holds; without a usable file the store starts empty. -/
def load (f : StateFile) : Contents × List Notice :=
  if f.isPresent then
    match f.text with
    | .error cause => (.empty, [.unreadable cause])
    | .ok text =>
      match Contents.ofText? text with
      | none => (.empty, [.corrupt])
      | some c => (c, [])
  else (.empty, [])

/-- Open the store in a file. -/
def openFile (f : StateFile) : Store × List Notice :=
  let (contents, notices) := load f
  (⟨some f, contents, []⟩, notices)

/-- Write `next` and then make it the contents, telling subscribers `told`. -/
def commit (s : Store) (next : Contents) (told : List StoreEvent) : Except Fault Unit × Store :=
  match s.file with
  | none => (.ok (), { s with contents := next, events := s.events ++ told })
  | some f =>
    match f.replace true next.text with
    | (.ok (), f) => (.ok (), ⟨some f, next, s.events ++ told⟩)
    | (.error fault, f) => (.error fault, { s with file := some f })

/-- What subscribers are told about a change under a key. -/
def eventsOfKey (key : String) : List StoreEvent :=
  if key = Contents.accessKey ∨ key = Contents.idKey then [.bearerChanged]
  else
    match Text.dropPrefix? Contents.modeLead key with
    | some id => [.scopeChanged id]
    | none => []

/-- Keep a token in place of the scope's previous one. -/
def set (s : Store) (t : ScopedToken) : Except Fault Unit × Store :=
  s.commit (s.contents.setToken t) [.scopeChanged t.scope.id]

/-- Remove the token of a scope; an absent one is no error. -/
def delete (s : Store) (id : String) : Except Fault Unit × Store :=
  s.commit (s.contents.eraseToken id)
    (if s.contents.scopes.contains id then [.scopeRemoved id] else [])

/-- Remove all tokens and markers of the scopes; the bearer token stays. -/
def deleteAll (s : Store) : Except Fault Unit × Store :=
  s.commit s.contents.eraseAll [.cleared]

/-- Keep a value under a key. -/
def setValue (s : Store) (key value : String) : Except Fault Unit × Store :=
  s.commit (s.contents.setValue key value) (eventsOfKey key)

/-- Remove a key. -/
def deleteValue (s : Store) (key : String) : Except Fault Unit × Store :=
  s.commit (s.contents.eraseValue key)
    (if s.contents.values.contains key then eventsOfKey key else [])

/-- Record how a scope was authenticated. -/
def setAuthMode (s : Store) (id : String) (mode : AuthMode) : Except Fault Unit × Store :=
  s.setValue (Contents.modeKey id) mode.marker

/-- Forget how a scope was authenticated. -/
def clearAuthMode (s : Store) (id : String) : Except Fault Unit × Store :=
  s.deleteValue (Contents.modeKey id)

/-- Keep both tokens of a login in one write. -/
def setBearer (s : Store) (t : BearerToken) : Except Fault Unit × Store :=
  s.commit (s.contents.setBearer t) [.bearerChanged]

/-- Remove both tokens in one write. -/
def clearBearer (s : Store) : Except Fault Unit × Store :=
  s.commit s.contents.eraseBearer
    (if s.contents.values.contains Contents.accessKey ∨ s.contents.values.contains Contents.idKey
      then [.bearerChanged] else [])

end Store

/-- A subscription to the events of a store: how many it has seen. -/
structure Subscription where
  position : Nat

namespace Subscription

/-- How many events wait for a subscriber before the oldest are lost. -/
def capacity : Nat := 64

/-- The events that wait, and how many were lost before them. -/
def drain (sub : Subscription) (s : Store) : Nat × List StoreEvent × Subscription :=
  let waiting := s.events.drop sub.position
  let lost := waiting.length - capacity
  (lost, waiting.drop lost, ⟨s.events.length⟩)

end Subscription

end SignOn
