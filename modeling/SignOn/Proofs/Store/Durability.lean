import SignOn.Proofs.Text.Utf8
import SignOn.Proofs.Store.Document
import SignOn.Store
/-!
# Memory never diverges from the file

Each of the nine changes of a store is one `commit` of new contents (`apply_eq_commit`), and a
commit has two ways to end (`commit_cases`).  Either the file now holds the text of the new contents
and memory holds the contents, or one of the three steps of the replacement failed and everything
that can be seen is as it was (`Spared`).

What a newly opened store reads from a file is therefore the invariant of a run.  It holds at the
start by definition, also for a file that cannot be read, since memory starts empty then.  A commit
that succeeds restores it because contents are read back from their text; one that fails leaves
both sides alone.  The main statement is `run_durable`.
-/

namespace SignOn

/-- What anybody sees of a state file: neither the copy left beside it nor what is yet to fail. -/
def StateFile.visible (f : StateFile) : String × StateFile.Content × Bool :=
  (f.path, f.content, f.ownerOnly)

/-- What is read from a file depends only on what can be seen of it. -/
theorem StateFile.reads_of_visible {f g : StateFile} (h : g.visible = f.visible) :
    g.path = f.path ∧ g.isPresent = f.isPresent ∧ g.text = f.text := by
  have hcontent : g.content = f.content := congrArg (fun v => v.2.1) h
  exact ⟨congrArg Prod.fst h, by simp only [isPresent, hcontent], by simp only [text, hcontent]⟩

namespace Store

/-- A change to the contents of a store. -/
inductive Change
  | set (t : ScopedToken)
  | delete (id : String)
  | deleteAll
  | setValue (key value : String)
  | deleteValue (key : String)
  | setAuthMode (id : String) (mode : AuthMode)
  | clearAuthMode (id : String)
  | setBearer (t : BearerToken)
  | clearBearer

/-- Make a change. -/
def apply (s : Store) : Change → Except Fault Unit × Store
  | .set t => s.set t
  | .delete id => s.delete id
  | .deleteAll => s.deleteAll
  | .setValue key value => s.setValue key value
  | .deleteValue key => s.deleteValue key
  | .setAuthMode id mode => s.setAuthMode id mode
  | .clearAuthMode id => s.clearAuthMode id
  | .setBearer t => s.setBearer t
  | .clearBearer => s.clearBearer

/-- Make changes one after another, whatever becomes of each. -/
def run (s : Store) (changes : List Change) : Store :=
  changes.foldl (fun s c => (s.apply c).2) s

namespace Change

/-- The contents after a change. -/
def next (c : Contents) : Change → Contents
  | set t => c.setToken t
  | delete id => c.eraseToken id
  | deleteAll => c.eraseAll
  | setValue key value => c.setValue key value
  | deleteValue key => c.eraseValue key
  | setAuthMode id mode => c.setValue (Contents.modeKey id) mode.marker
  | clearAuthMode id => c.eraseValue (Contents.modeKey id)
  | setBearer t => c.setBearer t
  | clearBearer => c.eraseBearer

/-- What subscribers are told about a change. -/
def told (c : Contents) : Change → List StoreEvent
  | set t => [.scopeChanged t.scope.id]
  | delete id => if c.scopes.contains id then [.scopeRemoved id] else []
  | deleteAll => [.cleared]
  | setValue key _ => eventsOfKey key
  | deleteValue key => if c.values.contains key then eventsOfKey key else []
  | setAuthMode id _ => eventsOfKey (Contents.modeKey id)
  | clearAuthMode id =>
    if c.values.contains (Contents.modeKey id) then eventsOfKey (Contents.modeKey id) else []
  | setBearer _ => [.bearerChanged]
  | clearBearer =>
    if c.values.contains Contents.accessKey ∨ c.values.contains Contents.idKey
      then [.bearerChanged] else []

end Change

/-- Every change is one commit. -/
theorem apply_eq_commit (s : Store) (c : Change) :
    s.apply c = s.commit (c.next s.contents) (c.told s.contents) := by
  cases c <;> rfl

/-- Between two standings of a store nothing has changed that anybody sees. -/
structure Spared (s s' : Store) : Prop where
  contents : s'.contents = s.contents
  events : s'.events = s.events
  file : s'.file.map StateFile.visible = s.file.map StateFile.visible

/-- The contents in memory are those that a store newly opened at `path` reads. -/
def Mirrors (path : String) (s : Store) : Prop :=
  ∃ f, s.file = some f ∧ f.path = path ∧ (openFile f).1.contents = s.contents

/-- A text that has replaced a file is what the file holds. -/
theorem text_replace {f g : StateFile} {restrict : Bool} {text : String}
    (h : f.replace restrict text = (.ok (), g)) : g.isPresent = true ∧ g.text = .ok text := by
  have hg : g.content = .file (Utf8.encode text) := by
    unfold StateFile.replace at h
    split at h <;> cases h
    rfl
  refine ⟨by simp [StateFile.isPresent, hg], ?_⟩
  simp only [StateFile.text, hg, Utf8.decode?_encode]

/-- A replacement does not move the file. -/
theorem path_replace (f : StateFile) (restrict : Bool) (text : String) :
    (f.replace restrict text).2.path = f.path := by
  unfold StateFile.replace
  split <;> rfl

/-- Whichever step of a replacement fails, the file is what it was. -/
theorem replace_error {f g : StateFile} {restrict : Bool} {text : String} {fault : Fault}
    (h : f.replace restrict text = (.error fault, g)) :
    g.visible = f.visible ∧ ∃ cause, fault = .storage cause := by
  unfold StateFile.replace at h
  split at h <;> cases h <;> exact ⟨rfl, _, rfl⟩

/-- What a newly opened store reads depends only on what can be seen of its file. -/
theorem openFile_of_visible {f g : StateFile} (h : g.visible = f.visible) :
    (openFile g).1.contents = (openFile f).1.contents := by
  obtain ⟨-, hpresent, htext⟩ := StateFile.reads_of_visible h
  simp only [openFile, load, htext, hpresent]

/-- Opening a file reads the contents whose text it holds. -/
theorem openFile_of_text {f : StateFile} {c : Contents} (hpresent : f.isPresent = true)
    (htext : f.text = .ok c.text) : openFile f = (⟨some f, c, []⟩, []) := by
  simp [openFile, load, hpresent, htext, Contents.ofText?_text]

/-- **A commit has two ways to end.**  It makes the new contents those of memory, and of the file if
there is one, and tells subscribers; or the file cannot be replaced, and nothing that can be seen
has changed. -/
theorem commit_cases (s : Store) (next : Contents) (told : List StoreEvent) :
    (∃ file, s.commit next told = (.ok (), ⟨file, next, s.events ++ told⟩) ∧
        ∀ f, s.file = some f →
          ∃ g, file = some g ∧ g.path = f.path ∧ (openFile g).1.contents = next) ∨
      ∃ cause file, s.commit next told = (.error (.storage cause), { s with file }) ∧
        file.map StateFile.visible = s.file.map StateFile.visible := by
  cases hf : s.file with
  | none =>
      refine .inl ⟨none, by simp only [commit, hf], ?_⟩
      intro f h
      cases h
  | some f =>
      have hpath := path_replace f true next.text
      rcases hreplace : f.replace true next.text with ⟨result, g⟩
      rw [hreplace] at hpath
      match result with
      | .ok () =>
          obtain ⟨hpresent, htext⟩ := text_replace hreplace
          refine .inl ⟨some g, by simp only [commit, hf, hreplace], ?_⟩
          intro f' h
          cases h
          exact ⟨g, rfl, hpath, by rw [openFile_of_text hpresent htext]⟩
      | .error fault =>
          obtain ⟨hvisible, cause, rfl⟩ := replace_error hreplace
          exact .inr ⟨cause, some g, by simp only [commit, hf, hreplace], congrArg some hvisible⟩

/-- **A change is made and told, or it spares everything.** -/
theorem apply_cases (s : Store) (c : Change) :
    ((s.apply c).1 = .ok () ∧ (s.apply c).2.contents = c.next s.contents ∧
        (s.apply c).2.events = s.events ++ c.told s.contents) ∨
      ∃ cause, (s.apply c).1 = .error (.storage cause) ∧ s.Spared (s.apply c).2 := by
  rw [apply_eq_commit]
  rcases commit_cases s (c.next s.contents) (c.told s.contents) with
    ⟨file, hcommit, -⟩ | ⟨cause, file, hcommit, hvisible⟩
  · rw [hcommit]
    exact .inl ⟨rfl, rfl, rfl⟩
  · rw [hcommit]
    exact .inr ⟨cause, rfl, rfl, rfl, hvisible⟩

/-- A store that was just opened holds what the file says. -/
theorem mirrors_openFile (f : StateFile) : Mirrors f.path (openFile f).1 :=
  ⟨f, rfl, rfl, rfl⟩

/-- One change keeps memory and file in step, also when it fails. -/
theorem mirrors_apply {path : String} {s : Store} (h : Mirrors path s) (c : Change) :
    Mirrors path (s.apply c).2 := by
  obtain ⟨f, hf, hpath, hread⟩ := h
  rw [apply_eq_commit]
  rcases commit_cases s (c.next s.contents) (c.told s.contents) with
    ⟨file, hcommit, hfile⟩ | ⟨cause, file, hcommit, hvisible⟩
  · obtain ⟨g, rfl, hg, hreadg⟩ := hfile f hf
    rw [hcommit]
    exact ⟨g, rfl, hg.trans hpath, hreadg⟩
  · rw [hf] at hvisible
    obtain ⟨g, rfl, hg⟩ := Option.map_eq_some_iff.mp hvisible
    have hsame : g.path = f.path := congrArg Prod.fst hg
    rw [hcommit]
    exact ⟨g, rfl, hsame.trans hpath, (openFile_of_visible hg).trans hread⟩

/-- What every change keeps holds after any number of them. -/
theorem run_keeps {P : Store → Prop} (hstep : ∀ s, P s → ∀ c, P (s.apply c).2)
    (changes : List Change) : ∀ {s : Store}, P s → P (s.run changes) := by
  induction changes with
  | nil =>
      intro s h
      exact h
  | cons c changes ih =>
      intro s h
      exact ih (hstep s h c)

/-- Any number of changes keeps memory and file in step. -/
theorem mirrors_run {path : String} (changes : List Change) {s : Store} (h : Mirrors path s) :
    Mirrors path (s.run changes) :=
  run_keeps (fun _ => mirrors_apply) changes h

/-- **Memory never diverges from the file.**  Whatever a file holds, whichever changes have been
made to the store opened in it, and whichever of their writes have failed at whichever step: a store
that is newly opened in the file reads the contents in memory.  The next change is made, or it
reports a fault and spares contents, file and subscribers. -/
theorem run_durable (f : StateFile) (changes : List Change) (c : Change) :
    let s := (openFile f).1.run changes
    Mirrors f.path s ∧
      (((s.apply c).1 = .ok () ∧ (s.apply c).2.contents = c.next s.contents ∧
          (s.apply c).2.events = s.events ++ c.told s.contents) ∨
        ∃ cause, (s.apply c).1 = .error (.storage cause) ∧ s.Spared (s.apply c).2) := by
  intro s
  exact ⟨mirrors_run changes (mirrors_openFile f), s.apply_cases c⟩

end Store

end SignOn
