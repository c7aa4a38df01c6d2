import Mathlib.Logic.Function.Basic
import SignOn.Proofs.Store.Durability
import SignOn.Proofs.Store.Keys
/-!
# The parts of a store

A store keeps everything in two maps, and the second one mixes tokens, markers and other values.  It
behaves as if it had four parts that know nothing of each other (`Parts`): the tokens of the scopes,
their markers, the pair of bearer tokens, and the values under free keys.  On the parts each change
is a plain assignment (`Parts.step`), and its place says which of them it may touch.

One change of a store is one step of its parts, or fails and leaves them alone
(`Parts.of_apply`).  A run is therefore the steps of the changes that were made, and a store that is
opened again in the file has the same parts.  What anybody asks a store is read off the parts
(`Parts.reads_of`), so that a change shows nowhere but in its own place.  The main statement is
`behaves_as_parts`.
-/

namespace SignOn

open Contents (Slot IsFree)

/-- What a store holds, in four parts. -/
@[ext]
structure Parts where
  token : String → Option ScopedToken
  marker : String → Option String
  bearer : Option String × Option String
  free : Subtype IsFree → Option String

/-- What a change may touch. -/
inductive Parts.Place
  | scope (id : String)
  | allScopes
  | bearer
  | free (key : Subtype IsFree)

/-- The place of a slot. -/
def Contents.Slot.place : Slot → Parts.Place
  | access | idToken => .bearer
  | marker id => .scope id
  | free key => .free key

/-- The place of a change. -/
def Store.Change.place : Store.Change → Parts.Place
  | set t => .scope t.scope.id
  | delete id => .scope id
  | deleteAll => .allScopes
  | setValue key _ | deleteValue key => (Slot.ofKey key).place
  | setAuthMode id _ | clearAuthMode id => .scope id
  | setBearer _ | clearBearer => .bearer

/-- Whether a change leaves the token of a scope in place. -/
def Store.Change.SparesToken (id : String) : Store.Change → Prop
  | set t => t.scope.id ≠ id
  | delete other => other ≠ id
  | deleteAll => False
  | _ => True

namespace Parts

/-- The parts of what a store holds. -/
def of (c : Contents) : Parts :=
  ⟨c.token?, fun id => c.value? (.marker id), (c.value? .access, c.value? .idToken),
    fun key => c.value? (.free key)⟩

/-- Keep a value in a slot, or remove it. -/
def put (p : Parts) : Slot → Option String → Parts
  | .access, value => { p with bearer := (value, p.bearer.2) }
  | .idToken, value => { p with bearer := (p.bearer.1, value) }
  | .marker id, value => { p with marker := Function.update p.marker id value }
  | .free key, value => { p with free := Function.update p.free key value }

/-- Make a change to the parts. -/
def step (p : Parts) : Store.Change → Parts
  | .set t => { p with token := Function.update p.token t.scope.id (some t) }
  | .delete id => { p with token := Function.update p.token id none }
  | .deleteAll => { p with token := fun _ => none, marker := fun _ => none }
  | .setValue key value => p.put (.ofKey key) (some value)
  | .deleteValue key => p.put (.ofKey key) none
  | .setAuthMode id mode => { p with marker := Function.update p.marker id (some mode.marker) }
  | .clearAuthMode id => { p with marker := Function.update p.marker id none }
  | .setBearer t => { p with bearer := (some t.accessToken, t.idToken) }
  | .clearBearer => { p with bearer := (none, none) }

/-- What is kept in a slot. -/
def value? (p : Parts) : Slot → Option String
  | .access => p.bearer.1
  | .idToken => p.bearer.2
  | .marker id => p.marker id
  | .free key => p.free key

/-- How a scope was last authenticated. -/
def authMode? (p : Parts) (id : String) : Option AuthMode :=
  (p.marker id).bind AuthMode.ofMarker?

/-- The bearer token, if there is an access token. -/
def bearer? (p : Parts) : Option BearerToken :=
  p.bearer.1.map fun access => ⟨access, p.bearer.2⟩

/-- The credential that a client of a scope sends. -/
def credential? (p : Parts) (id : String) : Option Credential :=
  match p.token id with
  | some ⟨_, some username, some password⟩ => some (.basic username password)
  | _ =>
    if p.authMode? id = some .oauth2 then p.bearer?.map fun b => .bearer b.accessToken else none

/-- What anybody asks about contents is answered by the parts. -/
structure Reads (p : Parts) (c : Contents) : Prop where
  value : ∀ key, c.values.get? key = p.value? (.ofKey key)
  token : ∀ id, c.token? id = p.token id
  authMode : ∀ id, c.authMode? id = p.authMode? id
  bearer : c.bearer? = p.bearer?
  credential : ∀ id, c.credential? id = p.credential? id

/-- The parts differ in no other place. -/
def SameBut (p q : Parts) : Place → Prop
  | .scope id =>
    (∀ other, other ≠ id → q.token other = p.token other ∧ q.marker other = p.marker other) ∧
      q.bearer = p.bearer ∧ q.free = p.free
  | .allScopes => q.bearer = p.bearer ∧ q.free = p.free
  | .bearer => q.token = p.token ∧ q.marker = p.marker ∧ q.free = p.free
  | .free key =>
    q.token = p.token ∧ q.marker = p.marker ∧ q.bearer = p.bearer ∧
      ∀ other, other ≠ key → q.free other = p.free other

/-- **What is asked about contents is read off their parts.** -/
theorem reads_of (c : Contents) : (of c).Reads c where
  value key := by
    have hvalue : ∀ slot, (of c).value? slot = c.value? slot := fun slot => by cases slot <;> rfl
    rw [hvalue, Contents.value?, Slot.key_ofKey]
  token _ := rfl
  authMode _ := rfl
  bearer := rfl
  credential id := by
    unfold credential? Contents.credential?
    simp only [of, Contents.token?]
    rcases c.scopes.get? id with _ | ⟨name, _ | username, _ | password⟩ <;> rfl

/-- What is asked about a scope depends on its token, its marker and the bearer tokens. -/
theorem scope_congr {c c' : Contents} {id : String}
    (htoken : (of c').token id = (of c).token id) (hmarker : (of c').marker id = (of c).marker id)
    (hbearer : (of c').bearer = (of c).bearer) :
    c'.token? id = c.token? id ∧ c'.authMode? id = c.authMode? id ∧
      c'.credential? id = c.credential? id := by
  have hmode : (of c').authMode? id = (of c).authMode? id := by
    rw [authMode?, hmarker, authMode?]
  refine ⟨htoken, hmode, ?_⟩
  rw [(reads_of c').credential, (reads_of c).credential]
  simp only [credential?, bearer?, htoken, hmode, hbearer]

/-- Contents that differ from others in one slot have the parts of those with that slot put. -/
theorem of_eq_put (c c' : Contents) {slot : Slot} {value : Option String}
    (hscopes : c'.scopes = c.scopes)
    (hvalue : ∀ other, c'.value? other = if other = slot then value else c.value? other) :
    of c' = (of c).put slot value := by
  have htoken : c'.token? = c.token? := by
    funext id
    rw [Contents.token?, hscopes, Contents.token?]
  refine Parts.ext ?_ ?_ ?_ ?_
  · cases slot <;> exact htoken
  · funext id
    cases slot <;> simp [of, put, hvalue, Function.update_apply]
  · cases slot <;> simp [of, put, hvalue]
  · funext key
    cases slot <;> simp [of, put, hvalue, Function.update_apply]

theorem of_setValue (c : Contents) (key value : String) :
    of (c.setValue key value) = (of c).put (.ofKey key) (some value) := by
  have h := of_eq_put c (c.setValue (Slot.ofKey key).key value) rfl
    fun other => c.value?_setValue (.ofKey key) other value
  rwa [Slot.key_ofKey] at h

theorem of_eraseValue (c : Contents) (key : String) :
    of (c.eraseValue key) = (of c).put (.ofKey key) none := by
  have h := of_eq_put c (c.eraseValue (Slot.ofKey key).key) rfl
    fun other => c.value?_eraseValue (.ofKey key) other
  rwa [Slot.key_ofKey] at h

theorem of_setToken (c : Contents) (t : ScopedToken) :
    of (c.setToken t) =
      { of c with token := Function.update c.token? t.scope.id (some t) } := by
  have htoken : (c.setToken t).token? = Function.update c.token? t.scope.id (some t) := by
    funext id
    by_cases hid : id = t.scope.id
    · simp [hid, Contents.token?, Contents.setToken, KeyMap.get?_insert, Contents.tokenOf]
    · simp [hid, Contents.token?, Contents.setToken, KeyMap.get?_insert]
  exact Parts.ext htoken rfl rfl rfl

theorem of_eraseToken (c : Contents) (id : String) :
    of (c.eraseToken id) = { of c with token := Function.update c.token? id none } := by
  have htoken : (c.eraseToken id).token? = Function.update c.token? id none := by
    funext other
    by_cases hother : other = id
    · simp [hother, Contents.token?, Contents.eraseToken, KeyMap.get?_erase]
    · simp [hother, Contents.token?, Contents.eraseToken, KeyMap.get?_erase]
  exact Parts.ext htoken rfl rfl rfl

theorem of_eraseAll (c : Contents) :
    of c.eraseAll = { of c with token := fun _ => none, marker := fun _ => none } := by
  refine Parts.ext ?_ ?_ ?_ ?_
  · funext id
    rfl
  · funext id
    exact c.value?_eraseAll (.marker id)
  · exact Prod.ext (c.value?_eraseAll .access) (c.value?_eraseAll .idToken)
  · funext key
    exact c.value?_eraseAll (.free key)

/-- **The contents after a change have the parts after it.** -/
theorem of_next (c : Contents) (change : Store.Change) :
    of (change.next c) = (of c).step change := by
  cases change with
  | set t => exact of_setToken c t
  | delete id => exact of_eraseToken c id
  | deleteAll => exact of_eraseAll c
  | setValue key value => exact of_setValue c key value
  | deleteValue key => exact of_eraseValue c key
  | setAuthMode id mode =>
      have h := of_setValue c (Slot.marker id).key mode.marker
      rwa [Slot.ofKey_key] at h
  | clearAuthMode id =>
      have h := of_eraseValue c (Slot.marker id).key
      rwa [Slot.ofKey_key] at h
  | setBearer t =>
      obtain ⟨access, _ | idToken⟩ := t
      · calc of (c.setBearer ⟨access, none⟩)
            = of ((c.setValue Slot.access.key access).eraseValue Slot.idToken.key) := rfl
          _ = (of c).step (.setBearer ⟨access, none⟩) := by
              rw [of_eraseValue, of_setValue, Slot.ofKey_key, Slot.ofKey_key]
              rfl
      · calc of (c.setBearer ⟨access, some idToken⟩)
            = of ((c.setValue Slot.access.key access).setValue Slot.idToken.key idToken) := rfl
          _ = (of c).step (.setBearer ⟨access, some idToken⟩) := by
              rw [of_setValue, of_setValue, Slot.ofKey_key, Slot.ofKey_key]
              rfl
  | clearBearer =>
      calc of c.eraseBearer
          = of ((c.eraseValue Slot.access.key).eraseValue Slot.idToken.key) := rfl
        _ = (of c).step .clearBearer := by
            rw [of_eraseValue, of_eraseValue, Slot.ofKey_key, Slot.ofKey_key]
            rfl

/-- **A change of a store is a step of its parts**, or it fails and changes nothing. -/
theorem of_apply (s : Store) (c : Store.Change) :
    ((s.apply c).1 = .ok () ∧ of (s.apply c).2.contents = (of s.contents).step c) ∨
      ((∃ fault, (s.apply c).1 = .error fault) ∧ (s.apply c).2.contents = s.contents) := by
  rcases s.apply_cases c with ⟨hok, hcontents, -⟩ | ⟨cause, herror, hspared⟩
  · exact .inl ⟨hok, by rw [hcontents, of_next]⟩
  · exact .inr ⟨⟨_, herror⟩, hspared.contents⟩

/-- A change that is made is a step. -/
theorem of_apply_ok {s : Store} {c : Store.Change} (h : (s.apply c).1 = .ok ()) :
    of (s.apply c).2.contents = (of s.contents).step c := by
  rcases of_apply s c with ⟨-, hstep⟩ | ⟨⟨fault, herror⟩, -⟩
  · exact hstep
  · rw [h] at herror
    cases herror

theorem sameBut_refl (p : Parts) (place : Place) : p.SameBut p place := by
  cases place <;> simp [SameBut]

/-- A value in a slot shows in the place of the slot. -/
theorem sameBut_put (p : Parts) (slot : Slot) (value : Option String) :
    p.SameBut (p.put slot value) slot.place := by
  cases slot <;> simp +contextual [SameBut, put, Slot.place]

/-- **A step touches nothing but its place.** -/
theorem sameBut_step (p : Parts) (c : Store.Change) : p.SameBut (p.step c) c.place := by
  cases c with
  | setValue key value => exact p.sameBut_put (.ofKey key) (some value)
  | deleteValue key => exact p.sameBut_put (.ofKey key) none
  | _ => simp +contextual [SameBut, step, Store.Change.place]

/-- A change of a store touches nothing but its place, also when it fails. -/
theorem sameBut_apply (s : Store) (c : Store.Change) :
    (of s.contents).SameBut (of (s.apply c).2.contents) c.place := by
  rcases of_apply s c with ⟨-, hstep⟩ | ⟨-, hsame⟩
  · rw [hstep]
    exact sameBut_step _ c
  · rw [hsame]
    exact sameBut_refl _ _

/-- A step that spares the token of a scope keeps it. -/
theorem token_step {id : String} {c : Store.Change} (h : c.SparesToken id) (p : Parts) :
    (p.step c).token id = p.token id := by
  cases c with
  | set t => exact Function.update_of_ne (Ne.symm h) _ _
  | delete other => exact Function.update_of_ne (Ne.symm h) _ _
  | deleteAll => exact h.elim
  | setValue key value => simp only [step]; cases Slot.ofKey key <;> rfl
  | deleteValue key => simp only [step]; cases Slot.ofKey key <;> rfl
  | _ => rfl

end Parts

namespace KeyMap

variable {α : Type}

/-- An entry of a list in order is found under its key, and nothing else is. -/
theorem lookup_eq_some_iff {key : String} {value : α} :
    ∀ {l : List (String × α)}, Sorted l → (lookup key l = some value ↔ (key, value) ∈ l)
  | [], _ => by simp [lookup]
  | (k, v) :: rest, h => by
      obtain ⟨hbefore, hrest⟩ := List.pairwise_cons.mp h
      by_cases hkey : key = k
      · have hnot : (key, value) ∉ rest := fun hmem =>
          String.lt_irrefl k (hkey ▸ hbefore _ hmem)
        simp [lookup, hkey, hkey ▸ hnot, eq_comm]
      · simp [lookup, hkey, lookup_eq_some_iff hrest]

/-- The entries of a map are those that are found. -/
theorem mem_toList_iff (m : KeyMap α) (key : String) (value : α) :
    (key, value) ∈ m.toList ↔ m.get? key = some value :=
  (lookup_eq_some_iff m.sorted).symm

end KeyMap

namespace Contents

/-- The listed tokens are those that are found, each under its own scope. -/
theorem token?_eq_some_iff (c : Contents) (id : String) (t : ScopedToken) :
    c.token? id = some t ↔ t ∈ c.tokens ∧ t.scope.id = id := by
  simp only [tokens, token?, List.mem_map, Prod.exists, KeyMap.mem_toList_iff,
    Option.map_eq_some_iff]
  constructor
  · intro hparts
    obtain ⟨stored, hget, rfl⟩ := hparts
    exact ⟨⟨id, stored, hget, rfl⟩, rfl⟩
  · intro hparts
    obtain ⟨⟨id', stored, hget, rfl⟩, rfl⟩ := hparts
    exact ⟨stored, hget, rfl⟩

/-- Tokens are listed in increasing order of their scopes, so each scope has one at most. -/
theorem pairwise_tokens (c : Contents) :
    c.tokens.Pairwise fun a b => a.scope.id < b.scope.id :=
  List.pairwise_map.mpr c.scopes.sorted

end Contents

namespace Store

/-- The changes of a run that are made; the others fail. -/
def made (s : Store) : List Change → List Change
  | [] => []
  | c :: changes =>
    match s.apply c with
    | (.ok (), s') => c :: s'.made changes
    | (.error _, s') => s'.made changes

/-- **A run is the steps of the changes that were made.** -/
theorem of_run (changes : List Change) :
    ∀ s : Store,
      Parts.of (s.run changes).contents =
        (s.made changes).foldl Parts.step (Parts.of s.contents) := by
  induction changes with
  | nil =>
      intro s
      rfl
  | cons c changes ih =>
      intro s
      have hrun : s.run (c :: changes) = (s.apply c).2.run changes := rfl
      rw [hrun, ih]
      rcases Parts.of_apply s c with ⟨hok, hstep⟩ | ⟨⟨fault, herror⟩, hsame⟩
      · have hmade : s.made (c :: changes) = c :: (s.apply c).2.made changes := by
          rw [made, show s.apply c = (.ok (), (s.apply c).2) from Prod.ext hok rfl]
        rw [hmade, hstep, List.foldl_cons]
      · have hmade : s.made (c :: changes) = (s.apply c).2.made changes := by
          rw [made, show s.apply c = (.error fault, (s.apply c).2) from Prod.ext herror rfl]
        rw [hmade, hsame]

/-- A store in memory stays there. -/
theorem file_run_of_none (changes : List Change) {s : Store} (h : s.file = none) :
    (s.run changes).file = none := by
  refine run_keeps (P := fun s => s.file = none) ?_ changes h
  intro s hnone c
  rw [apply_eq_commit]
  simp only [commit, hnone]

/-- A token is kept by a run whose changes spare it. -/
theorem token?_run {id : String} {changes : List Change} (h : ∀ c ∈ changes, c.SparesToken id) :
    ∀ s : Store, (s.run changes).contents.token? id = s.contents.token? id := by
  induction changes with
  | nil =>
      intro s
      rfl
  | cons c changes ih =>
      intro s
      have hfirst : (s.apply c).2.contents.token? id = s.contents.token? id := by
        rcases Parts.of_apply s c with ⟨-, hstep⟩ | ⟨-, hsame⟩
        · have htoken := congrArg (fun p => p.token id) hstep
          exact htoken.trans (Parts.token_step (h c List.mem_cons_self) _)
        · rw [hsame]
      have hrest := ih (fun d hd => h d (List.mem_cons_of_mem c hd)) (s.apply c).2
      exact hrest.trans hfirst

/-- What is asked about a scope does not show a change in the place of another scope. -/
theorem scope_apply (s : Store) {c : Change} {id other : String} (hplace : c.place = .scope id)
    (hother : other ≠ id) :
    let after := (s.apply c).2.contents
    after.token? other = s.contents.token? other ∧
      after.authMode? other = s.contents.authMode? other ∧
      after.credential? other = s.contents.credential? other := by
  intro after
  have hsame := Parts.sameBut_apply s c
  rw [hplace] at hsame
  obtain ⟨hscopes, hbearer, -⟩ := hsame
  obtain ⟨htoken, hmarker⟩ := hscopes other hother
  exact Parts.scope_congr htoken hmarker hbearer

/-- A token that is set is there until another change of the same token is made. -/
theorem token?_set {s : Store} {t : ScopedToken} (h : (s.apply (.set t)).1 = .ok ())
    {later : List Change} (hlater : ∀ c ∈ later, c.SparesToken t.scope.id) :
    ((s.apply (.set t)).2.run later).contents.token? t.scope.id = some t := by
  have htoken := congrArg (fun p => p.token t.scope.id) (Parts.of_apply_ok h)
  rw [token?_run hlater]
  exact htoken.trans (Function.update_self _ _ _)

/-- A store as it is when it is made: in memory, or opened in a file. -/
def opened : Option StateFile → Store
  | none => inMemory
  | some f => (openFile f).1

/-- The parts survive that the store is opened again. -/
theorem of_reopened {file : Option StateFile} {changes : List Change} {f : StateFile}
    (h : ((opened file).run changes).file = some f) :
    Parts.of (openFile f).1.contents = Parts.of ((opened file).run changes).contents := by
  cases file with
  | none =>
      have hnone := file_run_of_none (s := opened none) changes rfl
      rw [hnone] at h
      cases h
  | some g =>
      obtain ⟨f', hf', -, hread⟩ := mirrors_run changes (mirrors_openFile g)
      have hsame : some f' = some f := hf'.symm.trans h
      cases hsame
      exact congrArg Parts.of hread

/-- **A store behaves as four independent parts.**  However a store was made and whichever changes
it has gone through, with whatever keys, ids and failing writes: its parts are those that the steps
of the changes made give, and they survive that it is opened again.  What anybody asks is read off
the parts.  The next change is one step of them that touches nothing but its place, or it fails and
touches nothing.  What is asked about a scope does not show a change in the place of another scope;
clearing all scopes empties just the parts of the scopes; a token that is set is there until that
token is changed again; and the listing shows the tokens that are there, in the order of their
scopes. -/
theorem behaves_as_parts (file : Option StateFile) (changes : List Change) (c : Change) :
    let s := (opened file).run changes
    let after := (s.apply c).2
    Parts.of s.contents =
        ((opened file).made changes).foldl Parts.step (Parts.of (opened file).contents) ∧
      (∀ f, s.file = some f → Parts.of (openFile f).1.contents = Parts.of s.contents) ∧
      (Parts.of s.contents).Reads s.contents ∧
      (((s.apply c).1 = .ok () ∧ Parts.of after.contents = (Parts.of s.contents).step c) ∨
        ((∃ fault, (s.apply c).1 = .error fault) ∧ after.contents = s.contents)) ∧
      (Parts.of s.contents).SameBut (Parts.of after.contents) c.place ∧
      (∀ id other, c.place = .scope id → other ≠ id →
        after.contents.token? other = s.contents.token? other ∧
          after.contents.authMode? other = s.contents.authMode? other ∧
          after.contents.credential? other = s.contents.credential? other) ∧
      (c = .deleteAll → (s.apply c).1 = .ok () →
        Parts.of after.contents =
          { Parts.of s.contents with token := fun _ => none, marker := fun _ => none }) ∧
      (∀ t later, c = .set t → (s.apply c).1 = .ok () →
        (∀ d ∈ later, d.SparesToken t.scope.id) →
          (after.run later).contents.token? t.scope.id = some t) ∧
      (∀ id t, s.contents.token? id = some t ↔ t ∈ s.contents.tokens ∧ t.scope.id = id) ∧
      s.contents.tokens.Pairwise fun a b => a.scope.id < b.scope.id := by
  intro s after
  refine ⟨of_run changes (opened file), ?_, Parts.reads_of s.contents, Parts.of_apply s c,
    Parts.sameBut_apply s c, ?_, ?_, ?_, s.contents.token?_eq_some_iff,
    s.contents.pairwise_tokens⟩
  · intro f hf
    exact of_reopened hf
  · intro id other hplace hother
    exact s.scope_apply hplace hother
  · rintro rfl hok
    exact Parts.of_apply_ok hok
  · rintro t later rfl hok hlater
    exact token?_set hok hlater

end Store

end SignOn
