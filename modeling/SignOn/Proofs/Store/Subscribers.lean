import SignOn.Proofs.Store.Parts
/-!
# Subscribers hold the current view

A subscriber keeps what it has read from a store and asks again where an event tells it to: about
one scope after `scopeChanged` and `scopeRemoved`, about every scope after `bearerChanged` and
`cleared`, and about the bearer token after `bearerChanged`.  This is enough.

The events that a subscriber has not handled yet say where its view may be out of date
(`View.AgreesBut`).  A change of the store is told where it shows (`agreesBut_told`): its events fit
its place, and a change that is not told either changes nothing or concerns a free key, which no
view shows (`told_cases`).  So every step of a store and its subscriber keeps the view right but for
the events on their way, and a subscriber that has missed none and has handled all of them holds the
current view.  The main statement is `subscriber_keeps_up`.
-/

namespace SignOn

open Contents (Slot)

/-- What is asked about a scope. -/
structure ScopeView where
  token : Option ScopedToken
  authMode : Option AuthMode
  credential : Option Credential
  deriving DecidableEq

/-- What is asked about a store. -/
@[ext]
structure View where
  scope : String → ScopeView
  bearer : Option BearerToken

/-- The answers about a scope. -/
def ScopeView.of (c : Contents) (id : String) : ScopeView :=
  ⟨c.token? id, c.authMode? id, c.credential? id⟩

/-- Whether a subscriber asks about a scope again after an event. -/
def StoreEvent.concerns (id : String) : StoreEvent → Bool
  | scopeChanged other | scopeRemoved other => other = id
  | bearerChanged | cleared => true

/-- The events that fit a place. -/
def Parts.Place.Announced (events : List StoreEvent) : Parts.Place → Prop
  | scope id => events = [.scopeChanged id] ∨ events = [.scopeRemoved id]
  | allScopes => events = [.cleared]
  | bearer => events = [.bearerChanged]
  | free _ => events = []

/-- Putting in a slot what it holds changes nothing. -/
theorem Parts.put_value? (p : Parts) (slot : Slot) : p.put slot (p.value? slot) = p := by
  cases slot <;> simp [put, value?, Function.update_eq_self]

namespace View

/-- The answers about a store. -/
def of (c : Contents) : View :=
  ⟨ScopeView.of c, c.bearer?⟩

/-- The view after asking again what an event concerns. -/
def reread (v : View) (c : Contents) (e : StoreEvent) : View :=
  ⟨fun id => if e.concerns id then ScopeView.of c id else v.scope id,
    if e = .bearerChanged then c.bearer? else v.bearer⟩

/-- Two views agree but for what some events concern. -/
structure AgreesBut (v : View) (events : List StoreEvent) (w : View) : Prop where
  scope : ∀ id, (∃ e ∈ events, e.concerns id = true) ∨ v.scope id = w.scope id
  bearer : .bearerChanged ∈ events ∨ v.bearer = w.bearer

variable {v w x : View} {events more : List StoreEvent}

theorem agreesBut_refl (v : View) (events : List StoreEvent) : v.AgreesBut events v :=
  ⟨fun _ => .inr rfl, .inr rfl⟩

/-- Without events on their way views are the same. -/
theorem AgreesBut.eq (h : v.AgreesBut [] w) : v = w := by
  refine View.ext ?_ ?_
  · funext id
    rcases h.scope id with ⟨e, he, -⟩ | hscope
    · cases he
    · exact hscope
  · rcases h.bearer with hmem | hbearer
    · cases hmem
    · exact hbearer

/-- What two steps leave out is what the events of both concern. -/
theorem AgreesBut.trans (h : v.AgreesBut events w) (h' : w.AgreesBut more x) :
    v.AgreesBut (events ++ more) x := by
  refine ⟨?_, ?_⟩
  · intro id
    rcases h.scope id with ⟨e, he, hconcerns⟩ | hscope
    · exact .inl ⟨e, List.mem_append_left more he, hconcerns⟩
    · rcases h'.scope id with ⟨e, he, hconcerns⟩ | hscope'
      · exact .inl ⟨e, List.mem_append_right events he, hconcerns⟩
      · exact .inr (hscope.trans hscope')
  · rcases h.bearer with hmem | hbearer
    · exact .inl (List.mem_append_left more hmem)
    · rcases h'.bearer with hmem | hbearer'
      · exact .inl (List.mem_append_right events hmem)
      · exact .inr (hbearer.trans hbearer')

/-- An event that was handled leaves nothing out any more. -/
theorem AgreesBut.reread {c : Contents} {e : StoreEvent} (h : v.AgreesBut (e :: events) (of c)) :
    (v.reread c e).AgreesBut events (of c) := by
  refine ⟨?_, ?_⟩
  · intro id
    by_cases hconcerns : e.concerns id = true
    · exact .inr (if_pos hconcerns)
    · have hkept : (v.reread c e).scope id = v.scope id := if_neg hconcerns
      rcases h.scope id with ⟨d, hd, hd'⟩ | hscope
      · rcases List.mem_cons.mp hd with rfl | hmem
        · exact absurd hd' hconcerns
        · exact .inl ⟨d, hmem, hd'⟩
      · exact .inr (hkept.trans hscope)
  · by_cases hbearer : e = .bearerChanged
    · exact .inr (if_pos hbearer)
    · have hkept : (v.reread c e).bearer = v.bearer := if_neg hbearer
      rcases h.bearer with hmem | hsame
      · rcases List.mem_cons.mp hmem with heq | hmem
        · exact absurd heq.symm hbearer
        · exact .inl hmem
      · exact .inr (hkept.trans hsame)

/-- The answers about a scope depend on its token, its marker and the bearer tokens. -/
theorem scopeView_congr {c c' : Contents} {id : String}
    (htoken : (Parts.of c').token id = (Parts.of c).token id)
    (hmarker : (Parts.of c').marker id = (Parts.of c).marker id)
    (hbearer : (Parts.of c').bearer = (Parts.of c).bearer) :
    ScopeView.of c id = ScopeView.of c' id := by
  obtain ⟨htoken, hmode, hcredential⟩ := Parts.scope_congr htoken hmarker hbearer
  rw [ScopeView.of, ScopeView.of, htoken, hmode, hcredential]

theorem bearer?_congr {c c' : Contents} (h : (Parts.of c').bearer = (Parts.of c).bearer) :
    c.bearer? = c'.bearer? := by
  rw [(Parts.reads_of c).bearer, (Parts.reads_of c').bearer, Parts.bearer?, Parts.bearer?, h]

end View

namespace Store

/-- What is told about a key fits the place of its slot. -/
theorem announced_eventsOfKey (slot : Slot) : slot.place.Announced (eventsOfKey slot.key) := by
  cases slot with
  | access => rfl
  | idToken => rfl
  | marker id =>
      obtain ⟨haccess, hid⟩ := Contents.modeKey_ne id
      refine .inl ?_
      simp only [Slot.key, eventsOfKey, haccess, hid, or_self, if_false, Slot.dropPrefix?_modeKey]
  | free key =>
      obtain ⟨key, haccess, hid, hlead⟩ := key
      simp only [Slot.key, Slot.place, Parts.Place.Announced, eventsOfKey, haccess, hid, or_self,
        if_false, hlead]

/-- A removal under a key is told if there is something to remove. -/
theorem told_deleteValue_cases (c : Contents) (slot : Slot) :
    ((Change.deleteValue slot.key).told c = [] ∧
        Parts.of ((Change.deleteValue slot.key).next c) = Parts.of c) ∨
      slot.place.Announced ((Change.deleteValue slot.key).told c) := by
  cases hvalue : c.value? slot with
  | none =>
      have habsent : c.values.contains slot.key = false := by
        simpa [KeyMap.contains, Contents.value?] using hvalue
      have hput : (Parts.of c).value? slot = none := by
        rw [← hvalue, Contents.value?, (Parts.reads_of c).value, Slot.ofKey_key]
      refine .inl ⟨by simp only [Change.told, habsent, Bool.false_eq_true, if_false], ?_⟩
      rw [Parts.of_next, Parts.step, Slot.ofKey_key]
      have hsame := (Parts.of c).put_value? slot
      rwa [hput] at hsame
  | some value =>
      have hpresent : c.values.contains slot.key = true :=
        Option.isSome_iff_exists.mpr ⟨value, hvalue⟩
      refine .inr ?_
      simp only [Change.told, hpresent, if_true]
      exact announced_eventsOfKey slot

/-- **What is told about a change fits its place**, or nothing is told and nothing changes. -/
theorem told_cases (c : Contents) (change : Change) :
    (change.told c = [] ∧ Parts.of (change.next c) = Parts.of c) ∨
      change.place.Announced (change.told c) := by
  cases change with
  | set t => exact .inr (.inl rfl)
  | delete id =>
      cases hstored : c.scopes.contains id with
      | false =>
          have hget : c.scopes.get? id = none := by simpa [KeyMap.contains] using hstored
          have hnone : (Parts.of c).token id = none := by
            simp only [Parts.of, Contents.token?, hget, Option.map_none]
          refine .inl ⟨by simp only [Change.told, hstored, Bool.false_eq_true, if_false], ?_⟩
          rw [Parts.of_next, Parts.step, ← hnone, Function.update_eq_self]
      | true => exact .inr (.inr (by simp only [Change.told, hstored, if_true]))
  | deleteAll => exact .inr rfl
  | setValue key value =>
      have h := announced_eventsOfKey (Slot.ofKey key)
      rw [Slot.key_ofKey] at h
      exact .inr h
  | deleteValue key =>
      have h := told_deleteValue_cases c (Slot.ofKey key)
      rwa [Slot.key_ofKey] at h
  | setAuthMode id mode => exact .inr (announced_eventsOfKey (.marker id))
  | clearAuthMode id => exact told_deleteValue_cases c (.marker id)
  | setBearer t => exact .inr rfl
  | clearBearer =>
      by_cases hstored : c.values.contains Contents.accessKey ∨ c.values.contains Contents.idKey
      · exact .inr (if_pos hstored)
      · refine .inl ⟨if_neg hstored, ?_⟩
        obtain ⟨haccess, hid⟩ := not_or.mp hstored
        have hbearer : (Parts.of c).bearer = (none, none) :=
          Prod.ext (Option.not_isSome_iff_eq_none.mp haccess)
            (Option.not_isSome_iff_eq_none.mp hid)
        rw [Parts.of_next, Parts.step, ← hbearer]

/-- **A change is told wherever it shows.** -/
theorem agreesBut_told (c : Contents) (change : Change) :
    (View.of c).AgreesBut (change.told c) (View.of (change.next c)) := by
  have hsame := (Parts.of c).sameBut_step change
  rw [← Parts.of_next] at hsame
  rcases told_cases c change with ⟨-, hparts⟩ | htold
  · have hviews : View.of c = View.of (change.next c) := by
      refine View.ext ?_ (View.bearer?_congr (by rw [hparts]))
      funext id
      exact View.scopeView_congr (by rw [hparts]) (by rw [hparts]) (by rw [hparts])
    rw [← hviews]
    exact View.agreesBut_refl _ _
  · cases hplace : change.place with
    | scope id =>
        rw [hplace] at hsame htold
        obtain ⟨hscopes, hbearer, -⟩ := hsame
        refine ⟨?_, .inr (View.bearer?_congr hbearer)⟩
        intro other
        by_cases hother : other = id
        · rcases htold with htold | htold <;> rw [htold] <;>
            exact .inl ⟨_, List.mem_cons_self, by simp [StoreEvent.concerns, hother]⟩
        · obtain ⟨htoken, hmarker⟩ := hscopes other hother
          exact .inr (View.scopeView_congr htoken hmarker hbearer)
    | allScopes =>
        rw [hplace] at hsame htold
        rw [show change.told c = [.cleared] from htold]
        exact ⟨fun id => .inl ⟨_, List.mem_cons_self, rfl⟩, .inr (View.bearer?_congr hsame.1)⟩
    | bearer =>
        rw [hplace] at htold
        rw [show change.told c = [.bearerChanged] from htold]
        exact ⟨fun id => .inl ⟨_, List.mem_cons_self, rfl⟩, .inl List.mem_cons_self⟩
    | free key =>
        rw [hplace] at hsame
        obtain ⟨htoken, hmarker, hbearer, -⟩ := hsame
        refine ⟨?_, .inr (View.bearer?_congr hbearer)⟩
        intro id
        exact .inr (View.scopeView_congr (congrFun htoken id) (congrFun hmarker id) hbearer)

end Store

/-- A store with a subscriber: its subscription, the events it has received and not handled, how
many it has missed because it was too slow, and what it has read. -/
structure Watched where
  store : Store
  sub : Subscription
  queue : List StoreEvent
  missed : Nat
  view : View

/-- What happens next: a change of the store, or a step of the subscriber. -/
inductive Watched.Move
  | change (c : Store.Change)
  | receive
  | handle

namespace Watched

/-- A subscriber that has just read everything. -/
def start (s : Store) : Watched :=
  ⟨s, ⟨s.events.length⟩, [], 0, View.of s.contents⟩

/-- One move.  An event is handled by asking the store as it is at that time. -/
def step (w : Watched) : Move → Watched
  | .change c => { w with store := (w.store.apply c).2 }
  | .receive =>
    let (lost, events, sub) := w.sub.drain w.store
    { w with sub, queue := w.queue ++ events, missed := w.missed + lost }
  | .handle =>
    match w.queue with
    | [] => w
    | e :: queue => { w with queue, view := w.view.reread w.store.contents e }

/-- Moves one after another. -/
def run (w : Watched) (moves : List Move) : Watched :=
  moves.foldl step w

/-- The events that are on their way to the subscriber. -/
def pending (w : Watched) : List StoreEvent :=
  w.queue ++ w.store.events.drop w.sub.position

/-- The view of a subscriber that has missed nothing is right but for the events on their way. -/
structure Sound (w : Watched) : Prop where
  position_le : w.sub.position ≤ w.store.events.length
  agrees : w.missed = 0 → w.view.AgreesBut w.pending (View.of w.store.contents)

theorem sound_start (s : Store) : (start s).Sound :=
  ⟨Nat.le_refl _, fun _ => View.agreesBut_refl _ _⟩

/-- A change adds its events to those on their way. -/
theorem Sound.change {w : Watched} (h : w.Sound) (c : Store.Change) :
    (w.step (.change c)).Sound := by
  rcases w.store.apply_cases c with ⟨-, hcontents, hevents⟩ | ⟨cause, -, hspared⟩
  · have hpending : (w.step (.change c)).pending = w.pending ++ c.told w.store.contents := by
      simp only [pending, step, hevents, List.drop_append_of_le_length h.position_le,
        List.append_assoc]
    refine ⟨?_, ?_⟩
    · simp only [step, hevents, List.length_append]
      exact Nat.le_add_right_of_le h.position_le
    · intro hmissed
      rw [hpending]
      simp only [step, hcontents]
      exact (h.agrees hmissed).trans (Store.agreesBut_told w.store.contents c)
  · have hpending : (w.step (.change c)).pending = w.pending := by
      simp only [pending, step, hspared.events]
    refine ⟨?_, ?_⟩
    · simp only [step, hspared.events]
      exact h.position_le
    · intro hmissed
      rw [hpending]
      simp only [step, hspared.contents]
      exact h.agrees hmissed

/-- Receiving moves the waiting events to the queue if none is lost. -/
theorem Sound.receive {w : Watched} (h : w.Sound) : (w.step .receive).Sound := by
  refine ⟨Nat.le_refl _, ?_⟩
  intro hmissed
  obtain ⟨hbefore, hlost⟩ := Nat.add_eq_zero_iff.mp hmissed
  have hpending : (w.step .receive).pending = w.pending := by
    simp only [pending, step, Subscription.drain] at hlost ⊢
    rw [hlost, List.drop_zero, List.drop_length, List.append_nil]
  rw [hpending]
  exact h.agrees hbefore

/-- Handling an event brings the view up to date there. -/
theorem Sound.handle {w : Watched} (h : w.Sound) : (w.step .handle).Sound := by
  cases hqueue : w.queue with
  | nil =>
      have hstep : w.step .handle = w := by simp only [step, hqueue]
      rw [hstep]
      exact h
  | cons e queue =>
      have hstep : w.step .handle =
          { w with queue, view := w.view.reread w.store.contents e } := by
        simp only [step, hqueue]
      rw [hstep]
      refine ⟨h.position_le, ?_⟩
      intro hmissed
      have hagrees := h.agrees hmissed
      rw [pending, hqueue] at hagrees
      exact hagrees.reread

/-- Every move keeps the view right but for the events on their way. -/
theorem Sound.step {w : Watched} (h : w.Sound) (m : Move) : (w.step m).Sound := by
  cases m with
  | change c => exact h.change c
  | receive => exact h.receive
  | handle => exact h.handle

theorem Sound.run (moves : List Move) : ∀ {w : Watched}, w.Sound → (w.run moves).Sound := by
  induction moves with
  | nil =>
      intro w h
      exact h
  | cons m moves ih =>
      intro w h
      exact ih (h.step m)

end Watched

namespace Store

/-- What a change is to remove is there. -/
def Change.Finds (c : Contents) : Change → Prop
  | delete id => (c.token? id).isSome = true
  | deleteValue key => (c.values.get? key).isSome = true
  | clearAuthMode id => (c.values.get? (Contents.modeKey id)).isSome = true
  | clearBearer =>
    (c.values.get? Contents.accessKey).isSome = true ∨ (c.values.get? Contents.idKey).isSome = true
  | _ => True

/-- A removal is told only if there is something to remove. -/
theorem finds_of_told {c : Contents} {change : Change} (h : change.told c ≠ []) :
    change.Finds c := by
  by_contra hfinds
  cases change with
  | delete id =>
      refine h (if_neg fun hstored => hfinds ?_)
      simpa [Change.Finds, Contents.token?, KeyMap.contains] using hstored
  | deleteValue key => exact h (if_neg hfinds)
  | clearAuthMode id => exact h (if_neg hfinds)
  | clearBearer => exact h (if_neg hfinds)
  | _ => exact hfinds trivial

theorem scopeRemoved_notMem_eventsOfKey (id key : String) :
    .scopeRemoved id ∉ eventsOfKey key := by
  unfold eventsOfKey
  split
  · simp
  · split <;> simp

/-- Only the removal of a token is told as one. -/
theorem eq_delete_of_told {c : Contents} {change : Change} {id : String}
    (h : .scopeRemoved id ∈ change.told c) : change = .delete id := by
  have hkey := scopeRemoved_notMem_eventsOfKey id
  cases change with
  | delete other =>
      simp only [Change.told] at h
      split at h
      · simp only [List.mem_singleton, StoreEvent.scopeRemoved.injEq] at h
        rw [h]
      · cases h
  | _ =>
      simp only [Change.told] at h
      repeat' split at h
      all_goals first | exact absurd h (hkey _) | simp at h

end Store

/-- **A subscriber keeps up with a store.**  Whatever the store holds at first, and however its
changes, with any arguments and any failing writes, come between the steps of the subscriber: as
long as it has missed no event, its view is right but for what the events on their way concern, and
once it has handled them all it is the current view.  Nothing is told about a change that fails;
only a removal of a token that is there is told as one; and the other removals are told only if
there is something to remove. -/
theorem Watched.subscriber_keeps_up (s : Store) (moves : List Watched.Move) (c : Store.Change) :
    let w := (Watched.start s).run moves
    (w.missed = 0 → w.view.AgreesBut w.pending (View.of w.store.contents)) ∧
      (w.missed = 0 → w.pending = [] → w.view = View.of w.store.contents) ∧
      ∃ told, (w.store.apply c).2.events = w.store.events ++ told ∧
        ((w.store.apply c).1 ≠ .ok () → told = []) ∧
        (told ≠ [] → c.Finds w.store.contents) ∧
        ∀ id, .scopeRemoved id ∈ told → c = .delete id := by
  intro w
  have hsound : w.Sound := Watched.Sound.run moves (Watched.sound_start s)
  refine ⟨hsound.agrees, ?_, ?_⟩
  · intro hmissed hpending
    have hagrees := hsound.agrees hmissed
    rw [hpending] at hagrees
    exact hagrees.eq
  · rcases w.store.apply_cases c with ⟨hok, -, hevents⟩ | ⟨cause, -, hspared⟩
    · refine ⟨c.told w.store.contents, hevents, fun hfault => absurd hok hfault, ?_, ?_⟩
      · exact Store.finds_of_told
      · intro id
        exact Store.eq_delete_of_told
    · refine ⟨[], ?_, fun _ => rfl, fun hne => absurd rfl hne, fun id hmem => ?_⟩
      · rw [hspared.events, List.append_nil]
      · cases hmem

-- A login told by raw keys alone reaches the view of the scope.
example :
    let w := (Watched.start Store.inMemory).run
      [.change (.setValue "auth_mode:alarms" "oauth2"), .change (.setValue "jwt_token" "t"),
        .receive, .handle, .handle]
    w.missed = 0 ∧ w.pending = [] ∧ (w.view.scope "alarms").credential = some (.bearer "t") := by
  decide

end SignOn
