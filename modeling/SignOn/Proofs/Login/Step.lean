import SignOn.Login.Run
/-!
# What a step of a login can do

A step of a login depends on the listener, on the exchanges in flight and on the wait that is going
on.  `Moves` lists what it can do, with the condition for each: the event is ignored, a session is
opened or closed, a redirect fails, is turned away or is accepted, an exchange is granted its
tokens, denied them or ended by their storage, and a wait looks or returns.  Every step is one of
these moves (`moves_step`), so what follows about runs never looks into the listener again.

The progress of a login is what was published last (`progress_run`), and exchanges come and go only
by their own moves.
-/

namespace SignOn

/-- What is published about a redirect that brings no code. -/
def Redirect.failure? (r : Redirect) : Option String :=
  match r.message with
  | .refused error description => some (error ++ ": " ++ description)
  | .noCode => some "Missing authorization code"
  | .code _ => none

/-- How a login ends, by what became of the write of its tokens. -/
def Progress.ofWrite : Except Fault Unit → Progress
  | .ok () => .success
  | .error fault => .failed fault.message

/-- The listener after it has accepted a code in a session. -/
def Listener.accept (l : Listener) (session : Nat) (code : String) : Listener :=
  { l with
    progress := .codeReceived
    accepted := l.accepted + 1
    exchanges := l.exchanges ++ [⟨l.accepted, session, code, none⟩] }

/-- What a wait returns is the end of a login. -/
theorem Listener.outcome?_eq_some_iff {l : Listener} {p : Progress} :
    l.outcome? = some p ↔ l.progress = p ∧ p.isTerminal = true := by
  rw [outcome?, Option.ite_none_right_eq_some, Option.some.injEq]
  constructor
  · rintro ⟨hend, rfl⟩
    exact ⟨rfl, hend⟩
  · rintro ⟨rfl, hend⟩
    exact ⟨hend, rfl⟩

namespace Login

/-- What a signal publishes. -/
def Signal.published? : Signal → Option Progress
  | .published p => some p
  | _ => none

/-- What is published by signals, in their order. -/
def published (signals : List Signal) : List Progress :=
  signals.filterMap Signal.published?

/-- A start that gets its port. -/
def Event.GetsPort (e : Event) : Prop :=
  ∃ port path address, e = .start port path (.ok address)

/-- A redirect that brings no code. -/
def Event.IsCodeless : Event → Prop
  | .redirect r => r.failure? ≠ none
  | _ => False

instance : DecidablePred Event.IsCodeless
  | .redirect r => inferInstanceAs (Decidable (r.failure? ≠ none))
  | .start _ _ _ | .stop | .answer _ _ | .store _ | .observe | .consume =>
    inferInstanceAs (Decidable False)

/-- The ticket of the exchange that an event is a step of. -/
def Event.ticket? : Event → Option Nat
  | .answer ticket _ | .store ticket => some ticket
  | _ => none

namespace State

/-- An event for which there is nothing to be done. -/
def Ignores (s : State) : Event → Prop
  | .start _ _ bound => s.listener.isRunning = true ∨ ∃ cause, bound = .error cause
  | .stop => False
  | .redirect _ => s.listener.session = none
  | .answer ticket _ => ∀ x, s.listener.exchange? ticket = some x → x.grant ≠ none
  | .store ticket => ∀ x, s.listener.exchange? ticket = some x → x.grant = none
  | .observe => s.observed ≠ none
  | .consume => s.observed = none

/-- What a step can do: the event, the state after it, and what the outside is told. -/
inductive Moves (s : State) : Event → State → List Signal → Prop
  | ignored (e : Event) (h : s.Ignores e) : Moves s e s []
  | opened (port : Nat) (path : String) (address : Endpoint) (session : Session)
      (hclosed : s.listener.session = none) (hnumber : session.number = s.listener.opened) :
      Moves s (.start port path (.ok address))
        { s with listener := { s.listener with
            progress := .listening, session := some session, opened := s.listener.opened + 1 } }
        [.published .listening]
  | stopped : Moves s .stop { s with listener := s.listener.stop } [.published .idle]
  | failed (r : Redirect) (reason : String) (page : Page) (session : Session)
      (hopen : s.listener.session = some session) (hreason : r.failure? = some reason)
      (hpage : page.status = 400) :
      Moves s (.redirect r) { s with listener := { s.listener with progress := .failed reason } }
        [.published (.failed reason), .page page]
  | busy (r : Redirect) (code : String) (session : Session)
      (hopen : s.listener.session = some session) (hcode : r.message = .code code)
      (hbusy : s.listener.isBusy session.number = true) :
      Moves s (.redirect r) s [.page Listener.busyPage]
  | accepted (r : Redirect) (code : String) (session : Session)
      (hopen : s.listener.session = some session) (hcode : r.message = .code code)
      (hfree : s.listener.isBusy session.number = false) :
      Moves s (.redirect r) { s with listener := s.listener.accept session.number code }
        [.published .codeReceived, .sent s.listener.accepted code, .page Listener.acceptedPage]
  | granted (x : Exchange) (ticket : Nat) (grant : Grant)
      (hx : s.listener.exchange? ticket = some x) (hwaits : x.grant = none) :
      Moves s (.answer ticket (.ok grant)) { s with listener := s.listener.grantTo ticket grant }
        [.published .tokenExchanged]
  | denied (x : Exchange) (ticket : Nat) (fault : Fault)
      (hx : s.listener.exchange? ticket = some x) (hwaits : x.grant = none) :
      Moves s (.answer ticket (.error fault))
        { s with listener := s.listener.finish ticket (.failed fault.message) }
        [.published (.failed fault.message)]
  | ended (x : Exchange) (ticket : Nat) (grant : Grant)
      (hx : s.listener.exchange? ticket = some x) (hgrant : x.grant = some grant) :
      Moves s (.store ticket)
        { s with
          listener := s.listener.finish ticket (.ofWrite (s.store.setBearer grant.bearer).1)
          store := (s.store.setBearer grant.bearer).2 }
        [.published (.ofWrite (s.store.setBearer grant.bearer).1)]
  | looked (h : s.observed = none) :
      Moves s .observe { s with observed := s.listener.outcome? } []
  | taken (outcome : Progress) (h : s.observed = some outcome)
      (hopen : s.listener.isRunning = true) (hsame : s.listener.progress = outcome) :
      Moves s .consume
        { s with listener := { s.listener with progress := .listening }, observed := none }
        [.published .listening, .returned outcome]
  | left (outcome : Progress) (h : s.observed = some outcome)
      (hother : ¬(s.listener.isRunning = true ∧ s.listener.progress = outcome)) :
      Moves s .consume { s with observed := none } [.returned outcome]

section

variable (s : State)

theorem moves_start (port : Nat) (path : String) (bound : Except String Endpoint) :
    s.Moves (.start port path bound) (s.step (.start port path bound)).1
      (s.step (.start port path bound)).2 := by
  cases hsession : s.listener.session with
  | some session =>
      have hstep : s.step (.start port path bound) = (s, []) := by
        simp only [step, Listener.start, hsession]
      rw [hstep]
      exact .ignored _ (.inl (by simp [Listener.isRunning, hsession]))
  | none =>
      cases bound with
      | error cause =>
          have hstep : s.step (.start port path (.error cause)) = (s, []) := by
            simp only [step, Listener.start, hsession]
          rw [hstep]
          exact .ignored _ (.inr ⟨cause, rfl⟩)
      | ok address =>
          simp only [step, Listener.start, hsession]
          exact .opened port path address _ hsession rfl

variable {s} in
/-- A code is turned away while an exchange of the session is in flight. -/
theorem step_busy {r : Redirect} {code : String} {session : Session}
    (hopen : s.listener.session = some session) (hcode : r.message = .code code)
    (hbusy : s.listener.isBusy session.number = true) :
    s.step (.redirect r) = (s, [.page Listener.busyPage]) := by
  simp [step, Listener.redirect, hopen, hcode, hbusy]

variable {s} in
/-- A code is accepted while no exchange of the session is in flight. -/
theorem step_accepted {r : Redirect} {code : String} {session : Session}
    (hopen : s.listener.session = some session) (hcode : r.message = .code code)
    (hfree : s.listener.isBusy session.number = false) :
    s.step (.redirect r) =
      ({ s with listener := s.listener.accept session.number code },
        [.published .codeReceived, .sent s.listener.accepted code,
          .page Listener.acceptedPage]) := by
  simp [step, Listener.redirect, Listener.accept, hopen, hcode, hfree]

theorem moves_redirect (r : Redirect) :
    s.Moves (.redirect r) (s.step (.redirect r)).1 (s.step (.redirect r)).2 := by
  cases hsession : s.listener.session with
  | none =>
      have hstep : s.step (.redirect r) = (s, []) := by
        simp only [step, Listener.redirect, hsession, Option.map_none]
      rw [hstep]
      exact .ignored _ hsession
  | some session =>
      cases hmessage : r.message with
      | refused error description =>
          have hstep : s.step (.redirect r) =
              ({ s with listener := { s.listener with
                  progress := .failed (error ++ ": " ++ description) } },
                [.published (.failed (error ++ ": " ++ description)),
                  .page (Listener.refusedPage error description)]) := by
            simp [step, Listener.redirect, hsession, hmessage]
          rw [hstep]
          exact .failed r _ _ session hsession (by simp only [Redirect.failure?, hmessage]) rfl
      | noCode =>
          have hstep : s.step (.redirect r) =
              ({ s with listener := { s.listener with
                  progress := .failed "Missing authorization code" } },
                [.published (.failed "Missing authorization code"),
                  .page Listener.noCodePage]) := by
            simp [step, Listener.redirect, hsession, hmessage]
          rw [hstep]
          exact .failed r _ _ session hsession (by simp only [Redirect.failure?, hmessage]) rfl
      | code code =>
          cases hbusy : s.listener.isBusy session.number with
          | true =>
              rw [step_busy hsession hmessage hbusy]
              exact .busy r code session hsession hmessage hbusy
          | false =>
              rw [step_accepted hsession hmessage hbusy]
              exact .accepted r code session hsession hmessage hbusy

theorem moves_answer (ticket : Nat) (result : Except Fault Grant) :
    s.Moves (.answer ticket result) (s.step (.answer ticket result)).1
      (s.step (.answer ticket result)).2 := by
  cases hx : s.listener.exchange? ticket with
  | none =>
      have hstep : s.step (.answer ticket result) = (s, []) := by simp only [step, hx]
      rw [hstep]
      exact .ignored _ fun x h => by rw [hx] at h; cases h
  | some x =>
      obtain ⟨number, session, code, _ | grant⟩ := x
      · cases result with
        | ok grant =>
            simp only [step, Listener.answered, hx]
            exact .granted _ ticket grant hx rfl
        | error fault =>
            simp only [step, Listener.answered, hx]
            exact .denied _ ticket fault hx rfl
      · have hstep : s.step (.answer ticket result) = (s, []) := by simp only [step, hx]
        rw [hstep]
        exact .ignored _ fun x h => by rw [hx] at h; cases h; simp

theorem moves_store (ticket : Nat) :
    s.Moves (.store ticket) (s.step (.store ticket)).1 (s.step (.store ticket)).2 := by
  cases hx : s.listener.exchange? ticket with
  | none =>
      have hstep : s.step (.store ticket) = (s, []) := by simp only [step, hx]
      rw [hstep]
      exact .ignored _ fun x h => by rw [hx] at h; cases h
  | some x =>
      obtain ⟨number, session, code, _ | grant⟩ := x
      · have hstep : s.step (.store ticket) = (s, []) := by simp only [step, hx]
        rw [hstep]
        exact .ignored _ fun x h => by rw [hx] at h; cases h; rfl
      · have hended := Moves.ended (s := s) _ ticket grant hx rfl
        rcases hwrite : s.store.setBearer grant.bearer with ⟨_ | _, store⟩ <;>
          rw [hwrite] at hended <;>
          simp only [step, Listener.storeTokens, hx, hwrite] <;>
          exact hended

theorem moves_consume : s.Moves .consume (s.step .consume).1 (s.step .consume).2 := by
  cases hobserved : s.observed with
  | none =>
      have hstep : s.step .consume = (s, []) := by simp only [step, hobserved]
      rw [hstep]
      exact .ignored _ hobserved
  | some outcome =>
      by_cases hsame : s.listener.isRunning = true ∧ s.listener.progress = outcome
      · simp only [step, hobserved, Listener.consume, hsame, and_self, if_true]
        exact .taken outcome hobserved hsame.1 hsame.2
      · simp only [step, hobserved, Listener.consume, if_neg hsame]
        exact .left outcome hobserved hsame

end

/-- **Every step is one of the moves.** -/
theorem moves_step (s : State) (e : Event) : s.Moves e (s.step e).1 (s.step e).2 := by
  cases e with
  | start port path bound => exact s.moves_start port path bound
  | stop => exact .stopped
  | redirect r => exact s.moves_redirect r
  | answer ticket result => exact s.moves_answer ticket result
  | store ticket => exact s.moves_store ticket
  | observe =>
      cases hobserved : s.observed with
      | none =>
          simp only [step, hobserved]
          exact .looked hobserved
      | some outcome =>
          have hstep : s.step .observe = (s, []) := by simp only [step, hobserved]
          rw [hstep]
          exact .ignored _ (by simp [Ignores, hobserved])
  | consume => exact s.moves_consume

/-- A run of one event after another. -/
theorem run_cons (s : State) (e : Event) (events : List Event) :
    s.run (e :: events) =
      (((s.step e).1.run events).1, (s.step e).2 ++ ((s.step e).1.run events).2) := rfl

/-- A run goes on where an earlier one has ended. -/
theorem run_append (s : State) (first later : List Event) :
    s.run (first ++ later) =
      (((s.run first).1.run later).1, (s.run first).2 ++ ((s.run first).1.run later).2) := by
  induction first generalizing s with
  | nil => rfl
  | cons e first ih => simp only [List.cons_append, run_cons, ih, List.append_assoc]

/-- What a step keeps is kept by a run. -/
theorem run_keeps {P : State → Prop} (hstep : ∀ s e, P s → P (s.step e).1) (events : List Event) :
    ∀ s, P s → P (s.run events).1 := by
  induction events with
  | nil => exact fun s h => h
  | cons e events ih => exact fun s h => ih (s.step e).1 (hstep s e h)

/-- A step publishes at most once, and then that is the progress; otherwise the progress stays. -/
theorem published_step (s : State) (e : Event) :
    (published (s.step e).2 = [] ∧ (s.step e).1.listener.progress = s.listener.progress) ∨
      published (s.step e).2 = [(s.step e).1.listener.progress] := by
  have hmoves := s.moves_step e
  generalize (s.step e).1 = s', (s.step e).2 = signals at hmoves
  cases hmoves with
  | ignored | busy | looked | left => exact .inl ⟨rfl, rfl⟩
  | opened | stopped | failed | accepted | granted | denied | ended | taken => exact .inr rfl

end State

theorem published_append (first later : List Signal) :
    published (first ++ later) = published first ++ published later :=
  List.filterMap_append

namespace State

/-- **The progress is what was published last.**  Either a run has published nothing and left the
progress alone, or one of its events made the last publication, which the progress still is. -/
theorem progress_run (events : List Event) : ∀ s : State,
    (published (s.run events).2 = [] ∧
        (s.run events).1.listener.progress = s.listener.progress) ∨
      ∃ before e after, events = before ++ e :: after ∧
        published ((s.run before).1.step e).2 = [(s.run events).1.listener.progress] ∧
        published (((s.run before).1.step e).1.run after).2 = [] := by
  induction events with
  | nil => exact fun s => .inl ⟨rfl, rfl⟩
  | cons e events ih =>
      intro s
      rw [run_cons, published_append]
      rcases ih (s.step e).1 with ⟨hnone, hsame⟩ | ⟨before, d, after, rfl, hlast, hnone⟩
      · rcases s.published_step e with ⟨hquiet, hkept⟩ | honce
        · exact .inl ⟨by rw [hquiet, hnone]; rfl, hsame.trans hkept⟩
        · exact .inr ⟨[], e, events, rfl, by rw [hsame]; exact honce, hnone⟩
      · exact .inr ⟨e :: before, d, after, rfl, hlast, hnone⟩

/-- A step returns no outcome but the one that a wait has seen. -/
theorem returned_step (s : State) (e : Event) {p : Progress}
    (hreturned : .returned p ∈ (s.step e).2) : s.observed = some p := by
  have hmoves := s.moves_step e
  generalize (s.step e).1 = s', (s.step e).2 = signals at hmoves hreturned
  cases hmoves with
  | taken outcome hseen | left outcome hseen =>
      obtain rfl : p = outcome := by simpa using hreturned
      exact hseen
  | _ => simp at hreturned

/-- A wait sees an outcome when it looks. -/
theorem observed_step (s : State) (e : Event) {p : Progress}
    (hseen : (s.step e).1.observed = some p) :
    s.observed = some p ∨ e = .observe ∧ s.observed = none ∧ s.listener.outcome? = some p := by
  have hmoves := s.moves_step e
  generalize (s.step e).1 = s', (s.step e).2 = signals at hmoves hseen
  cases hmoves with
  | looked hnone => exact .inr ⟨rfl, hnone, hseen⟩
  | taken | left => exact nomatch hseen
  | _ => exact .inl hseen

/-- A wait that looks at an outcome takes it away and returns it. -/
theorem waited_of_progress {s : State} {p : Progress} (hnone : s.observed = none)
    (hopen : s.listener.isRunning = true) (hprogress : s.listener.progress = p)
    (hend : p.isTerminal = true) :
    (s.run [.observe, .consume]).2 = [.published .listening, .returned p] := by
  simp [run, State.step, hnone, Listener.outcome?, hprogress, hend, hopen]

/-- A listener and a store for runs on fixed events. -/
def sample : State :=
  new ⟨⟨"http://idp.test/realms/test"⟩, "controlroom", "http://localhost:8080/oauth2Callback"⟩
    .inMemory

/-- A start that gets its port. -/
def starts : Event := .start 8080 "/oauth2Callback" (.ok ⟨"127.0.0.1", 8080⟩)

/-- A redirect that brings a code. -/
def bringing (code : String) : Redirect := ⟨some code, none, none⟩

/-- A grant of the token endpoint. -/
def granting : Grant := ⟨"access", some "id", none, none, none⟩

end State

end Login

end SignOn
