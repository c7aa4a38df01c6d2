import Mathlib.Data.List.Nodup
import SignOn.Proofs.Login.Step
/-!
# One exchange for each session

A listener turns a code away while an exchange of its present session is in flight.  So the
exchanges in flight belong to different sessions, whatever order the events come in
(`orderly_run`), and a code is turned away exactly when one of them belongs to the present session.

This is not yet one exchange for the whole listener.  A stop leaves the exchange in flight alone,
and the session that is opened next knows nothing of it: `two_exchanges_in_flight` is a run in
which the listener is stopped and started while it exchanges a code, and then accepts another.  The
main statement, `one_exchange_per_session`, therefore has two parts.  The first holds of every run;
the second is about the runs in which no session is opened while an exchange is in flight, and in
these there is one exchange at most.
-/

namespace SignOn

namespace Listener

/-- The tickets of the exchanges in flight. -/
def tickets (l : Listener) : List Nat :=
  l.exchanges.map Exchange.ticket

/-- The sessions of the exchanges in flight. -/
def sessions (l : Listener) : List Nat :=
  l.exchanges.map Exchange.session

/-- The exchanges in flight are apart from each other and from those to come. -/
structure Orderly (l : Listener) : Prop where
  tickets : l.tickets.Nodup
  sessions : l.sessions.Nodup
  accepted : ∀ ticket ∈ l.tickets, ticket < l.accepted
  opened : ∀ number ∈ l.sessions, number < l.opened
  current : ∀ session, l.session = some session → session.number + 1 = l.opened

section

variable {l : Listener}

theorem tickets_accept (session : Nat) (code : String) :
    (l.accept session code).tickets = l.tickets ++ [l.accepted] := by
  simp [accept, tickets]

theorem sessions_accept (session : Nat) (code : String) :
    (l.accept session code).sessions = l.sessions ++ [session] := by
  simp [accept, sessions]

/-- A grant changes neither the tickets nor the sessions of the exchanges. -/
theorem map_grantTo {α : Type} (f : Exchange → α) (hf : ∀ x grant, f { x with grant } = f x)
    (ticket : Nat) (grant : Grant) :
    (l.grantTo ticket grant).exchanges.map f = l.exchanges.map f := by
  simp only [grantTo, List.map_map]
  refine List.map_congr_left fun x _ => ?_
  rw [Function.comp_apply]
  split
  · exact hf x (some grant)
  · rfl

theorem tickets_grantTo (ticket : Nat) (grant : Grant) :
    (l.grantTo ticket grant).tickets = l.tickets :=
  map_grantTo _ (fun _ _ => rfl) ticket grant

theorem sessions_grantTo (ticket : Nat) (grant : Grant) :
    (l.grantTo ticket grant).sessions = l.sessions :=
  map_grantTo _ (fun _ _ => rfl) ticket grant

theorem tickets_finish (ticket : Nat) (p : Progress) :
    (l.finish ticket p).tickets.Sublist l.tickets :=
  List.filter_sublist.map _

theorem sessions_finish (ticket : Nat) (p : Progress) :
    (l.finish ticket p).sessions.Sublist l.sessions :=
  List.filter_sublist.map _

/-- A session is busy while it has an exchange in flight. -/
theorem isBusy_eq_true_iff {number : Nat} : l.isBusy number = true ↔ number ∈ l.sessions := by
  simp [isBusy, sessions]

/-- What is found by a ticket is an exchange in flight with this ticket. -/
theorem mem_of_exchange? {ticket : Nat} {x : Exchange} (hx : l.exchange? ticket = some x) :
    x ∈ l.exchanges ∧ x.ticket = ticket :=
  ⟨List.mem_of_find?_eq_some hx, by simpa using List.find?_some hx⟩

/-- An exchange is found by its ticket. -/
theorem Orderly.exchange?_eq_some_iff (h : l.Orderly) {ticket : Nat} {x : Exchange} :
    l.exchange? ticket = some x ↔ x ∈ l.exchanges ∧ x.ticket = ticket := by
  constructor
  · exact mem_of_exchange?
  · rintro ⟨hmem, rfl⟩
    have hsome : (l.exchange? x.ticket).isSome = true :=
      List.find?_isSome.mpr ⟨x, hmem, by simp⟩
    obtain ⟨y, hy⟩ := Option.isSome_iff_exists.mp hsome
    obtain ⟨hmem', hticket⟩ := mem_of_exchange? hy
    rw [hy, List.inj_on_of_nodup_map h.tickets hmem' hmem hticket]

/-- A grant changes the exchange that waits for it. -/
theorem exchanges_grantTo_ne {ticket : Nat} {x : Exchange} (hx : l.exchange? ticket = some x)
    (hwaits : x.grant = none) (grant : Grant) :
    (l.grantTo ticket grant).exchanges ≠ l.exchanges := by
  intro hsame
  obtain ⟨hmem, hticket⟩ := mem_of_exchange? hx
  have hfixed := List.map_inj_left.mp (hsame.trans (List.map_id _).symm) x hmem
  rw [if_pos hticket] at hfixed
  exact nomatch hwaits.symm.trans (congrArg Exchange.grant hfixed).symm

/-- An end removes the exchange. -/
theorem exchanges_finish_ne {ticket : Nat} {x : Exchange} (hx : l.exchange? ticket = some x)
    (p : Progress) : (l.finish ticket p).exchanges ≠ l.exchanges := by
  intro hsame
  obtain ⟨hmem, hticket⟩ := mem_of_exchange? hx
  have hkept := List.filter_eq_self.mp hsame x hmem
  simp [hticket] at hkept

/-- What keeps the session and adds no exchange keeps the order. -/
theorem Orderly.of_sublist {l' : Listener} (h : l.Orderly)
    (htickets : l'.tickets.Sublist l.tickets) (hsessions : l'.sessions.Sublist l.sessions)
    (haccepted : l'.accepted = l.accepted) (hopened : l'.opened = l.opened)
    (hsession : l'.session = l.session) : l'.Orderly where
  tickets := h.tickets.sublist htickets
  sessions := h.sessions.sublist hsessions
  accepted ticket hmem := haccepted ▸ h.accepted ticket (htickets.subset hmem)
  opened number hmem := hopened ▸ h.opened number (hsessions.subset hmem)
  current session hcurrent := hopened ▸ h.current session (hsession ▸ hcurrent)

/-- A code that is accepted in a free session keeps the order. -/
theorem Orderly.accept (h : l.Orderly) {session : Session} (hopen : l.session = some session)
    (hfree : l.isBusy session.number = false) (code : String) :
    (l.accept session.number code).Orderly := by
  have hfresh : l.accepted ∉ l.tickets := fun hmem => Nat.lt_irrefl _ (h.accepted _ hmem)
  have hnew : session.number ∉ l.sessions := fun hmem => by
    rw [isBusy_eq_true_iff.mpr hmem] at hfree
    cases hfree
  have hnumber : session.number + 1 = l.opened := h.current session hopen
  refine ⟨?_, ?_, ?_, ?_, h.current⟩
  · rw [tickets_accept]
    exact List.nodup_append.mpr ⟨h.tickets, List.nodup_singleton _, by grind⟩
  · rw [sessions_accept]
    exact List.nodup_append.mpr ⟨h.sessions, List.nodup_singleton _, by grind⟩
  · rw [tickets_accept]
    intro ticket hmem
    rcases List.mem_append.mp hmem with hold | hlast
    · exact Nat.lt_succ_of_lt (h.accepted ticket hold)
    · rw [List.mem_singleton.mp hlast]
      exact Nat.lt_succ_self _
  · rw [sessions_accept]
    intro number hmem
    rcases List.mem_append.mp hmem with hold | hlast
    · exact h.opened number hold
    · rw [List.mem_singleton.mp hlast]
      show session.number < l.opened
      omega

end

end Listener

namespace Login.State

/-- **One step keeps the exchanges apart.** -/
theorem orderly_step (s : State) (e : Event) (h : s.listener.Orderly) :
    (s.step e).1.listener.Orderly := by
  have hmoves := s.moves_step e
  generalize (s.step e).1 = s', (s.step e).2 = signals at hmoves
  cases hmoves with
  | ignored | busy | looked | left => exact h
  | failed | taken => exact ⟨h.tickets, h.sessions, h.accepted, h.opened, h.current⟩
  | stopped => exact ⟨h.tickets, h.sessions, h.accepted, h.opened, (nomatch ·, ·)⟩
  | opened port path address session hclosed hnumber =>
      refine ⟨h.tickets, h.sessions, h.accepted, ?_, ?_⟩
      · exact fun number hmem => Nat.lt_succ_of_lt (h.opened number hmem)
      · intro current hcurrent
        cases hcurrent
        rw [hnumber]
  | accepted r code session hopen hcode hfree => exact h.accept hopen hfree code
  | granted x ticket grant =>
      exact h.of_sublist (by rw [Listener.tickets_grantTo]) (by rw [Listener.sessions_grantTo])
        rfl rfl rfl
  | denied | ended =>
      exact h.of_sublist (Listener.tickets_finish _ _) (Listener.sessions_finish _ _) rfl rfl rfl

/-- A run of a new listener keeps the exchanges apart. -/
theorem orderly_run (client : TokenClient) (store : Store) (events : List Event) :
    ((new client store).run events).1.listener.Orderly :=
  run_keeps (P := fun s => s.listener.Orderly) orderly_step events _
    ⟨List.nodup_nil, List.nodup_nil, by simp [new, Listener.new, Listener.tickets],
      by simp [new, Listener.new, Listener.sessions], by simp [new, Listener.new]⟩

/-- A step numbers the code that it sends next after the codes before. -/
theorem sent_step (s : State) (e : Event) :
    s.listener.accepted ≤ (s.step e).1.listener.accepted ∧
      ∀ ticket code, .sent ticket code ∈ (s.step e).2 →
        s.listener.accepted ≤ ticket ∧ ticket < (s.step e).1.listener.accepted := by
  have hmoves := s.moves_step e
  generalize (s.step e).1 = s', (s.step e).2 = signals at hmoves
  cases hmoves with
  | accepted r code session =>
      refine ⟨Nat.le_succ _, fun ticket code' hsent => ?_⟩
      obtain ⟨rfl, -⟩ : ticket = s.listener.accepted ∧ code' = code := by simpa using hsent
      exact ⟨Nat.le_refl _, Nat.lt_succ_self _⟩
  | _ => exact ⟨Nat.le_refl _, by simp⟩

/-- The codes that a run sends are numbered next after the codes before. -/
theorem sent_run (events : List Event) : ∀ s : State,
    s.listener.accepted ≤ (s.run events).1.listener.accepted ∧
      ∀ ticket code, .sent ticket code ∈ (s.run events).2 →
        s.listener.accepted ≤ ticket ∧ ticket < (s.run events).1.listener.accepted := by
  induction events with
  | nil => exact fun s => ⟨Nat.le_refl _, by simp [run]⟩
  | cons e events ih =>
      intro s
      obtain ⟨hstep, hfirst⟩ := s.sent_step e
      obtain ⟨hrun, hrest⟩ := ih (s.step e).1
      refine ⟨Nat.le_trans hstep hrun, fun ticket code hsent => ?_⟩
      rcases List.mem_append.mp hsent with hmem | hmem
      · exact (hfirst ticket code hmem).imp_right (Nat.lt_of_lt_of_le · hrun)
      · exact (hrest ticket code hmem).imp_left (Nat.le_trans hstep)

/-- An exchange in flight after a step is an old one, or the step sends its code. -/
theorem tickets_step (s : State) (e : Event) :
    ∀ ticket ∈ (s.step e).1.listener.tickets,
      ticket ∈ s.listener.tickets ∨ ∃ code, .sent ticket code ∈ (s.step e).2 := by
  have hmoves := s.moves_step e
  generalize (s.step e).1 = s', (s.step e).2 = signals at hmoves
  cases hmoves with
  | ignored | busy | looked | left | failed | taken | stopped | opened =>
      exact fun ticket hmem => .inl hmem
  | accepted r code session =>
      intro ticket hmem
      rw [Listener.tickets_accept] at hmem
      refine (List.mem_append.mp hmem).imp_right fun hlast => ⟨code, ?_⟩
      rw [List.mem_singleton.mp hlast]
      simp
  | granted x ticket grant =>
      intro number hmem
      rw [Listener.tickets_grantTo] at hmem
      exact .inl hmem
  | denied | ended =>
      exact fun ticket hmem => .inl ((Listener.tickets_finish _ _).subset hmem)

/-- An exchange in flight after a run is an old one, or the run has sent its code. -/
theorem tickets_run (events : List Event) : ∀ s : State,
    ∀ ticket ∈ (s.run events).1.listener.tickets,
      ticket ∈ s.listener.tickets ∨ ∃ code, .sent ticket code ∈ (s.run events).2 := by
  induction events with
  | nil => exact fun s ticket hmem => .inl hmem
  | cons e events ih =>
      intro s ticket hmem
      rcases ih (s.step e).1 ticket hmem with hthen | ⟨code, hlater⟩
      · exact (s.tickets_step e ticket hthen).imp_right fun ⟨code, hnow⟩ =>
          ⟨code, List.mem_append_left _ hnow⟩
      · exact .inr ⟨code, List.mem_append_right _ hlater⟩

/-- An event opens a session. -/
def Opens (s : State) (e : Event) : Prop :=
  s.listener.session = none ∧ e.GetsPort

/-- None of the events opens a session while an exchange is in flight. -/
def StartsClear (s : State) : List Event → Prop
  | [] => True
  | e :: events =>
    (s.Opens e → s.listener.exchanges = []) ∧ (s.step e).1.StartsClear events

/-- All exchanges in flight belong to the session that was opened last. -/
def NoneLeftOver (s : State) : Prop :=
  ∀ number ∈ s.listener.sessions, number + 1 = s.listener.opened

/-- If no session is opened while an exchange is in flight, then none is left over. -/
theorem noneLeftOver_step {s : State} {e : Event} (horder : s.listener.Orderly)
    (h : s.NoneLeftOver) (hclear : s.Opens e → s.listener.exchanges = []) :
    (s.step e).1.NoneLeftOver := by
  have hmoves := s.moves_step e
  generalize (s.step e).1 = s', (s.step e).2 = signals at hmoves
  cases hmoves with
  | ignored | busy | looked | left | failed | taken | stopped => exact h
  | opened port path address session hclosed hnumber =>
      have hnone := hclear ⟨hclosed, port, path, address, rfl⟩
      intro number hmem
      simp [Listener.sessions, hnone] at hmem
  | accepted r code session hopen hcode hfree =>
      intro number hmem
      rw [Listener.sessions_accept] at hmem
      rcases List.mem_append.mp hmem with hold | hlast
      · exact h number hold
      · rw [List.mem_singleton.mp hlast]
        exact horder.current session hopen
  | granted x ticket grant =>
      intro number hmem
      rw [Listener.sessions_grantTo] at hmem
      exact h number hmem
  | denied | ended =>
      exact fun number hmem => h number ((Listener.sessions_finish _ _).subset hmem)

theorem noneLeftOver_run (events : List Event) : ∀ s : State, s.listener.Orderly →
    s.NoneLeftOver → s.StartsClear events → (s.run events).1.NoneLeftOver := by
  induction events with
  | nil => exact fun s _ h _ => h
  | cons e events ih =>
      intro s horder h hclear
      exact ih (s.step e).1 (s.orderly_step e horder) (noneLeftOver_step horder h hclear.1) hclear.2

/-- While no session is open, no exchange is in flight either. -/
def Clear (s : State) : Prop :=
  s.listener.session = none → s.listener.exchanges = []

/-- Only a stop can leave an exchange in flight behind. -/
theorem clear_step {s : State} {e : Event} (h : s.Clear) (hne : e ≠ .stop) :
    (s.step e).1.Clear := by
  have hmoves := s.moves_step e
  generalize (s.step e).1 = s', (s.step e).2 = signals at hmoves
  cases hmoves with
  | ignored | busy | looked | left | failed | taken => exact h
  | stopped => exact (hne rfl).elim
  | opened => exact (nomatch ·)
  | accepted r code session hopen =>
      exact fun hclosed => by rw [show s.listener.session = none from hclosed] at hopen; cases hopen
  | granted | denied | ended =>
      intro hclosed
      simp [Listener.grantTo, Listener.finish, h hclosed]

theorem startsClear_of_clear (events : List Event) : ∀ s : State, s.Clear → .stop ∉ events →
    s.StartsClear events := by
  induction events with
  | nil => exact fun _ _ _ => trivial
  | cons e events ih =>
      intro s h hstop
      obtain ⟨hne, hlater⟩ := List.ne_and_not_mem_of_not_mem_cons hstop
      exact ⟨fun hopens => h hopens.1, ih _ (clear_step h hne.symm) hlater⟩

/-- Exchanges of one session are one exchange at most. -/
theorem NoneLeftOver.length_le_one {s : State} (horder : s.listener.Orderly)
    (h : s.NoneLeftOver) : s.listener.exchanges.length ≤ 1 := by
  have hlength : s.listener.sessions.length = s.listener.exchanges.length := List.length_map _
  rw [← hlength]
  by_contra hmore
  have hnodup := horder.sessions
  match hsessions : s.listener.sessions, hnodup with
  | [], _ => simp [hsessions] at hmore
  | [_], _ => simp [hsessions] at hmore
  | a :: b :: rest, hnodup =>
      -- Two exchanges would both belong to the last session, and yet to different ones.
      have ha := h a (by simp [hsessions])
      have hb := h b (by simp [hsessions])
      have hne : a ≠ b := by
        intro heq
        simp [heq] at hnodup
      omega

/-- If none is left over, then any exchange in flight keeps the present session busy. -/
theorem NoneLeftOver.isBusy {s : State} (horder : s.listener.Orderly) (h : s.NoneLeftOver)
    {session : Session} (hopen : s.listener.session = some session)
    (hsome : s.listener.exchanges ≠ []) : s.listener.isBusy session.number = true := by
  obtain ⟨x, hx⟩ := List.exists_mem_of_ne_nil _ hsome
  have hmem : x.session ∈ s.listener.sessions := List.mem_map_of_mem hx
  have hnumber : x.session = session.number := by
    have hlast := h _ hmem
    have hpresent := horder.current session hopen
    omega
  exact Listener.isBusy_eq_true_iff.mpr (hnumber ▸ hmem)

/-- A new listener leaves no exchange over if each of its sessions is opened with none in flight. -/
theorem noneLeftOver_of_startsClear (client : TokenClient) (store : Store) {events : List Event}
    (hclear : (new client store).StartsClear events) :
    ((new client store).run events).1.NoneLeftOver :=
  noneLeftOver_run events (new client store) (orderly_run client store [])
    (by simp [NoneLeftOver, new, Listener.new, Listener.sessions]) hclear

/-- **One exchange for each session.**  In every run the exchanges in flight belong to different
sessions, and a code that comes in is turned away, with nothing else changed or sent, exactly when
one of them belongs to the present session; otherwise it is sent.  If no session was opened while an
exchange was in flight, there is one exchange at most, and while there is one every code is turned
away. -/
theorem one_exchange_per_session (client : TokenClient) (store : Store) (events : List Event) :
    let s := ((new client store).run events).1
    (s.listener.exchanges.map Exchange.session).Nodup ∧
    (∀ r code session, s.listener.session = some session → r.message = .code code →
      ((∃ x ∈ s.listener.exchanges, x.session = session.number) →
        s.step (.redirect r) = (s, [.page ⟨409, "A login is already being processed."⟩])) ∧
      ((∀ x ∈ s.listener.exchanges, x.session ≠ session.number) →
        .sent s.listener.accepted code ∈ (s.step (.redirect r)).2 ∧
          (s.step (.redirect r)).1.listener.exchanges =
            s.listener.exchanges ++ [⟨s.listener.accepted, session.number, code, none⟩])) ∧
    ((new client store).StartsClear events →
      s.listener.exchanges.length ≤ 1 ∧
      ∀ r code, s.listener.isRunning = true → r.message = .code code →
        s.listener.exchanges ≠ [] →
        s.step (.redirect r) = (s, [.page ⟨409, "A login is already being processed."⟩])) := by
  intro s
  have horder : s.listener.Orderly := orderly_run client store events
  refine ⟨horder.sessions, ?_, ?_⟩
  · intro r code session hopen hcode
    constructor
    · intro hbusy
      exact step_busy hopen hcode (Listener.isBusy_eq_true_iff.mpr (List.mem_map.mpr hbusy))
    · intro hother
      have hfree : s.listener.isBusy session.number = false := by
        rw [Bool.eq_false_iff, ne_eq, Listener.isBusy_eq_true_iff, Listener.sessions, List.mem_map]
        rintro ⟨x, hx, hnumber⟩
        exact hother x hx hnumber
      rw [step_accepted hopen hcode hfree]
      exact ⟨by simp, rfl⟩
  · intro hclear
    have hlast : s.NoneLeftOver := noneLeftOver_of_startsClear client store hclear
    refine ⟨hlast.length_le_one horder, ?_⟩
    intro r code hrunning hcode hsome
    obtain ⟨session, hopen⟩ := Option.isSome_iff_exists.mp hrunning
    exact step_busy hopen hcode (hlast.isBusy horder hopen hsome)

/-- With one start, before any code, the second code is turned away. -/
theorem second_code_turned_away :
    let events := [starts, .redirect (bringing "ONE")]
    sample.StartsClear events ∧ (sample.run events).1.listener.exchanges.length = 1 ∧
      ((sample.run events).1.step (.redirect (bringing "TWO"))).2 =
        [.page ⟨409, "A login is already being processed."⟩] := by
  intro events
  have hclear : sample.StartsClear events :=
    ⟨fun _ => rfl, fun hopens => by simp [Opens, Event.GetsPort] at hopens, trivial⟩
  have hbusy := (one_exchange_per_session _ _ events).2.2 hclear
  refine ⟨hclear, rfl, ?_⟩
  exact congrArg Prod.snd (hbusy.2 (bringing "TWO") "TWO" rfl rfl (List.cons_ne_nil _ _))

/-- **Two exchanges in flight.**  The listener is stopped and started while it exchanges a code;
the next code is accepted and sent as well. -/
theorem two_exchanges_in_flight :
    let after := sample.run [starts, .redirect (bringing "ONE"), .stop, starts]
    let last := after.1.step (.redirect (bringing "TWO"))
    after.1.listener.exchanges.map Exchange.code = ["ONE"] ∧
      last.2 = [.published .codeReceived, .sent 1 "TWO", .page Listener.acceptedPage] ∧
      last.1.listener.exchanges.map Exchange.code = ["ONE", "TWO"] := by
  decide

end Login.State

end SignOn
