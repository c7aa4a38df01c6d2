import SignOn.Proofs.Login.OneExchange
/-!
# What outlives a session

A stop publishes that the listener is idle.  Until the next start it takes no redirects, so all that
can happen then is that exchanges in flight advance, and each advance publishes something else
(`closed_step`).  Once a session is open again, a wait returns the outcome that was published last
(`produced_run`), and this may be the outcome of an exchange from before the stop:
`late_exchange_leaks` is a run in which a stopped listener publishes that a login has succeeded, and
another in which the next session, to which no code was brought, is told so.

The main statement, `stopped_session_leaks_iff`, says that nothing else outlives a session.  A
stopped listener stays idle exactly if all exchanges in flight wait, and a wait in a later session
can return the outcome of an earlier code exactly if the exchange of that code is in flight when the
session is opened.
-/

namespace SignOn.Login.State

/-- None of the events changes an exchange in flight. -/
def AllWait (s : State) : List Event → Prop
  | [] => True
  | e :: events =>
    (s.step e).1.listener.exchanges = s.listener.exchanges ∧ (s.step e).1.AllWait events

/-- An event of a run publishes an outcome, and nothing else is published until a wait looks. -/
def Produces (s : State) (events : List Event) (e : Event) (p : Progress) : Prop :=
  ∃ before after rest, events = before ++ e :: (after ++ .observe :: rest) ∧
    published ((s.run before).1.step e).2 = [p] ∧
    published (((s.run before).1.step e).1.run after).2 = [] ∧
    (((s.run before).1.step e).1.run after).1.observed = none

/-- **One step of a stopped listener.**  It opens no session, sends no code, and publishes something
other than idleness exactly if it changes an exchange in flight. -/
theorem closed_step {s : State} (hclosed : s.listener.session = none) {e : Event}
    (he : ¬e.GetsPort) :
    (s.step e).1.listener.session = none ∧ (∀ ticket code, .sent ticket code ∉ (s.step e).2) ∧
      ((∀ p ∈ published (s.step e).2, p = .idle) ↔
        (s.step e).1.listener.exchanges = s.listener.exchanges) := by
  have hmoves := s.moves_step e
  generalize (s.step e).1 = s', (s.step e).2 = signals at hmoves
  cases hmoves with
  | ignored | looked => exact ⟨hclosed, by simp, by simp [published]⟩
  | left => exact ⟨hclosed, by simp, by simp [published, Signal.published?]⟩
  | stopped => exact ⟨rfl, by simp, by simp [published, Signal.published?, Listener.stop]⟩
  | opened port path address => exact (he ⟨port, path, address, rfl⟩).elim
  | failed r reason page session hopen
  | busy r code session hopen
  | accepted r code session hopen =>
      exact nomatch hclosed.symm.trans hopen
  | taken outcome hseen hopen => simp [Listener.isRunning, hclosed] at hopen
  | granted x ticket grant hx hwaits =>
      exact ⟨hclosed, by simp, iff_of_false (by simp [published, Signal.published?])
        (Listener.exchanges_grantTo_ne hx hwaits grant)⟩
  | denied x ticket fault hx =>
      exact ⟨hclosed, by simp, iff_of_false (by simp [published, Signal.published?])
        (Listener.exchanges_finish_ne hx _)⟩
  | ended x ticket grant hx =>
      refine ⟨hclosed, by simp, iff_of_false ?_ (Listener.exchanges_finish_ne hx _)⟩
      cases (s.store.setBearer grant.bearer).1 <;>
        simp [published, Signal.published?, Progress.ofWrite]

/-- **A stopped listener publishes only idleness exactly if all exchanges wait.** -/
theorem closed_run (events : List Event) : ∀ {s : State}, s.listener.session = none →
    (∀ e ∈ events, ¬e.GetsPort) →
    (s.run events).1.listener.session = none ∧
      ((∀ p ∈ published (s.run events).2, p = .idle) ↔ s.AllWait events) := by
  induction events with
  | nil => exact fun hclosed _ => ⟨hclosed, by simp [run, published, AllWait]⟩
  | cons e events ih =>
      intro s hclosed hnever
      obtain ⟨he, hnever⟩ := List.forall_mem_cons.mp hnever
      obtain ⟨hstill, -, hidle⟩ := closed_step hclosed he
      obtain ⟨hend, hrest⟩ := ih hstill hnever
      refine ⟨hend, ?_⟩
      rw [run_cons, published_append, List.forall_mem_append, hidle, hrest, AllWait]

/-- With no exchange in flight none comes up while the listener is stopped. -/
theorem allWait_of_nil (events : List Event) : ∀ {s : State}, s.listener.session = none →
    (∀ e ∈ events, ¬e.GetsPort) → s.listener.exchanges = [] →
    s.AllWait events ∧ (s.run events).1.listener.exchanges = [] := by
  induction events with
  | nil => exact fun _ _ hnone => ⟨trivial, hnone⟩
  | cons e events ih =>
      intro s hclosed hnever hnone
      obtain ⟨he, hnever⟩ := List.forall_mem_cons.mp hnever
      obtain ⟨hstill, hsilent, -⟩ := closed_step hclosed he
      have hnone' : (s.step e).1.listener.exchanges = [] := by
        refine List.eq_nil_iff_forall_not_mem.mpr fun x hx => ?_
        rcases s.tickets_step e x.ticket (List.mem_map_of_mem hx) with hold | ⟨code, hsent⟩
        · simp [Listener.tickets, hnone] at hold
        · exact hsilent x.ticket code hsent
      obtain ⟨hwait, hend⟩ := ih hstill hnever hnone'
      exact ⟨⟨hnone'.trans hnone.symm, hwait⟩, hend⟩

/-- If only idleness is published, then an idle listener stays idle. -/
theorem idle_run {s : State} {events : List Event} (hidle : s.listener.progress = .idle)
    (hpublished : ∀ p ∈ published (s.run events).2, p = .idle) :
    (s.run events).1.listener.progress = .idle := by
  rcases progress_run events s with ⟨-, hsame⟩ | ⟨before, e, after, rfl, hlast, -⟩
  · rw [hsame, hidle]
  · apply hpublished
    have hsplit : published (s.run (before ++ e :: after)).2 =
        published (s.run before).2 ++ (published ((s.run before).1.step e).2 ++
          published (((s.run before).1.step e).1.run after).2) := by
      rw [run_append, run_cons, published_append, published_append]
    rw [hsplit, hlast]
    simp

/-- What a wait returns it has seen: before the run, or when it looked in its course. -/
theorem seen_run (events : List Event) : ∀ {s : State} {p : Progress},
    .returned p ∈ (s.run events).2 → s.observed = some p ∨
      ∃ before rest, events = before ++ .observe :: rest ∧ (s.run before).1.observed = none ∧
        (s.run before).1.listener.outcome? = some p := by
  induction events with
  | nil => simp [run]
  | cons e events ih =>
      intro s p hreturned
      rw [run_cons] at hreturned
      rcases List.mem_append.mp hreturned with hnow | hlater
      · exact .inl (s.returned_step e hnow)
      · rcases ih hlater with hseen | ⟨before, rest, rfl, hnone, houtcome⟩
        · rcases s.observed_step e hseen with hthen | ⟨rfl, hnone, houtcome⟩
          · exact .inl hthen
          · exact .inr ⟨[], events, rfl, hnone, houtcome⟩
        · exact .inr ⟨e :: before, rest, rfl, hnone, houtcome⟩

/-- A wait that looks for the first time in a run returns what an event of the run has produced. -/
theorem produced_run {s : State} {later waits : List Event} {p : Progress}
    (hopen : s.listener.outcome? = none) (hnone : (s.run later).1.observed = none)
    (hreturned : .returned p ∈ ((s.run later).1.run waits).2) :
    ∃ e, s.Produces (later ++ waits) e p := by
  rcases seen_run waits hreturned with hseen | ⟨looked, rest, rfl, hblind, houtcome⟩
  · exact nomatch hnone.symm.trans hseen
  have hthen : ((s.run later).1.run looked).1 = (s.run (later ++ looked)).1 := by rw [run_append]
  rw [hthen] at hblind houtcome
  have hprogress := (Listener.outcome?_eq_some_iff.mp houtcome).1
  rcases progress_run (later ++ looked) s with ⟨-, hsame⟩ | ⟨before, e, after, hsplit, hlast, hquiet⟩
  · rw [Listener.outcome?, hsame] at houtcome
    exact nomatch hopen.symm.trans houtcome
  · refine ⟨e, before, after, rest, ?_, hlast.trans (by rw [hprogress]), hquiet, ?_⟩
    · rw [← List.append_assoc, hsplit]
      simp
    · rw [hsplit, run_append] at hblind
      exact hblind

/-- An exchange that publishes something is in flight. -/
theorem mem_tickets_of_published {s : State} {e : Event} {ticket : Nat}
    (he : e.ticket? = some ticket) (hpublished : published (s.step e).2 ≠ []) :
    ticket ∈ s.listener.tickets := by
  have hmoves := s.moves_step e
  generalize (s.step e).1 = s', (s.step e).2 = signals at hmoves hpublished
  cases hmoves with
  | granted x number grant hx | denied x number fault hx | ended x number grant hx =>
      obtain rfl : number = ticket := by simpa [Event.ticket?] using he
      obtain ⟨hmem, rfl⟩ := Listener.mem_of_exchange? hx
      exact List.mem_map_of_mem hmem
  | ignored => exact (hpublished rfl).elim
  | _ => exact nomatch he

/-- What produces an outcome in a run is no exchange of an earlier code, unless it is in flight when
the run starts. -/
theorem Produces.mem_tickets {s : State} {events : List Event} {e : Event} {p : Progress}
    (h : s.Produces events e p) {ticket : Nat} (he : e.ticket? = some ticket)
    (hold : ticket < s.listener.accepted) : ticket ∈ s.listener.tickets := by
  obtain ⟨before, after, rest, -, hpublished, -⟩ := h
  have hmem := mem_tickets_of_published he (hpublished ▸ List.cons_ne_nil p [])
  rcases tickets_run before s ticket hmem with hthen | ⟨code, hsent⟩
  · exact hthen
  · exact (Nat.not_lt_of_le ((sent_run before s).2 ticket code hsent).1 hold).elim

/-- An exchange in flight can end at once. -/
theorem exists_end {s : State} {x : Exchange} {ticket : Nat}
    (hx : s.listener.exchange? ticket = some x) :
    ∃ e p, e.ticket? = some ticket ∧ p.isTerminal = true ∧ (s.step e).2 = [.published p] ∧
      (s.step e).1.listener.progress = p ∧ (s.step e).1.observed = s.observed ∧
      (s.step e).1.listener.session = s.listener.session := by
  cases hgrant : x.grant with
  | none =>
      -- A refusal of the token endpoint ends an exchange that waits for it.
      have hmoves := s.moves_step (.answer ticket (.error (.exchange 400 "")))
      generalize hs' : (s.step (.answer ticket (.error (.exchange 400 "")))).1 = s',
        hsignals : (s.step (.answer ticket (.error (.exchange 400 "")))).2 = signals at hmoves
      cases hmoves with
      | ignored _ hignored => exact (hignored x hx hgrant).elim
      | denied => exact ⟨_, _, rfl, rfl, hsignals, by rw [hs']; rfl, by rw [hs'], by rw [hs']; rfl⟩
  | some grant =>
      have hmoves := s.moves_step (.store ticket)
      generalize hs' : (s.step (.store ticket)).1 = s',
        hsignals : (s.step (.store ticket)).2 = signals at hmoves
      cases hmoves with
      | ignored _ hignored => exact nomatch (hignored x hx).symm.trans hgrant
      | ended y _ grant' =>
          refine ⟨.store ticket, _, rfl, ?_, hsignals, by rw [hs']; rfl, by rw [hs'],
            by rw [hs']; rfl⟩
          cases (s.store.setBearer grant'.bearer).1 <;> rfl

/-- An exchange in flight in an open session can produce the outcome of the next wait. -/
theorem exists_produces {s : State} {x : Exchange} {ticket : Nat}
    (hopen : s.listener.isRunning = true) (hnone : s.observed = none)
    (hx : s.listener.exchange? ticket = some x) :
    ∃ waits e p, e.ticket? = some ticket ∧ s.Produces waits e p ∧
      .returned p ∈ (s.run waits).2 := by
  obtain ⟨e, p, hticket, hend, htold, hprogress, hobserved, hsession⟩ := exists_end hx
  have hopen' : (s.step e).1.listener.isRunning = true := by
    rw [Listener.isRunning, hsession]
    exact hopen
  refine ⟨[e, .observe, .consume], e, p, hticket, ?_, ?_⟩
  · exact ⟨[], [], [.consume], rfl, by simp [run, htold, published, Signal.published?], rfl,
      hobserved.trans hnone⟩
  · rw [run_cons, waited_of_progress (hobserved.trans hnone) hopen' hprogress hend]
    simp

/-- A run that goes on keeps what is produced in its course. -/
theorem Produces.append_left {s : State} {first events : List Event} {e : Event} {p : Progress}
    (h : (s.run first).1.Produces events e p) : s.Produces (first ++ events) e p := by
  obtain ⟨before, after, rest, rfl, hpublished⟩ := h
  refine ⟨first ++ before, after, rest, by simp, ?_⟩
  rw [run_append]
  exact hpublished

/-- A stopped listener can be started, and then no outcome is to be seen. -/
theorem step_start {s : State} (hclosed : s.listener.session = none) (port : Nat) (path : String)
    (address : Endpoint) :
    let started := (s.step (.start port path (.ok address))).1
    started.listener.isRunning = true ∧ started.listener.outcome? = none ∧
      started.listener.exchanges = s.listener.exchanges ∧
      started.listener.accepted = s.listener.accepted := by
  simp [step, Listener.start, hclosed, Listener.isRunning, Listener.outcome?, Progress.isTerminal]

/-- After its removal no outcome is seen, and sessions and exchanges are as before. -/
theorem step_consume (s : State) :
    (s.step .consume).1.observed = none ∧
      (s.step .consume).1.listener.session = s.listener.session ∧
      (s.step .consume).1.listener.exchanges = s.listener.exchanges := by
  have hmoves := s.moves_step .consume
  generalize (s.step .consume).1 = s', (s.step .consume).2 = signals at hmoves
  cases hmoves with
  | ignored _ hnone => exact ⟨hnone, rfl, rfl⟩
  | taken | left => exact ⟨rfl, rfl, rfl⟩

/-- An exchange in flight in an open session can produce what a wait returns that looks once the
waits of before have returned. -/
theorem exists_leak {s : State} {x : Exchange} (horder : s.listener.Orderly)
    (hopen : s.listener.isRunning = true) (hx : x ∈ s.listener.exchanges) :
    ∃ later waits e p, (s.run later).1.observed = none ∧
      .returned p ∈ ((s.run later).1.run waits).2 ∧ s.Produces (later ++ waits) e p ∧
      e.ticket? = some x.ticket := by
  -- A wait that has seen an outcome before returns it first; then the next one looks afresh.
  obtain ⟨hnone, hsession, hexchanges⟩ := s.step_consume
  have hopen' : (s.run [.consume]).1.listener.isRunning = true := by
    rw [run_cons, run, Listener.isRunning, hsession]
    exact hopen
  have hfound : (s.run [.consume]).1.listener.exchange? x.ticket = some x := by
    rw [run_cons, run, Listener.exchange?, hexchanges]
    exact horder.exchange?_eq_some_iff.mpr ⟨hx, rfl⟩
  obtain ⟨waits, e, p, hticket, hproduces, hreturned⟩ := exists_produces hopen' hnone hfound
  exact ⟨[.consume], waits, e, p, hnone, hreturned, hproduces.append_left, hticket⟩

/-- **What outlives a session.**  The listener is stopped after some run, and then not started until
the start at the end of the gap.  It is idle when stopped, and in the gap nothing but idleness is
published exactly if all exchanges in flight wait, which they do if there is none.  After the start,
whatever a wait returns has been produced in the meantime; and an exchange of a code that was
accepted before the stop can have produced it exactly if it is in flight at the start. -/
theorem stopped_session_leaks_iff (client : TokenClient) (store : Store) (before gap : List Event)
    (hgap : ∀ e ∈ gap, ¬e.GetsPort) :
    let past := (new client store).run before
    let stopped := (past.1.step .stop).1
    let closed := stopped.run gap
    stopped.listener.progress = .idle ∧
    ((∀ p ∈ published closed.2, p = .idle) ↔ stopped.AllWait gap) ∧
    (stopped.AllWait gap → closed.1.listener.progress = .idle) ∧
    (past.1.listener.exchanges = [] →
      stopped.AllWait gap ∧ closed.1.listener.exchanges = []) ∧
    ∀ port path address,
      let started := (closed.1.step (.start port path (.ok address))).1
      started.listener.exchanges = closed.1.listener.exchanges ∧
      (∀ later waits p, (started.run later).1.observed = none →
        .returned p ∈ ((started.run later).1.run waits).2 →
        ∃ e, started.Produces (later ++ waits) e p) ∧
      ∀ ticket code, .sent ticket code ∈ past.2 →
        ((∃ later waits e p, (started.run later).1.observed = none ∧
            .returned p ∈ ((started.run later).1.run waits).2 ∧
            started.Produces (later ++ waits) e p ∧ e.ticket? = some ticket) ↔
          ∃ x ∈ started.listener.exchanges, x.ticket = ticket) := by
  intro past stopped closed
  have hclosed : stopped.listener.session = none := rfl
  obtain ⟨hstill, hidle⟩ := closed_run gap hclosed hgap
  refine ⟨rfl, hidle, fun hwait => idle_run rfl (hidle.mpr hwait), fun hnone => ?_, ?_⟩
  · exact allWait_of_nil gap hclosed hgap hnone
  intro port path address started
  obtain ⟨hrunning, hopen, hexchanges, haccepted⟩ := step_start hstill port path address
  have horder : started.listener.Orderly :=
    orderly_step _ _ (run_keeps (P := fun s => s.listener.Orderly) orderly_step gap _
      (orderly_step _ .stop (orderly_run client store before)))
  refine ⟨hexchanges, fun later waits p => produced_run hopen, fun ticket code hsent => ?_⟩
  have hold : ticket < started.listener.accepted := by
    have hpast : ticket < past.1.listener.accepted :=
      ((sent_run before (new client store)).2 ticket code hsent).2
    have hgrown : past.1.listener.accepted ≤ closed.1.listener.accepted :=
      (sent_run gap stopped).1
    exact haccepted ▸ Nat.lt_of_lt_of_le hpast hgrown
  constructor
  -- Codes are numbered as they are sent, so an exchange of an old code cannot have come up since.
  · rintro ⟨later, waits, e, p, -, -, hproduces, he⟩
    exact List.mem_map.mp (hproduces.mem_tickets he hold)
  · rintro ⟨x, hx, rfl⟩
    exact exists_leak horder hrunning hx

/-- An exchange that waits through a stop and a start can produce what a wait returns then. -/
theorem stopped_session_leaks_sample :
    let past := sample.run [starts, .redirect (bringing "ONE")]
    let stopped := (past.1.step .stop).1
    let gap : List Event := [.redirect (bringing "TWO"), .stop]
    let started := ((stopped.run gap).1.step starts).1
    .sent 0 "ONE" ∈ past.2 ∧ (∀ p ∈ published (stopped.run gap).2, p = .idle) ∧
      ∃ later waits e p, (started.run later).1.observed = none ∧
        .returned p ∈ ((started.run later).1.run waits).2 ∧
        started.Produces (later ++ waits) e p ∧ e.ticket? = some 0 := by
  intro past stopped gap started
  have hsent : .sent 0 "ONE" ∈ past.2 := by decide
  obtain ⟨-, hidle, -, -, hleaks⟩ :=
    stopped_session_leaks_iff _ _ [starts, .redirect (bringing "ONE")] gap
      (by simp [gap, Event.GetsPort])
  exact ⟨hsent, hidle.mpr ⟨rfl, rfl, trivial⟩,
    ((hleaks 8080 "/oauth2Callback" ⟨"127.0.0.1", 8080⟩).2.2 0 "ONE" hsent).mpr
      ⟨_, List.mem_singleton_self _, rfl⟩⟩

/-- **A late exchange leaks.**  The listener is stopped while it exchanges a code.  If the exchange
ends then, the stopped listener publishes success; if it ends after another start, the wait that
looks then returns success, although no code came in since. -/
theorem late_exchange_leaks :
    let stopped := sample.run [starts, .redirect (bringing "ONE"), .stop]
    let ends : List Event := [.answer 0 (.ok granting), .store 0]
    stopped.1.listener.progress = .idle ∧ stopped.1.observed = none ∧
      (stopped.1.run ends).2 = [.published .tokenExchanged, .published .success] ∧
      (stopped.1.run ends).1.listener.progress = .success ∧
      (stopped.1.run (starts :: ends ++ [.observe, .consume])).2 =
        [.published .listening, .published .tokenExchanged, .published .success,
          .published .listening, .returned .success] := by
  decide

end SignOn.Login.State
