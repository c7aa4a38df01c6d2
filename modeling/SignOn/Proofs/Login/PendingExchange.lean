import SignOn.Proofs.Login.OneExchange
import SignOn.Proofs.Store.Durability
/-!
# What disturbs a pending exchange

From the moment a code is accepted until its exchange ends, the exchange publishes that the code was
received and, once the token endpoint has answered, that the tokens were exchanged.  Its end
publishes success if the tokens were stored, and the failure otherwise (`ends_of_gone`).  Codes that
come in meanwhile are turned away and publish nothing.

A redirect that brings no code is not turned away: it publishes a failure at once, whatever is in
flight.  `redirect_disturbs_exchange` is a run in which a wait therefore returns a failure, although
the tokens of the login are stored afterwards.  The main statement,
`pending_exchange_undisturbed_iff`, says that nothing else does this: while an exchange is pending,
only its own steps are published and no wait returns, exactly if no redirect without a code comes
in.
-/

namespace SignOn

namespace Exchange

/-- How far the login of an exchange in flight is. -/
def stage (x : Exchange) : Progress :=
  if x.grant.isSome then .tokenExchanged else .codeReceived

/-- What an exchange in flight has published from the moment its code was accepted. -/
def published (x : Exchange) : List Progress :=
  .codeReceived :: if x.grant.isSome then [.tokenExchanged] else []

theorem isTerminal_stage (x : Exchange) : x.stage.isTerminal = false := by
  unfold stage
  split <;> rfl

end Exchange

namespace Login.State

/-- An exchange of the present session is in flight, and no other one. -/
def Pends (s : State) (x : Exchange) : Prop :=
  s.listener.exchanges = [x] ∧
    ∃ session, s.listener.session = some session ∧ session.number = x.session

/-- A wait has seen nothing but the end of a login. -/
def SeesEnds (s : State) : Prop :=
  ∀ outcome, s.observed = some outcome → outcome.isTerminal = true

theorem seesEnds_step (s : State) (e : Event) (h : s.SeesEnds) : (s.step e).1.SeesEnds := by
  intro outcome hseen
  rcases s.observed_step e hseen with hthen | ⟨-, -, houtcome⟩
  · exact h outcome hthen
  · exact (Listener.outcome?_eq_some_iff.mp houtcome).2

section

variable {s : State} {x : Exchange}

/-- The only exchange in flight is the only one that is found. -/
theorem Pends.eq_of_exchange? (h : s.Pends x) {ticket : Nat} {y : Exchange}
    (hy : s.listener.exchange? ticket = some y) : y = x ∧ ticket = x.ticket := by
  obtain ⟨hmem, hticket⟩ := Listener.mem_of_exchange? hy
  rw [h.1, List.mem_singleton] at hmem
  subst hmem
  exact ⟨rfl, hticket.symm⟩

/-- The end of the only exchange leaves none. -/
theorem Pends.exchanges_finish (h : s.Pends x) (p : Progress) :
    (s.listener.finish x.ticket p).exchanges = [] := by
  simp [Listener.finish, h.1]

/-- A pending exchange keeps its session busy. -/
theorem Pends.isBusy (h : s.Pends x) {session : Session}
    (hopen : s.listener.session = some session) :
    s.listener.isBusy session.number = true := by
  obtain ⟨hone, session', hopen', hnumber⟩ := h
  rw [hopen, Option.some.injEq] at hopen'
  rw [hopen'] at *
  simp [Listener.isBusy, hone, hnumber]

/-- A redirect that brings no code publishes a failure, and the exchange is still pending. -/
theorem Pends.step_codeless (h : s.Pends x) {e : Event} (he : e.IsCodeless) :
    (s.step e).1.Pends x ∧ ∃ reason, published (s.step e).2 = [.failed reason] := by
  obtain ⟨hone, session, hopen, hnumber⟩ := h
  have hmoves := s.moves_step e
  generalize (s.step e).1 = s', (s.step e).2 = signals at hmoves
  cases hmoves with
  | failed r reason page => exact ⟨⟨hone, session, hopen, hnumber⟩, reason, rfl⟩
  | busy r code session' hopen' hcode | accepted r code session' hopen' hcode =>
      exact (he (by simp [Redirect.failure?, hcode])).elim
  | ignored _ hignored =>
      cases e with
      | redirect r => cases (Eq.symm hignored).trans hopen
      | _ => exact he.elim
  | _ => exact he.elim

/-- What a step can do to a pending exchange: end it, leave it and its progress alone, grant it its
tokens, publish a failure beside it, or take the outcome that a wait has seen away. -/
inductive PendingMove (s : State) (x : Exchange) (e : Event) : Prop
  | ended (hnone : (s.step e).1.listener.exchanges = [])
  | quiet (hpends : (s.step e).1.Pends x)
      (hprogress : (s.step e).1.listener.progress = s.listener.progress)
      (hpublished : published (s.step e).2 = [])
  | granted (grant : Grant) (hwaits : x.grant = none)
      (hpends : (s.step e).1.Pends { x with grant := some grant })
      (hprogress : (s.step e).1.listener.progress = .tokenExchanged)
      (hpublished : published (s.step e).2 = [.tokenExchanged])
  | disturbed (he : e.IsCodeless) (hpends : (s.step e).1.Pends x)
  | taken (hpends : (s.step e).1.Pends x) (hseen : s.observed = some s.listener.progress)

theorem Pends.step (h : s.Pends x) {e : Event} (hne : e ≠ .stop) : s.PendingMove x e := by
  have hmoves := s.moves_step e
  generalize hs' : (s.step e).1 = s', hsignals : (s.step e).2 = signals at hmoves
  have hstep : s.step e = (s', signals) := by rw [← hs', ← hsignals]
  cases hmoves with
  | ignored | busy | looked | left =>
      exact .quiet (by rw [hstep]; exact h) (by rw [hstep]) (by rw [hstep]; rfl)
  | opened port path address session hclosed =>
      obtain ⟨-, session', hopen, -⟩ := h
      exact nomatch hclosed.symm.trans hopen
  | stopped => exact (hne rfl).elim
  | failed r reason page session hopen hreason =>
      exact .disturbed (by simp [Event.IsCodeless, hreason]) (by rw [hstep]; exact h)
  | accepted r code session hopen hcode hfree =>
      exact nomatch hfree.symm.trans (h.isBusy hopen)
  | granted y ticket grant hy hwaits =>
      obtain ⟨rfl, rfl⟩ := h.eq_of_exchange? hy
      refine .granted grant hwaits ?_ (by rw [hstep]; rfl) (by rw [hstep]; rfl)
      rw [hstep]
      exact ⟨by simp [Listener.grantTo, h.1], h.2⟩
  | denied y ticket fault hy | ended y ticket grant hy =>
      obtain ⟨rfl, rfl⟩ := h.eq_of_exchange? hy
      exact .ended (by rw [hstep]; exact h.exchanges_finish _)
  | taken outcome hseen hopen hsame =>
      exact .taken (by rw [hstep]; exact h) (by rw [hseen, hsame])

/-- While there is no outcome to see, no wait sees or returns one. -/
theorem blind_step (s : State) (e : Event) (hnone : s.observed = none)
    (hblind : s.listener.outcome? = none) :
    (s.step e).1.observed = none ∧ ∀ p, .returned p ∉ (s.step e).2 := by
  constructor
  · refine Option.eq_none_iff_forall_ne_some.mpr fun p hseen => ?_
    rcases s.observed_step e hseen with hthen | ⟨-, -, houtcome⟩
    · exact nomatch hnone.symm.trans hthen
    · exact nomatch hblind.symm.trans houtcome
  · exact fun p hreturned => nomatch hnone.symm.trans (s.returned_step e hreturned)

/-- After a step that leaves no exchange in flight, none of an earlier code comes back. -/
theorem gone_run {ticket : Nat} {e : Event} (events : List Event)
    (hnone : (s.step e).1.listener.exchanges = []) (hold : ticket < s.listener.accepted) :
    ticket ∉ ((s.step e).1.run events).1.listener.tickets := by
  intro hmem
  rcases (s.step e).1.tickets_run events ticket hmem with hthen | ⟨code, hlater⟩
  · simp [Listener.tickets, hnone] at hthen
  · have hnew : (s.step e).1.listener.accepted ≤ ticket :=
      (((s.step e).1.sent_run events).2 ticket code hlater).1
    exact Nat.not_lt_of_le (Nat.le_trans (s.sent_step e).1 hnew) hold

/-- An exchange is pending, the progress is its own, and a wait has seen no such progress. -/
structure Calm (s : State) (x : Exchange) : Prop where
  pends : s.Pends x
  old : x.ticket < s.listener.accepted
  progress : s.listener.progress = x.stage
  seesEnds : s.SeesEnds

/-- **One step of a calm login**, with no redirect that lacks a code: it publishes a step of the
exchange or nothing, or it ends the exchange. -/
theorem Calm.step (h : s.Calm x) {e : Event} (hne : e ≠ .stop) (he : ¬e.IsCodeless) :
    (∃ y, y.ticket = x.ticket ∧ (s.step e).1.Calm y ∧
        x.published ++ published (s.step e).2 = y.published) ∨
      (s.step e).1.listener.exchanges = [] := by
  have hold : x.ticket < (s.step e).1.listener.accepted :=
    Nat.lt_of_lt_of_le h.old (s.sent_step e).1
  have hsees := s.seesEnds_step e h.seesEnds
  cases h.pends.step hne with
  | ended hnone => exact .inr hnone
  | quiet hpends hprogress hpublished =>
      exact .inl ⟨x, rfl, ⟨hpends, hold, hprogress.trans h.progress, hsees⟩, by simp [hpublished]⟩
  | granted grant hwaits hpends hprogress hpublished =>
      exact .inl ⟨{ x with grant := some grant }, rfl, ⟨hpends, hold, hprogress, hsees⟩,
        by simp [Exchange.published, hwaits, hpublished]⟩
  | disturbed hcodeless => exact (he hcodeless).elim
  | taken hpends hseen =>
      -- What a wait has seen is an end, and the progress of a pending exchange is none.
      have hend := h.seesEnds _ hseen
      rw [h.progress, Exchange.isTerminal_stage] at hend
      cases hend

end

/-- **A calm login stays calm** as long as its exchange is in flight and no redirect without a code
comes in: what is published are the steps of the exchange, and no wait that starts meanwhile
returns. -/
theorem calm_run (events : List Event) : ∀ {s : State} {x : Exchange}, s.Calm x →
    .stop ∉ events → (∀ e ∈ events, ¬e.IsCodeless) →
    x.ticket ∈ (s.run events).1.listener.tickets →
    ∃ y, y.ticket = x.ticket ∧ (s.run events).1.Calm y ∧
      x.published ++ published (s.run events).2 = y.published ∧
      (s.observed = none →
        (s.run events).1.observed = none ∧ ∀ p, .returned p ∉ (s.run events).2) := by
  induction events with
  | nil =>
      intro s x h _ _ _
      exact ⟨x, rfl, h, by simp [run, published], fun hnone => ⟨hnone, by simp [run]⟩⟩
  | cons e events ih =>
      intro s x h hstop hcodes hpending
      obtain ⟨hne, hlater⟩ := List.ne_and_not_mem_of_not_mem_cons hstop
      obtain ⟨he, hcodes⟩ := List.forall_mem_cons.mp hcodes
      rcases h.step hne.symm he with ⟨y, hticket, hcalm, hpublished⟩ | hnone
      · obtain ⟨z, hticket', hcalm', hpublished', hwait⟩ :=
          ih hcalm hlater hcodes (hticket ▸ hpending)
        refine ⟨z, hticket'.trans hticket, hcalm', ?_, ?_⟩
        · rw [run_cons, published_append, ← List.append_assoc, hpublished, hpublished']
        · intro hobserved
          have hblind : s.listener.outcome? = none := by
            simp [Listener.outcome?, h.progress, Exchange.isTerminal_stage]
          obtain ⟨hstill, hsilent⟩ := s.blind_step e hobserved hblind
          obtain ⟨hend, hquiet⟩ := hwait hstill
          refine ⟨hend, fun p hmem => ?_⟩
          rcases List.mem_append.mp hmem with hfirst | hrest
          · exact hsilent p hfirst
          · exact hquiet p hrest
      · exact (gone_run events hnone h.old hpending).elim

/-- **A pending exchange stays pending** as long as it is in flight, and a redirect without a code
that comes in meanwhile publishes a failure. -/
theorem pends_run (events : List Event) : ∀ {s : State} {x : Exchange}, s.Pends x →
    x.ticket < s.listener.accepted → .stop ∉ events →
    x.ticket ∈ (s.run events).1.listener.tickets →
    ∃ y, y.ticket = x.ticket ∧ (s.run events).1.Pends y ∧
      ((∃ e ∈ events, e.IsCodeless) →
        ∃ reason, .failed reason ∈ published (s.run events).2) := by
  induction events with
  | nil => exact fun {_ x} h _ _ _ => ⟨x, rfl, h, by simp⟩
  | cons e events ih =>
      intro s x h hold hstop hpending
      obtain ⟨hne, hlater⟩ := List.ne_and_not_mem_of_not_mem_cons hstop
      have hold' : x.ticket < (s.step e).1.listener.accepted :=
        Nat.lt_of_lt_of_le hold (s.sent_step e).1
      have hstill : ∃ y, y.ticket = x.ticket ∧ (s.step e).1.Pends y := by
        cases h.step hne.symm with
        | granted grant hwaits hpends => exact ⟨{ x with grant := some grant }, rfl, hpends⟩
        | quiet hpends | disturbed _ hpends | taken hpends => exact ⟨x, rfl, hpends⟩
        | ended hnone => exact (gone_run events hnone hold hpending).elim
      obtain ⟨y, hticket, hpends⟩ := hstill
      obtain ⟨z, hticket', hpends', hfailed⟩ :=
        ih hpends (hticket ▸ hold') hlater (hticket ▸ hpending)
      refine ⟨z, hticket'.trans hticket, hpends', ?_⟩
      rintro ⟨d, hmem, hd⟩
      rw [run_cons, published_append]
      rcases List.mem_cons.mp hmem with rfl | hrest
      · obtain ⟨-, reason, hreason⟩ := h.step_codeless hd
        exact ⟨reason, by simp [hreason]⟩
      · obtain ⟨reason, hreason⟩ := hfailed ⟨d, hrest, hd⟩
        exact ⟨reason, List.mem_append_right _ hreason⟩

/-- **The end of an exchange**: it publishes one outcome, which is success if its tokens are stored
then and a failure if the store keeps what it held; and a wait that has seen nothing so far returns
this outcome. -/
structure Ends (s : State) (x : Exchange) (e : Event) (p : Progress) : Prop where
  told : (s.step e).2 = [.published p]
  verdict : (p = .success ∧ ∃ grant, x.grant = some grant ∧
      (s.step e).1.store.contents = s.store.contents.setBearer grant.bearer) ∨
    ∃ fault : Fault, p = .failed fault.message ∧
      (s.step e).1.store.contents = s.store.contents
  waited : s.observed = none →
    ((s.step e).1.run [.observe, .consume]).2 = [.published .listening, .returned p]

theorem ends_of_gone {s : State} {x : Exchange} (h : s.Pends x) {e : Event}
    (hgone : (s.step e).1.listener.exchange? x.ticket = none) : ∃ p, s.Ends x e p := by
  obtain ⟨session, hopen, -⟩ := h.2
  have hrunning : s.listener.isRunning = true := by simp [Listener.isRunning, hopen]
  have hfound : s.listener.exchange? x.ticket = some x := by simp [Listener.exchange?, h.1]
  have hmoves := s.moves_step e
  generalize hs' : (s.step e).1 = s', hsignals : (s.step e).2 = signals at hmoves hgone
  cases hmoves with
  | denied y ticket fault hy =>
      refine ⟨.failed fault.message, hsignals, .inr ⟨fault, rfl, by rw [hs']⟩, fun hnone => ?_⟩
      rw [hs']
      exact waited_of_progress hnone hrunning rfl rfl
  | ended y ticket grant hy hgrant =>
      obtain ⟨rfl, rfl⟩ := h.eq_of_exchange? hy
      refine ⟨.ofWrite (s.store.setBearer grant.bearer).1, hsignals, ?_, fun hnone => ?_⟩
      · rw [hs']
        rcases s.store.apply_cases (.setBearer grant.bearer) with
          ⟨hok, hcontents, -⟩ | ⟨cause, herror, hspared⟩
        · rw [show (s.store.setBearer grant.bearer).1 = _ from hok]
          exact .inl ⟨rfl, grant, hgrant, hcontents⟩
        · rw [show (s.store.setBearer grant.bearer).1 = _ from herror]
          exact .inr ⟨_, rfl, hspared.contents⟩
      · rw [hs']
        refine waited_of_progress hnone hrunning rfl ?_
        cases (s.store.setBearer grant.bearer).1 <;> rfl
  | accepted r code session' hopen' hcode hfree =>
      cases hfree.symm.trans (h.isBusy hopen')
  | granted y ticket grant hy =>
      obtain ⟨rfl, rfl⟩ := h.eq_of_exchange? hy
      simp [Listener.exchange?, Listener.grantTo, h.1] at hgone
  | _ => cases hgone.symm.trans hfound

/-- A code that is accepted while no exchange is left over starts a calm login. -/
theorem calm_of_sent {s : State} (horder : s.listener.Orderly) (hlast : s.NoneLeftOver)
    (hsees : s.SeesEnds) {r : Redirect} {ticket : Nat} {code : String}
    (hsent : .sent ticket code ∈ (s.step (.redirect r)).2) :
    (∃ x, x.ticket = ticket ∧ (s.step (.redirect r)).1.Calm x ∧ x.published = [.codeReceived]) ∧
      (s.step (.redirect r)).1.observed = s.observed ∧
      (s.step (.redirect r)).2 =
        [.published .codeReceived, .sent ticket code, .page Listener.acceptedPage] := by
  have hseesEnds := s.seesEnds_step (.redirect r) hsees
  have hmoves := s.moves_step (.redirect r)
  generalize (s.step (.redirect r)).1 = s', (s.step (.redirect r)).2 = signals at *
  cases hmoves with
  | accepted _ code' session hopen hcode hfree =>
      obtain ⟨rfl, rfl⟩ : ticket = s.listener.accepted ∧ code = code' := by simpa using hsent
      have hnone : s.listener.exchanges = [] := by
        by_contra hsome
        exact nomatch hfree.symm.trans (hlast.isBusy horder hopen hsome)
      refine ⟨⟨⟨s.listener.accepted, session.number, code, none⟩, rfl, ⟨⟨?_, session, hopen, rfl⟩,
        Nat.lt_succ_self _, rfl, hseesEnds⟩, rfl⟩, rfl, rfl⟩
      simp [Listener.accept, hnone]
  | ignored | failed | busy => simp at hsent

/-- **A pending exchange is undisturbed exactly if no redirect without a code comes in.**  The
listener is started and never stopped; a code is accepted, and after more events its exchange is
still in flight.  Then what was published since is that the code was received and, with the grant,
that the tokens were exchanged, the progress says so too, and no wait that has seen no outcome
before returns one, if and only if none of the events is a redirect without a code.  Either way the
event that ends the exchange publishes its outcome, and a wait that starts before returns it. -/
theorem pending_exchange_undisturbed_iff (client : TokenClient) (store : Store)
    (before during : List Event) (r : Redirect) (x : Exchange)
    (hbefore : .stop ∉ before) (hduring : .stop ∉ during) :
    let s := ((new client store).run before).1
    let since := s.run (.redirect r :: during)
    .sent x.ticket x.code ∈ (s.step (.redirect r)).2 →
    since.1.listener.exchange? x.ticket = some x →
    (published since.2 = x.published ∧ since.1.listener.progress = x.stage ∧
        (s.observed = none → since.1.observed = none ∧ ∀ p, .returned p ∉ since.2) ↔
      ∀ e ∈ during, ¬e.IsCodeless) ∧
    ∀ e, (since.1.step e).1.listener.exchange? x.ticket = none → ∃ p, since.1.Ends x e p := by
  intro s since hsent hpending
  have horder : s.listener.Orderly := orderly_run client store before
  have hlast : s.NoneLeftOver :=
    noneLeftOver_of_startsClear client store (startsClear_of_clear before _ (fun _ => rfl) hbefore)
  have hsees : s.SeesEnds :=
    run_keeps (P := SeesEnds) seesEnds_step before _ (by simp [SeesEnds, new])
  obtain ⟨⟨y, hticket, hcalm, hfresh⟩, hobserved, htold⟩ := calm_of_sent horder hlast hsees hsent
  have hmem : y.ticket ∈ since.1.listener.tickets := by
    rw [hticket]
    exact List.mem_map_of_mem (List.mem_of_find?_eq_some hpending)
  obtain ⟨z, -, hpends, hfailed⟩ := pends_run during hcalm.pends hcalm.old hduring hmem
  obtain ⟨rfl, -⟩ := hpends.eq_of_exchange? hpending
  have hpublished : published since.2 =
      .codeReceived :: published ((s.step (.redirect r)).1.run during).2 := by
    show published ((s.step (.redirect r)).2 ++ ((s.step (.redirect r)).1.run during).2) = _
    rw [published_append, htold]
    rfl
  refine ⟨⟨?_, ?_⟩, fun e hgone => ends_of_gone hpends hgone⟩
  · -- A failure is none of the steps of an exchange in flight.
    rintro ⟨hown, -⟩ e he hcodeless
    obtain ⟨reason, hreason⟩ := hfailed ⟨e, he, hcodeless⟩
    rw [hpublished, Exchange.published, List.cons.injEq] at hown
    rw [hown.2] at hreason
    split at hreason <;> simp at hreason
  · intro hcodes
    obtain ⟨z, -, hcalm', hown, hwaits⟩ := calm_run during hcalm hduring hcodes hmem
    obtain ⟨rfl, -⟩ := hcalm'.pends.eq_of_exchange? hpending
    refine ⟨by rw [hpublished, ← hown, hfresh]; rfl, hcalm'.progress, fun hnone => ?_⟩
    obtain ⟨hstill, hquiet⟩ := hwaits (hobserved.trans hnone)
    refine ⟨hstill, fun p hreturned => ?_⟩
    have hparts : .returned p ∈
      (s.step (.redirect r)).2 ++ ((s.step (.redirect r)).1.run during).2 := hreturned
    rw [htold] at hparts
    exact hquiet p (by simpa using hparts)

/-- While the first code is exchanged, another code is turned away; the grant comes, and a wait
looks. -/
theorem pending_exchange_undisturbed_sample :
    let during : List Event := [.redirect (bringing "TWO"), .answer 0 (.ok granting), .observe]
    let since := (sample.run [starts]).1.run (.redirect (bringing "ONE") :: during)
    since.1.listener.exchange? 0 = some ⟨0, 0, "ONE", some granting⟩ ∧
      published since.2 = [.codeReceived, .tokenExchanged] ∧ since.1.observed = none ∧
      ∃ p, since.1.Ends ⟨0, 0, "ONE", some granting⟩ (.store 0) p := by
  intro during since
  have hpending : since.1.listener.exchange? 0 = some ⟨0, 0, "ONE", some granting⟩ := by decide
  obtain ⟨hiff, hends⟩ := pending_exchange_undisturbed_iff _ _ [starts] during (bringing "ONE")
    ⟨0, 0, "ONE", some granting⟩ (by simp [starts]) (by simp [during]) (by decide) hpending
  obtain ⟨hpublished, -, hwaits⟩ := hiff.mpr (by decide)
  exact ⟨hpending, hpublished, (hwaits rfl).1, hends (.store 0) (by decide)⟩

/-- **A redirect disturbs a pending exchange.**  While a code is exchanged a redirect brings an
error; the wait that starts then returns the failure, and the tokens are stored afterwards. -/
theorem redirect_disturbs_exchange :
    let failure : Progress := .failed "access_denied: no description"
    let pending := sample.run [starts, .redirect (bringing "ONE")]
    let after := pending.1.run
      [.redirect ⟨none, some "access_denied", none⟩, .observe, .consume,
        .answer 0 (.ok granting), .store 0]
    pending.1.observed = none ∧ pending.1.listener.progress = .codeReceived ∧
      after.2 = [.published failure, .page (Listener.refusedPage "access_denied" "no description"),
        .published .listening, .returned failure, .published .tokenExchanged,
        .published .success] ∧
      after.1.store.contents.bearer? = some granting.bearer := by
  decide

end Login.State

end SignOn
