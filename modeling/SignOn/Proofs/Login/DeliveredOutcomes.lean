import SignOn.Proofs.Login.PendingExchange
/-!
# Each outcome is delivered once

Waits are made one after another, and each of them returns what it saw when it looked.  The journal
of a login numbers the publications, and notes with every outcome that a wait returns the number of
the publication that it is (`Journal.note`).  Between the look and the return anything may be
published, so an outcome that is taken away need not be the one that was seen; but an outcome that
is left is published later than the one that was seen, and this is the invariant that
`delivers_step` carries from step to step: what the next wait can see has a number above the last
one delivered.

After the outcome of a wait was published, and with no exchange in flight and no redirect since, the
listener should listen.  It does, unless that outcome is the failure of a redirect without a code
that came in while an exchange was pending: the exchange then publishes its own outcome behind it,
and the next wait returns this without any redirect (`outcome_behind_failure`).
-/

namespace SignOn.Login

/-- What a signal returns. -/
def Signal.returned? : Signal → Option Progress
  | .returned p => some p
  | _ => none

/-- What waits return, in their order. -/
def returned (signals : List Signal) : List Progress :=
  signals.filterMap Signal.returned?

theorem returned_append (first later : List Signal) :
    returned (first ++ later) = returned first ++ returned later :=
  List.filterMap_append

/-- What is published, what waits return, each with the number of its publication, and the number
of the publication that the present wait has seen.  The first publication has the number one. -/
structure Journal where
  told : List Progress
  seen : Nat
  delivered : List (Nat × Progress)

namespace Journal

/-- Nothing has been published. -/
def empty : Journal := ⟨[], 0, []⟩

/-- The number of the publication that was delivered last, or of the first one. -/
def last (j : Journal) : Nat :=
  (j.delivered.getLast?.map Prod.fst).getD 1

/-- Go on with the signals of a step.  A wait that looks sees the latest publication. -/
def note (j : Journal) (looks : Bool) (signals : List Signal) : Journal :=
  let seen := if looks then j.told.length else j.seen
  ⟨j.told ++ published signals, seen, j.delivered ++ (returned signals).map fun p => (seen, p)⟩

/-- Deliveries are publications, one later than the other. -/
structure Sound (j : Journal) : Prop where
  within : j.last ≤ j.told.length
  ordered : (j.delivered.map Prod.fst).Pairwise (· < ·)
  bounded : ∀ d ∈ j.delivered, d.1 ≤ j.last
  outcomes : ∀ d ∈ j.delivered,
    d.2.isTerminal = true ∧ 1 < d.1 ∧ j.told[d.1 - 1]? = some d.2
  sublist : (j.delivered.map Prod.snd).Sublist ((j.told.take j.last).filter Progress.isTerminal)

section

variable {j : Journal}

/-- The last delivery is one of the deliveries, if there is any. -/
theorem last_cases (j : Journal) : j.last = 1 ∨ ∃ d ∈ j.delivered, j.last = d.1 := by
  unfold last
  cases hlast : j.delivered.getLast? with
  | none => exact .inl rfl
  | some d => exact .inr ⟨d, List.mem_of_getLast? hlast, rfl⟩

theorem Sound.one_le_last (h : j.Sound) : 1 ≤ j.last := by
  rcases j.last_cases with hone | ⟨d, hd, hlast⟩
  · omega
  · have := (h.outcomes d hd).2.1
    omega

/-- Unless it is the first publication, the last delivery is an outcome. -/
theorem Sound.isTerminal_last (h : j.Sound) {p : Progress} (hlater : j.last ≠ 1)
    (hlast : j.told[j.last - 1]? = some p) : p.isTerminal = true := by
  rcases j.last_cases with hone | ⟨d, hd, hnumber⟩
  · exact (hlater hone).elim
  · obtain ⟨hend, -, hnth⟩ := h.outcomes d hd
    rw [← hnumber, hlast] at hnth
    rw [Option.some.inj hnth]
    exact hend

theorem Sound.looked (h : j.Sound) (n : Nat) : Sound { j with seen := n } :=
  ⟨h.within, h.ordered, h.bounded, h.outcomes, h.sublist⟩

/-- Another publication changes nothing about those before it. -/
theorem Sound.tell (h : j.Sound) (p : Progress) : Sound { j with told := j.told ++ [p] } where
  within := by
    rw [List.length_append]
    exact Nat.le_add_right_of_le h.within
  ordered := h.ordered
  bounded := h.bounded
  outcomes d hd := by
    obtain ⟨hend, hlater, htold⟩ := h.outcomes d hd
    have hlt := (List.getElem?_eq_some_iff.mp htold).1
    exact ⟨hend, hlater, (List.getElem?_append_left hlt).trans htold⟩
  sublist := by
    show (j.delivered.map Prod.snd).Sublist
      (((j.told ++ [p]).take j.last).filter Progress.isTerminal)
    rw [List.take_append_of_le_length h.within]
    exact h.sublist

/-- What is delivered now is the last delivery. -/
theorem last_deliver (p : Progress) :
    last { j with delivered := j.delivered ++ [(j.seen, p)] } = j.seen := by
  simp [last]

/-- **One more delivery** of an outcome that was published later than the last one. -/
theorem Sound.deliver (h : j.Sound) {p : Progress} (hlast : j.last < j.seen)
    (htold : j.told[j.seen - 1]? = some p) (hend : p.isTerminal = true) :
    Sound { j with delivered := j.delivered ++ [(j.seen, p)] } := by
  have hfirst := h.one_le_last
  obtain ⟨hlt, hget⟩ := List.getElem?_eq_some_iff.mp htold
  refine ⟨?_, ?_, ?_, ?_, ?_⟩
  · rw [last_deliver]
    show j.seen ≤ j.told.length
    omega
  · rw [List.map_append, List.pairwise_append]
    refine ⟨h.ordered, by simp, fun n hn m hm => ?_⟩
    obtain ⟨d, hd, rfl⟩ := List.mem_map.mp hn
    obtain rfl : m = j.seen := by simpa using hm
    exact Nat.lt_of_le_of_lt (h.bounded d hd) hlast
  · rw [last_deliver]
    intro d hd
    rcases List.mem_append.mp hd with hold | hnew
    · exact Nat.le_trans (h.bounded d hold) (Nat.le_of_lt hlast)
    · obtain rfl := List.mem_singleton.mp hnew
      exact Nat.le_refl _
  · intro d hd
    rcases List.mem_append.mp hd with hold | hnew
    · exact h.outcomes d hold
    · rw [List.mem_singleton.mp hnew]
      exact ⟨hend, by show 1 < j.seen; omega, htold⟩
  · -- The publications up to the one delivered now are those up to the last delivery and more.
    rw [last_deliver, List.map_append]
    have hcut : j.told.take j.seen = j.told.take (j.seen - 1) ++ [p] := by
      have hsucc : j.seen = j.seen - 1 + 1 := by omega
      rw [hsucc, List.take_succ_eq_append_getElem hlt, hget]
      simp
    have hbefore : (j.told.take j.last).Sublist (j.told.take (j.seen - 1)) :=
      (List.take_prefix_take_left (by omega)).sublist
    rw [hcut, List.filter_append]
    refine (h.sublist.trans (hbefore.filter _)).append ?_
    simp [hend]

end

end Journal

namespace State

/-- A wait looks for an outcome. -/
def looks (s : State) : Event → Bool
  | .observe => s.observed.isNone
  | _ => false

/-- The journal of a run. -/
def journal (s : State) (j : Journal) : List Event → Journal
  | [] => j
  | e :: events => (s.step e).1.journal (j.note (s.looks e) (s.step e).2) events

theorem told_journal (events : List Event) : ∀ (s : State) (j : Journal),
    (s.journal j events).told = j.told ++ published (s.run events).2 := by
  induction events with
  | nil => exact fun s j => (List.append_nil _).symm
  | cons e events ih =>
      intro s j
      rw [journal, ih, run_cons, published_append, ← List.append_assoc]
      rfl

theorem delivered_journal (events : List Event) : ∀ (s : State) (j : Journal),
    (s.journal j events).delivered.map Prod.snd =
      j.delivered.map Prod.snd ++ returned (s.run events).2 := by
  induction events with
  | nil => exact fun s j => (List.append_nil _).symm
  | cons e events ih =>
      intro s j
      rw [journal, ih, run_cons, returned_append, ← List.append_assoc]
      simp [Journal.note, Function.comp_def]

/-- **What the journal of a running listener keeps.**  The progress is the latest publication.  If
it is an outcome that no wait has seen, or if a wait has seen an outcome, then this was published
later than the last one delivered. -/
structure Delivers (s : State) (j : Journal) : Prop where
  running : s.listener.isRunning = true
  sound : j.Sound
  progress : j.told[j.told.length - 1]? = some s.listener.progress
  fresh : s.observed = none → s.listener.progress.isTerminal = true → j.last < j.told.length
  seen : ∀ p, s.observed = some p →
    p.isTerminal = true ∧ j.last < j.seen ∧ j.told[j.seen - 1]? = some p

section

variable {s : State} {j : Journal}

/-- A step that returns nothing and at which no wait looks adds what it publishes. -/
theorem note_of_silent {signals : List Signal} (h : returned signals = []) :
    j.note false signals = { j with told := j.told ++ published signals } := by
  simp [Journal.note, h]

/-- A publication is later than all that was delivered or seen. -/
theorem Delivers.tell (h : s.Delivers j) {s' : State} (hrunning : s'.listener.isRunning = true)
    (hobserved : s'.observed = s.observed) :
    s'.Delivers { j with told := j.told ++ [s'.listener.progress] } where
  running := hrunning
  sound := h.sound.tell _
  progress := by simp
  fresh _ _ := by
    show j.last < (j.told ++ [s'.listener.progress]).length
    rw [List.length_append]
    exact Nat.lt_add_one_of_le h.sound.within
  seen p hp := by
    obtain ⟨hend, hlater, htold⟩ := h.seen p (hobserved ▸ hp)
    have hlt := (List.getElem?_eq_some_iff.mp htold).1
    exact ⟨hend, hlater, (List.getElem?_append_left hlt).trans htold⟩

/-- What a wait has seen was published before now. -/
theorem Delivers.seen_le (h : s.Delivers j) {p : Progress} (hp : s.observed = some p) :
    j.seen ≤ j.told.length := by
  obtain ⟨-, hlater, htold⟩ := h.seen p hp
  have := (List.getElem?_eq_some_iff.mp htold).1
  omega

/-- A wait that looks at an outcome sees it, and one that has not been delivered is fresh. -/
theorem Delivers.look (h : s.Delivers j) (hnone : s.observed = none) :
    Delivers { s with observed := s.listener.outcome? } { j with seen := j.told.length } where
  running := h.running
  sound := h.sound.looked _
  progress := h.progress
  fresh hblind hend := by
    have hsome : s.listener.outcome? = some s.listener.progress :=
      Listener.outcome?_eq_some_iff.mpr ⟨rfl, hend⟩
    rw [show s.listener.outcome? = none from hblind] at hsome
    cases hsome
  seen p hp := by
    obtain ⟨rfl, hend⟩ := Listener.outcome?_eq_some_iff.mp hp
    exact ⟨hend, h.fresh hnone hend, h.progress⟩

/-- An outcome that is taken away was published later than the last one delivered. -/
theorem Delivers.take (h : s.Delivers j) {outcome : Progress} (hseen : s.observed = some outcome) :
    Delivers { s with
        listener := { s.listener with progress := .listening }, observed := none }
      { j with
        told := j.told ++ [.listening], delivered := j.delivered ++ [(j.seen, outcome)] } where
  running := h.running
  sound := by
    obtain ⟨hend, hlater, htold⟩ := h.seen outcome hseen
    exact (h.sound.deliver hlater htold hend).tell .listening
  progress := by simp
  fresh _ hend := by cases hend
  seen p hp := by cases hp

/-- An outcome is left where it is only if something else was published since the look. -/
theorem Delivers.leave (h : s.Delivers j) {outcome : Progress} (hseen : s.observed = some outcome)
    (hother : ¬(s.listener.isRunning = true ∧ s.listener.progress = outcome)) :
    Delivers { s with observed := none }
      { j with delivered := j.delivered ++ [(j.seen, outcome)] } := by
  obtain ⟨hend, hlater, htold⟩ := h.seen outcome hseen
  refine ⟨h.running, h.sound.deliver hlater htold hend, h.progress, fun _ _ => ?_,
    fun p hp => by cases hp⟩
  have hne : j.seen ≠ j.told.length := by
    intro hlatest
    rw [hlatest, h.progress] at htold
    exact hother ⟨h.running, Option.some.inj htold⟩
  have hle := h.seen_le hseen
  show Journal.last _ < j.told.length
  rw [Journal.last_deliver]
  omega

/-- **One step of a running listener** keeps deliveries in the order of publications. -/
theorem delivers_step (h : s.Delivers j) {e : Event} (hne : e ≠ .stop) :
    (s.step e).1.Delivers (j.note (s.looks e) (s.step e).2) := by
  have hmoves := s.moves_step e
  generalize (s.step e).1 = s', (s.step e).2 = signals at hmoves
  cases hmoves with
  | ignored _ hignored =>
      have hlooks : s.looks e = false := by
        cases e with
        | observe => simpa [looks, Ignores, Option.isSome_iff_ne_none] using hignored
        | _ => rfl
      rw [hlooks, note_of_silent rfl]
      simpa [published] using h
  | opened port path address session hclosed =>
      have hrunning := h.running
      simp [Listener.isRunning, hclosed] at hrunning
  | stopped => exact (hne rfl).elim
  | busy r code session =>
      rw [show s.looks (.redirect r) = false from rfl, note_of_silent rfl,
        show published [.page Listener.busyPage] = [] from rfl, List.append_nil]
      exact h
  | failed | accepted | granted | denied | ended =>
      rw [show s.looks _ = false from rfl, note_of_silent rfl]
      exact h.tell h.running rfl
  | looked hnone =>
      have hnote : j.note (s.looks .observe) [] = { j with seen := j.told.length } := by
        simp [Journal.note, looks, hnone, published, returned]
      rw [hnote]
      exact h.look hnone
  | taken outcome hseen hopen hsame => exact h.take hseen
  | left outcome hseen hother =>
      have hnote : j.note (s.looks .consume) [.returned outcome] =
          { j with delivered := j.delivered ++ [(j.seen, outcome)] } := by
        simp [Journal.note, looks, published, Signal.published?, returned, Signal.returned?]
      rw [hnote]
      exact h.leave hseen hother

end

/-- **A run of a running listener** that is not stopped keeps deliveries in the order of
publications. -/
theorem delivers_run (events : List Event) : ∀ {s : State} {j : Journal}, s.Delivers j →
    .stop ∉ events → (s.run events).1.Delivers (s.journal j events) := by
  induction events with
  | nil => exact fun h _ => h
  | cons e events ih =>
      intro s j h hstop
      obtain ⟨hne, hlater⟩ := List.ne_and_not_mem_of_not_mem_cons hstop
      exact ih (delivers_step h hne.symm) hlater

/-- Nothing is under way: no exchange is in flight, and the login has ended or not begun. -/
structure Settled (s : State) : Prop where
  running : s.listener.isRunning = true
  sees : s.SeesEnds
  exchanges : s.listener.exchanges = []
  progress : s.listener.progress.isTerminal = true ∨ s.listener.progress = .listening

/-- What is published from one progress to another while no redirect comes in: nothing, or that an
outcome is taken away. -/
inductive Rests (p q : Progress) : List Progress → Prop
  | still (hsame : q = p) : Rests p q []
  | taken (hend : p.isTerminal = true) (hlistens : q = .listening) : Rests p q [.listening]

/-- An outcome is taken away once. -/
theorem Rests.trans {p q r : Progress} {first later : List Progress} (hfirst : Rests p q first)
    (hlater : Rests q r later) : Rests p r (first ++ later) := by
  cases hfirst with
  | still hsame => exact hsame ▸ hlater
  | taken hend hlistens =>
      cases hlater with
      | still hsame => exact .taken hend (hsame.trans hlistens)
      | taken hend' =>
          rw [hlistens] at hend'
          cases hend'

section

variable {s : State}

/-- **A settled login stays settled** while no redirect comes in. -/
theorem settled_step (h : s.Settled) {e : Event} (hne : e ≠ .stop) (hr : ∀ r, e ≠ .redirect r) :
    (s.step e).1.Settled ∧
      Rests s.listener.progress (s.step e).1.listener.progress (published (s.step e).2) := by
  have hsees := s.seesEnds_step e h.sees
  have hgone {ticket : Nat} {x : Exchange} : s.listener.exchange? ticket ≠ some x := by
    simp [Listener.exchange?, h.exchanges]
  have hmoves := s.moves_step e
  generalize (s.step e).1 = s', (s.step e).2 = signals at hmoves hsees
  cases hmoves with
  | ignored | looked | left =>
      exact ⟨⟨h.running, hsees, h.exchanges, h.progress⟩, .still rfl⟩
  | opened port path address session hclosed =>
      have hrunning := h.running
      simp [Listener.isRunning, hclosed] at hrunning
  | stopped => exact (hne rfl).elim
  | failed r | busy r | accepted r => exact (hr r rfl).elim
  | granted x ticket grant hx | denied x ticket fault hx | ended x ticket grant hx =>
      exact (hgone hx).elim
  | taken outcome hseen hopen hsame =>
      have hend : s.listener.progress.isTerminal = true := hsame ▸ h.sees outcome hseen
      exact ⟨⟨h.running, hsees, h.exchanges, .inr rfl⟩, .taken hend rfl⟩

theorem settled_run (events : List Event) : ∀ {s : State}, s.Settled → .stop ∉ events →
    (∀ r, .redirect r ∉ events) → (s.run events).1.Settled ∧
      Rests s.listener.progress (s.run events).1.listener.progress
        (published (s.run events).2) := by
  induction events with
  | nil => exact fun h _ _ => ⟨h, .still rfl⟩
  | cons e events ih =>
      intro s h hstop hr
      obtain ⟨hne, hlater⟩ := List.ne_and_not_mem_of_not_mem_cons hstop
      have hnow : ∀ r, e ≠ .redirect r := fun r heq => hr r (heq ▸ List.mem_cons_self)
      obtain ⟨hsettled, hstep⟩ := settled_step h hne.symm hnow
      obtain ⟨hend, hrest⟩ := ih hsettled hlater fun r hmem => hr r (List.mem_cons_of_mem _ hmem)
      refine ⟨hend, ?_⟩
      rw [run_cons, published_append]
      exact hstep.trans hrest

/-- The outcome of a login settles it, but for the failure of a redirect without a code that comes
in while an exchange is in flight. -/
theorem settled_of_outcome (hrunning : s.listener.isRunning = true) (hsees : s.SeesEnds)
    (hone : s.listener.exchanges.length ≤ 1) {e : Event} (hne : e ≠ .stop)
    (hcodeless : e.IsCodeless → s.listener.exchanges = [])
    (hpublished : published (s.step e).2 ≠ [])
    (hend : (s.step e).1.listener.progress.isTerminal = true) : (s.step e).1.Settled := by
  -- The only exchange in flight is the one that ends.
  have hnone {ticket : Nat} {x : Exchange} (hx : s.listener.exchange? ticket = some x) :
      s.listener.exchanges.filter (fun y => y.ticket != ticket) = [] := by
    obtain ⟨hmem, hticket⟩ := Listener.mem_of_exchange? hx
    match hexchanges : s.listener.exchanges, hone, hmem with
    | [y], _, hmem =>
        obtain rfl : x = y := by simpa using hmem
        simp [hticket]
  have hsees' := s.seesEnds_step e hsees
  have hmoves := s.moves_step e
  generalize (s.step e).1 = s', (s.step e).2 = signals at hmoves hsees' hpublished hend
  cases hmoves with
  | ignored | looked | left | busy => exact (hpublished rfl).elim
  | opened | accepted | granted | taken => cases hend
  | stopped => exact (hne rfl).elim
  | failed r reason page session hopen hreason =>
      exact ⟨hrunning, hsees', hcodeless (by simp [Event.IsCodeless, hreason]), .inl hend⟩
  | denied x ticket fault hx | ended x ticket grant hx =>
      exact ⟨hrunning, hsees', hnone hx, .inl hend⟩

/-- **Once the latest outcome is delivered the listener listens**, and a wait has nothing to see. -/
theorem listens_of_delivered {mid : State} {after : List Event} {j : Journal}
    (hmid : mid.Settled) (hstop : .stop ∉ after) (hr : ∀ r, .redirect r ∉ after)
    (h : (mid.run after).1.Delivers j)
    (htold : j.told.length = j.last + (published (mid.run after).2).length) :
    (mid.run after).1.listener.progress = .listening ∧ (mid.run after).1.observed = none := by
  obtain ⟨hsettled, hrests⟩ := settled_run after hmid hstop hr
  generalize (mid.run after).1 = final, published (mid.run after).2 = later at *
  cases hrests with
  | still =>
      -- Nothing was published since, so nothing is left to see.
      rw [List.length_nil] at htold
      have hblind : final.observed = none := by
        refine Option.eq_none_iff_forall_ne_some.mpr fun p hp => ?_
        have hlater := (h.seen p hp).2.1
        have hle := h.seen_le hp
        omega
      have hnot : final.listener.progress.isTerminal ≠ true := by
        intro hend
        have hlater := h.fresh hblind hend
        omega
      exact ⟨hsettled.progress.resolve_left hnot, hblind⟩
  | taken _ hlistens =>
      -- What was published since is that the listener listens, and no wait sees this.
      refine ⟨hlistens, Option.eq_none_iff_forall_ne_some.mpr fun p hp => ?_⟩
      obtain ⟨hend, hlater, hpth⟩ := h.seen p hp
      have hle := h.seen_le hp
      rw [List.length_singleton] at htold
      have hseen : j.seen = j.told.length := by omega
      rw [hseen, h.progress, hlistens] at hpth
      obtain rfl := Option.some.inj hpth
      cases hend

end

/-- A start that gets its port opens the journal: its publication is the first. -/
theorem delivers_start {s : State} (hclosed : s.listener.session = none)
    (hnone : s.listener.exchanges = []) (hblind : s.observed = none) (port : Nat) (path : String)
    (address : Endpoint) :
    let opening := s.step (.start port path (.ok address))
    opening.1.Settled ∧ opening.2 = [.published .listening] ∧
      opening.1.Delivers (Journal.empty.note false opening.2) := by
  have hmoves := s.moves_step (.start port path (.ok address))
  intro opening
  show opening.1.Settled ∧ opening.2 = _ ∧ _
  generalize opening.1 = s', opening.2 = signals at hmoves
  cases hmoves with
  | ignored _ hignored =>
      simp [Ignores, Listener.isRunning, hclosed] at hignored
  | opened _ _ _ session =>
      refine ⟨⟨rfl, by simp [SeesEnds, hblind], hnone, .inr rfl⟩, rfl,
        rfl, ⟨by decide, by decide, by decide, by decide, by decide⟩, rfl, ?_, ?_⟩
      · intro _ hend
        cases hend
      · intro p hp
        cases hblind.symm.trans hp

/-- A wait that starts while the listener listens goes on. -/
theorem waits_of_listening {s : State} (hlistens : s.listener.progress = .listening)
    (hblind : s.observed = none) : s.run [.observe, .consume] = (s, []) := by
  obtain ⟨listener, store, observed⟩ := s
  obtain rfl : observed = none := hblind
  have hnone : listener.outcome? = none := by
    simp [Listener.outcome?, show listener.progress = .listening from hlistens,
      Progress.isTerminal]
  simp [run, State.step, hnone]

/-- Without a stop no more than one exchange comes up. -/
theorem length_le_one_run {s : State} (horder : s.listener.Orderly)
    (hnone : s.listener.exchanges = []) {events : List Event} (hstop : .stop ∉ events) :
    (s.run events).1.listener.exchanges.length ≤ 1 := by
  have horder' : (s.run events).1.listener.Orderly :=
    run_keeps (P := fun s => s.listener.Orderly) orderly_step events s horder
  have hclear : s.StartsClear events := startsClear_of_clear events s (fun _ => hnone) hstop
  have hlast : s.NoneLeftOver := by simp [NoneLeftOver, Listener.sessions, hnone]
  exact (noneLeftOver_run events s horder hlast hclear).length_le_one horder'

/-- What a run publishes, around an event of it that publishes something. -/
theorem published_around (s : State) (before after : List Event) {e : Event}
    (he : published ((s.run before).1.step e).2 ≠ []) :
    published (s.run (before ++ e :: after)).2 = published (s.run before).2 ++
      ((s.run before).1.step e).1.listener.progress ::
        published (((s.run before).1.step e).1.run after).2 := by
  have hone := ((s.run before).1.published_step e).resolve_left fun hquiet => he hquiet.1
  rw [run_append, run_cons, published_append, published_append, hone]
  rfl

/-- **After the latest outcome was delivered the listener listens.**  An event has published the
outcome that was returned last, or is the start, and no redirect has come in since; and if it is a
redirect without a code, then it came in while no exchange was in flight. -/
theorem listens_after_last {s : State} {start : Event} {events before after : List Event}
    {e : Event} (horder : s.listener.Orderly) (hnone : s.listener.exchanges = [])
    (hsettled : (s.step start).1.Settled) (hopening : (s.step start).2 = [.published .listening])
    (hstart : (s.step start).1.Delivers (Journal.empty.note (s.looks start) (s.step start).2))
    (hstop : .stop ∉ start :: events) (hall : start :: events = before ++ e :: after)
    (hpublished : published ((s.run before).1.step e).2 ≠ [])
    (hnumber : (published (s.run before).2).length + 1 =
      (s.journal .empty (start :: events)).last)
    (hcodeless : e.IsCodeless → (s.run before).1.listener.exchanges = [])
    (hr : ∀ r, .redirect r ∉ after) :
    let final := (s.run (start :: events)).1
    final.listener.exchanges = [] ∧ final.listener.progress = .listening ∧
      final.observed = none := by
  intro final
  have hnever : .stop ∉ before ++ e :: after := hall ▸ hstop
  have hdelivers : final.Delivers (s.journal .empty (start :: events)) :=
    delivers_run events hstart fun hmem => hstop (List.mem_cons_of_mem _ hmem)
  have haround : (s.journal .empty (start :: events)).told = published (s.run before).2 ++
      ((s.run before).1.step e).1.listener.progress ::
        published (((s.run before).1.step e).1.run after).2 := by
    rw [told_journal, hall, published_around s before after hpublished]
    rfl
  have hfinal : final = (((s.run before).1.step e).1.run after).1 := by
    show (s.run (start :: events)).1 = _
    rw [hall, run_append, run_cons]
  generalize s.journal .empty (start :: events) = j at *
  have hmid : ((s.run before).1.step e).1.Settled := by
    cases before with
    | nil =>
        obtain ⟨rfl, -⟩ := List.cons.inj hall
        exact hsettled
    | cons d before =>
        obtain ⟨rfl, -⟩ := List.cons.inj hall
        have hbefore : .stop ∉ start :: before := fun hmem => hnever (List.mem_append_left _ hmem)
        have hrunning := (delivers_run before hstart
          fun hmem => hbefore (List.mem_cons_of_mem _ hmem)).running
        have hsees := run_keeps (P := SeesEnds) seesEnds_step before _ hsettled.sees
        refine settled_of_outcome hrunning hsees (length_le_one_run horder hnone hbefore)
          (fun heq => hnever (by simp [heq])) hcodeless hpublished ?_
        -- The start has published something, so the event publishes what a wait has returned.
        have hlater : j.last ≠ 1 := by
          rw [run_cons, published_append, hopening] at hnumber
          simp [published, Signal.published?] at hnumber
          omega
        refine hdelivers.sound.isTerminal_last hlater ?_
        rw [haround, ← hnumber]
        simp
        rfl
  have hafter : .stop ∉ after := fun hmem => hnever (by simp [hmem])
  have hlength : j.told.length =
      j.last + (published (((s.run before).1.step e).1.run after).2).length := by
    rw [haround, List.length_append, List.length_cons, ← hnumber]
    omega
  rw [hfinal] at hdelivers ⊢
  obtain ⟨hlistens, hblind⟩ := listens_of_delivered hmid hafter hr hdelivers hlength
  exact ⟨(settled_run after hmid hafter hr).1.exchanges, hlistens, hblind⟩

/-- **Each outcome is delivered once.**  A listener is started with no exchange left over and no
wait under way, and is not stopped.  Whatever happens then, in whatever order: the outcomes that
waits return are publications made after the start, each later than the one returned before, so
they are a part of the outcomes published in the same order and without repetition.

Let an event have published the outcome that was returned last, or be the start if no wait has
returned yet, and let no redirect have come in since.  Unless this event is a redirect without a
code that came in while an exchange was in flight, no exchange is in flight now, the listener
listens, and a wait that starts now neither sees nor returns anything. -/
theorem outcomes_delivered_once (client : TokenClient) (store : Store) (past events : List Event)
    (port : Nat) (path : String) (address : Endpoint) (hstop : .stop ∉ events) :
    let s := ((new client store).run past).1
    let all := .start port path (.ok address) :: events
    let final := (s.run all).1
    let told := (s.run all).2
    let journal := s.journal .empty all
    s.listener.session = none → s.listener.exchanges = [] → s.observed = none →
    (journal.told = published told ∧ journal.delivered.map Prod.snd = returned told) ∧
    (journal.delivered.map Prod.fst).Pairwise (· < ·) ∧
    (∀ d ∈ journal.delivered,
      d.2.isTerminal = true ∧ 1 < d.1 ∧ (published told)[d.1 - 1]? = some d.2) ∧
    (returned told).Sublist ((published told).filter Progress.isTerminal) ∧
    ∀ before e after, all = before ++ e :: after →
      published ((s.run before).1.step e).2 ≠ [] →
      (published (s.run before).2).length + 1 = journal.last →
      (e.IsCodeless → (s.run before).1.listener.exchanges = []) →
      (∀ r, .redirect r ∉ after) →
      final.listener.exchanges = [] ∧ final.listener.progress = .listening ∧
        final.run [.observe, .consume] = (final, []) := by
  intro s all final told journal hclosed hnone hblind
  obtain ⟨hsettled, hopening, hstart⟩ := delivers_start hclosed hnone hblind port path address
  have hdelivers : final.Delivers journal := delivers_run events hstart hstop
  have htold : journal.told = published told := told_journal all s .empty
  have hreturned : journal.delivered.map Prod.snd = returned told := delivered_journal all s .empty
  refine ⟨⟨htold, hreturned⟩, hdelivers.sound.ordered, ?_, ?_, ?_⟩
  · rw [← htold]
    exact hdelivers.sound.outcomes
  · rw [← hreturned, ← htold]
    exact hdelivers.sound.sublist.trans ((List.take_sublist _ _).filter _)
  · intro before e after hall hpublished hnumber hcodeless hr
    have hnever : .stop ∉ all :=
      List.not_mem_cons_of_ne_of_not_mem (by simp) hstop
    obtain ⟨hgone, hlistens, hstill⟩ := listens_after_last (orderly_run client store past) hnone
      hsettled hopening hstart hnever hall hpublished hnumber hcodeless hr
    exact ⟨hgone, hlistens, waits_of_listening hlistens hstill⟩

/-- A login that succeeds is delivered as the fourth publication, and then the listener listens. -/
theorem outcomes_delivered_once_success :
    let exchanged : List Event := [starts, .redirect (bringing "ONE"), .answer 0 (.ok granting)]
    let all := exchanged ++ .store 0 :: [.observe, .consume]
    returned (sample.run all).2 = [.success] ∧
      (sample.journal .empty all).delivered = [(4, .success)] ∧
      (sample.run all).1.run [.observe, .consume] = ((sample.run all).1, []) := by
  intro exchanged all
  obtain ⟨⟨-, hreturned⟩, -, -, -, hlistens⟩ := outcomes_delivered_once
    sample.listener.client sample.store []
    [.redirect (bringing "ONE"), .answer 0 (.ok granting), .store 0, .observe, .consume] 8080
    "/oauth2Callback" ⟨"127.0.0.1", 8080⟩ (by simp) rfl rfl rfl
  have hdelivered : (sample.journal .empty all).delivered = [(4, .success)] := by decide
  refine ⟨?_, hdelivered, ?_⟩
  · exact hreturned.symm.trans (congrArg (List.map Prod.snd) hdelivered)
  · exact (hlistens exchanged (.store 0) [.observe, .consume] rfl (by decide) (by decide)
      (by simp [Event.IsCodeless]) (by simp)).2.2

/-- **An outcome comes up behind a failure that was delivered.**  While a code is exchanged a
redirect brings an error, and a wait returns the failure.  Then the exchange goes on: with no
exchange in flight and no redirect since, the login has succeeded, and the next wait returns at
once. -/
theorem outcome_behind_failure :
    let before : List Event := [starts, .redirect (bringing "ONE")]
    let after : List Event := [.observe, .consume, .answer 0 (.ok granting), .store 0]
    let all := before ++ .redirect ⟨none, some "access_denied", none⟩ :: after
    let final := (sample.run all).1
    (sample.journal .empty all).delivered = [(3, .failed "access_denied: no description")] ∧
      published ((sample.run before).1.step (.redirect ⟨none, some "access_denied", none⟩)).2 =
        [.failed "access_denied: no description"] ∧
      (published (sample.run before).2).length + 1 = (sample.journal .empty all).last ∧
      (∀ r, .redirect r ∉ after) ∧ final.listener.exchanges = [] ∧
      final.listener.progress = .success ∧
      (final.run [.observe, .consume]).2 = [.published .listening, .returned .success] := by
  intro before after all final
  refine ⟨by decide, by decide, by decide, by simp [after], by decide, by decide, by decide⟩

end State

end SignOn.Login
