import SignOn.Proofs.Token.Judgement
/-!
# Which key a validator trusts after any run

A validator is called again and again while its clocks move, the provider changes its mind, and
the key is forgotten from time to time.  A `Stage` is the validator at a point in time, an `Event`
moves it on, and each call brings the network that it meets.  Whether an event fetched a key is
read off from what went over that network (`Stage.Fetches`), not from what the validator remembers.

The one thing that a validator remembers is the kept key.  One event replaces it by the key that it
fetched, forgets it, or leaves it alone (`step_cases`); so after a run the kept key is the one that
was fetched last, unless it was forgotten since (`kept_run`).  Together with the courses of a single
check this gives the main statement, `run_accepts_iff`: what each of the calls that accept a token
says about the token, its key, and when that key was fetched.
-/

namespace SignOn.Validator

/-- What happens to a validator.  Each call brings the network as it then is; between the calls the
steady clock moves on, and the calendar is set to anything. -/
inductive Event
  | pass (ticks : Nat) (unix : Int)
  | validate (jwt : String) (net : Network)
  | isValid (jwt : String) (net : Network)
  | authenticate (header : String) (net : Network)
  | forget

/-- A validator at a point in time. -/
structure Stage where
  validator : Validator
  now : Moment

namespace Stage

/-- The stage after an event. -/
def step (s : Stage) : Event → Stage
  | .pass ticks unix => { s with now := ⟨unix, s.now.ticks + ticks⟩ }
  | .validate jwt net => { s with validator := (s.validator.validate s.now jwt net).2.1 }
  | .isValid jwt net => { s with validator := (s.validator.isValid s.now jwt net).2.1 }
  | .authenticate header net =>
    { s with validator := (s.validator.authenticateHeader s.now header net).2.1 }
  | .forget => { s with validator := s.validator.forgetKey }

/-- The stage after events. -/
def run (s : Stage) (events : List Event) : Stage :=
  events.foldl step s

/-- The network before and after the call that an event is. -/
def traffic? (s : Stage) : Event → Option (Network × Network)
  | .validate jwt net => some (net, (s.validator.validate s.now jwt net).2.2)
  | .isValid jwt net => some (net, (s.validator.isValid s.now jwt net).2.2)
  | .authenticate header net =>
    some (net, (s.validator.authenticateHeader s.now header net).2.2)
  | _ => none

/-- In the course of an event the key of the issuer is fetched. -/
def Fetches (issuer : String) (s : Stage) (e : Event) (key : PublicKey) : Prop :=
  ∃ net after, s.traffic? e = some (net, after) ∧ PublicKey.Fetched issuer net key after

/-- An event neither forgets the key nor fetches one. -/
def Spares (issuer : String) (s : Stage) (e : Event) : Prop :=
  e ≠ .forget ∧ ∀ key, ¬s.Fetches issuer e key

/-- None of the events forgets the key or fetches one. -/
def AllSpare (issuer : String) (s : Stage) : List Event → Prop
  | [] => True
  | e :: events => s.Spares issuer e ∧ (s.step e).AllSpare issuer events

/-- The last key that was fetched in the course of events, with the time of that fetch; it has not
been forgotten since. -/
def LastFetch (issuer : String) (s : Stage) (events : List Event) (k : KeptKey) : Prop :=
  ∃ before e later, events = before ++ e :: later ∧
    (s.run before).Fetches issuer e k.key ∧ k.fetchedAt = (s.run before).now.ticks ∧
    ((s.run before).step e).AllSpare issuer later

/-- After events a token is believed in one more call: it is genuine under a key that was fetched in
the course of this very call, or before, less than the lifetime of a key ago, and then it is the
last one that was fetched and has not been forgotten. -/
def Believes (issuer : String) (lifetime : Nat) (s : Stage) (events : List Event) (call : Event)
    (jwt : String) (claims : Verified) : Prop :=
  ∃ key, Token.Genuine (s.run events).now.unix key jwt claims ∧
    ((s.run events).Fetches issuer call key ∨
      lifetime ≠ 0 ∧ ∃ fetchedAt, s.LastFetch issuer events ⟨key, fetchedAt⟩ ∧
        (s.run events).now.ticks < fetchedAt + lifetime)

end Stage

/-- What a check does to the validator shows on the network: it keeps the key that it fetched. -/
theorem validate_cases (v : Validator) (now : Moment) (jwt : String) (net : Network) :
    ((∀ key, ¬PublicKey.Fetched v.issuer net key (v.validate now jwt net).2.2) ∧
        (v.validate now jwt net).2.1 = v) ∨
      ∃ key, PublicKey.Fetched v.issuer net key (v.validate now jwt net).2.2 ∧
        (v.validate now jwt net).2.1 = v.keep now key := by
  have hcourse := course_validate v now jwt net
  generalize v.validate now jwt net = outcome at hcourse
  cases hcourse with
  | malformed hjwt => exact .inl ⟨fun key h => h.after_ne rfl, rfl⟩
  | kept hsettles hjudged => exact .inl ⟨fun key h => h.after_ne rfl, rfl⟩
  | starved hneeds hnone => exact .inl ⟨fun key => hnone key _, rfl⟩
  | fetched hneeds hfetched hjudged => exact .inr ⟨_, hfetched, rfl⟩

/-- A validator keeps everything but its key. -/
theorem keep_eq (v : Validator) (now : Moment) (key : PublicKey) :
    v.keep now key =
      { v with kept := if v.lifetime = 0 then v.kept else some ⟨key, now.ticks⟩ } := by
  unfold keep
  split <;> rfl

/-- A check leaves the settings of a validator alone. -/
theorem settings_validate (v : Validator) (now : Moment) (jwt : String) (net : Network) :
    ∃ kept, (v.validate now jwt net).2.1 = { v with kept } := by
  rcases v.validate_cases now jwt net with ⟨-, h⟩ | ⟨key, -, h⟩
  · exact ⟨v.kept, h⟩
  · exact ⟨_, h.trans (v.keep_eq now key)⟩

/-- A yes-or-no check does what the check does. -/
theorem isValid_eq (v : Validator) (now : Moment) (jwt : String) (net : Network) :
    ((v.isValid now jwt net).1 = true ↔ ∃ claims, (v.validate now jwt net).1 = .ok claims) ∧
      (v.isValid now jwt net).2 = (v.validate now jwt net).2 := by
  unfold isValid
  rcases v.validate now jwt net with ⟨result, v', net'⟩
  cases result <;> simp

/-- A header without a token leaves everything alone. -/
theorem authenticateHeader_none {header : String} (h : headerToken? header = none) (v : Validator)
    (now : Moment) (net : Network) : v.authenticateHeader now header net = (.ok none, v, net) := by
  simp [authenticateHeader, h]

/-- A header with a token names the user that the checked token names. -/
theorem authenticateHeader_some {header jwt : String} (h : headerToken? header = some jwt)
    (v : Validator) (now : Moment) (net : Network) (user : String) :
    ((v.authenticateHeader now header net).1 = .ok (some user) ↔
        ∃ claims, (v.validate now jwt net).1 = .ok claims ∧
          claims.text? v.usernameClaim = some user) ∧
      (v.authenticateHeader now header net).2 = (v.validate now jwt net).2 := by
  obtain ⟨kept, hsettings⟩ := v.settings_validate now jwt net
  rcases hvalidate : v.validate now jwt net with ⟨result, v', net'⟩
  rw [hvalidate] at hsettings
  have hclaim : v'.usernameClaim = v.usernameClaim := by rw [show v' = _ from hsettings]
  cases result with
  | error fault => simp [authenticateHeader, h, hvalidate]
  | ok claims =>
      cases huser : claims.text? v.usernameClaim <;>
        simp [authenticateHeader, h, hvalidate, hclaim, huser]

/-- The token of a header is the trimmed text after `Bearer `, if that has three segments. -/
theorem headerToken?_eq_some_iff (header jwt : String) :
    headerToken? header = some jwt ↔
      ∃ rest, header = "Bearer " ++ rest ∧ jwt = Text.trim rest ∧
        (Token.segments jwt).length = 3 := by
  simp only [headerToken?, bind, Option.bind_eq_some_iff, Text.dropPrefix?_eq_some_iff]
  constructor
  · intro hparts
    obtain ⟨rest, hheader, h⟩ := hparts
    split at h
    · next hlength =>
      cases h
      exact ⟨rest, hheader, rfl, hlength⟩
    · cases h
  · intro hparts
    obtain ⟨rest, hheader, rfl, hlength⟩ := hparts
    exact ⟨rest, hheader, if_pos hlength⟩

/-- A claim that is given as text is not empty. -/
theorem ne_empty_of_text? {claims : Verified} {name value : String}
    (h : claims.text? name = some value) : value ≠ "" := by
  have hfilter := (Option.filter_eq_some_iff.mp h).2
  intro heq
  subst heq
  simp at hfilter

namespace Stage

/-- What two events that meet the same traffic fetch is the same. -/
theorem fetches_congr {s : Stage} {d e : Event} (h : s.traffic? d = s.traffic? e)
    (issuer : String) (key : PublicKey) : s.Fetches issuer d key ↔ s.Fetches issuer e key := by
  unfold Fetches
  rw [h]

/-- An event in the course of which nothing was sent fetches nothing. -/
theorem not_fetches {s : Stage} {e : Event}
    (h : ∀ net after, s.traffic? e = some (net, after) → after = net) (issuer : String)
    (key : PublicKey) : ¬s.Fetches issuer e key := by
  intro hparts
  obtain ⟨net, after, htraffic, hfetched⟩ := hparts
  exact hfetched.after_ne (h net after htraffic)

/-- A check spares the kept key or fetches one in its place. -/
theorem step_validate (s : Stage) (jwt : String) (net : Network) :
    (s.Spares s.validator.issuer (.validate jwt net) ∧
        (s.step (.validate jwt net)).validator = s.validator) ∨
      ∃ key, s.Fetches s.validator.issuer (.validate jwt net) key ∧
        (s.step (.validate jwt net)).validator = s.validator.keep s.now key := by
  rcases s.validator.validate_cases s.now jwt net with
    ⟨hnone, hvalidator⟩ | ⟨key, hfetched, hvalidator⟩
  · refine .inl ⟨⟨by simp, ?_⟩, hvalidator⟩
    intro key hparts
    obtain ⟨net', after, htraffic, hfetched⟩ := hparts
    obtain ⟨rfl, rfl⟩ := Prod.mk.inj (Option.some.inj htraffic)
    exact hnone key hfetched
  · exact .inr ⟨key, ⟨net, _, rfl, hfetched⟩, hvalidator⟩

/-- A call that meets the traffic of a check, and leaves behind the validator that the check leaves
behind, does what the check does. -/
theorem step_like_validate {s : Stage} {e : Event} {jwt : String} {net : Network}
    (hne : e ≠ .forget) (htraffic : s.traffic? e = s.traffic? (.validate jwt net))
    (hstep : s.step e = s.step (.validate jwt net)) :
    (s.Spares s.validator.issuer e ∧ (s.step e).validator = s.validator) ∨
      ∃ key, s.Fetches s.validator.issuer e key ∧
        (s.step e).validator = s.validator.keep s.now key := by
  have hfetches := fetches_congr htraffic s.validator.issuer
  rw [hstep]
  rcases s.step_validate jwt net with ⟨hspares, hvalidator⟩ | ⟨key, hfetched, hvalidator⟩
  · exact .inl ⟨⟨hne, fun key h => hspares.2 key ((hfetches key).mp h)⟩, hvalidator⟩
  · exact .inr ⟨key, (hfetches key).mpr hfetched, hvalidator⟩

/-- A yes-or-no check meets the traffic of the check. -/
theorem traffic?_isValid (s : Stage) (jwt : String) (net : Network) :
    s.traffic? (.isValid jwt net) = s.traffic? (.validate jwt net) := by
  simp only [traffic?, (s.validator.isValid_eq s.now jwt net).2]

/-- A header with a token meets the traffic of the check of its token. -/
theorem traffic?_authenticate {header jwt : String} (h : headerToken? header = some jwt)
    (s : Stage) (net : Network) :
    s.traffic? (.authenticate header net) = s.traffic? (.validate jwt net) := by
  simp only [traffic?, (authenticateHeader_some h s.validator s.now net "").2]

/-- **What one event does to the kept key**: it forgets it, spares it, or fetches one in its
place. -/
theorem step_cases (s : Stage) (e : Event) :
    (e = .forget ∧ (s.step e).validator = s.validator.forgetKey) ∨
      (s.Spares s.validator.issuer e ∧ (s.step e).validator = s.validator) ∨
      ∃ key, s.Fetches s.validator.issuer e key ∧
        (s.step e).validator = s.validator.keep s.now key := by
  cases e with
  | pass ticks unix =>
      exact .inr (.inl ⟨⟨by simp, not_fetches (by simp [traffic?]) _⟩, rfl⟩)
  | forget => exact .inl ⟨rfl, rfl⟩
  | validate jwt net => exact .inr (s.step_validate jwt net)
  | isValid jwt net =>
      have hstep : s.step (.isValid jwt net) = s.step (.validate jwt net) := by
        simp only [step, (s.validator.isValid_eq s.now jwt net).2]
      exact .inr (step_like_validate (by simp) (s.traffic?_isValid jwt net) hstep)
  | authenticate header net =>
      cases htoken : headerToken? header with
      | none =>
          have hcall := authenticateHeader_none htoken s.validator s.now net
          refine .inr (.inl ⟨⟨by simp, not_fetches ?_ _⟩, by simp only [step, hcall]⟩)
          intro net' after h
          simp only [traffic?, hcall] at h
          cases h
          rfl
      | some jwt =>
          have hstep : s.step (.authenticate header net) = s.step (.validate jwt net) := by
            simp only [step, (authenticateHeader_some htoken s.validator s.now net "").2]
          exact .inr (step_like_validate (by simp) (traffic?_authenticate htoken s net) hstep)

/-- An event that fetches a key is not the one that forgets it. -/
theorem Fetches.ne_forget {issuer : String} {s : Stage} {e : Event} {key : PublicKey}
    (h : s.Fetches issuer e key) : e ≠ .forget := by
  intro heq
  subst heq
  obtain ⟨net, after, htraffic, -⟩ := h
  cases htraffic

/-- In the course of one event one key is fetched at most. -/
theorem Fetches.unique {issuer : String} {s : Stage} {e : Event} {key key' : PublicKey}
    (h : s.Fetches issuer e key) (h' : s.Fetches issuer e key') : key = key' := by
  obtain ⟨net, after, htraffic, hfetched⟩ := h
  obtain ⟨net', after', htraffic', hfetched'⟩ := h'
  rw [htraffic] at htraffic'
  cases htraffic'
  exact hfetched.unique hfetched'

/-- An event leaves the settings of a validator alone. -/
theorem settings_step (s : Stage) (e : Event) :
    ∃ kept, (s.step e).validator = { s.validator with kept } := by
  rcases s.step_cases e with ⟨-, h⟩ | ⟨-, h⟩ | ⟨key, -, h⟩
  · exact ⟨none, h⟩
  · exact ⟨s.validator.kept, h⟩
  · exact ⟨_, h.trans (s.validator.keep_eq s.now key)⟩

/-- Events leave the settings of a validator alone. -/
theorem settings_run (events : List Event) :
    ∀ s : Stage, ∃ kept, (s.run events).validator = { s.validator with kept } := by
  induction events with
  | nil =>
      intro s
      exact ⟨s.validator.kept, rfl⟩
  | cons e events ih =>
      intro s
      obtain ⟨kept, hstep⟩ := s.settings_step e
      obtain ⟨kept', hrun⟩ := ih (s.step e)
      exact ⟨kept', by rw [show s.run (e :: events) = (s.step e).run events from rfl, hrun, hstep]⟩

/-- **One event**: afterwards a key is kept when the event fetched it, or when it was kept before
and the event spared it. -/
theorem kept_step {issuer : String} {s : Stage} (hissuer : s.validator.issuer = issuer)
    (hlifetime : s.validator.lifetime ≠ 0) (e : Event) (k : KeptKey) :
    (s.step e).validator.kept = some k ↔
      (s.Fetches issuer e k.key ∧ k.fetchedAt = s.now.ticks) ∨
        (s.validator.kept = some k ∧ s.Spares issuer e) := by
  subst hissuer
  rcases s.step_cases e with ⟨rfl, h⟩ | ⟨hspares, h⟩ | ⟨key, hfetches, h⟩
  · rw [h]
    refine ⟨(nomatch ·), ?_⟩
    intro hparts
    rcases hparts with ⟨hfetches, -⟩ | ⟨-, hspares⟩
    · exact (hfetches.ne_forget rfl).elim
    · exact (hspares.1 rfl).elim
  · rw [h]
    constructor
    · exact fun hkept => .inr ⟨hkept, hspares⟩
    · intro hparts
      rcases hparts with ⟨hfetches, -⟩ | ⟨hkept, -⟩
      · exact (hspares.2 _ hfetches).elim
      · exact hkept
  · rw [h, keep_eq, if_neg hlifetime, Option.some.injEq]
    constructor
    · intro heq
      subst heq
      exact .inl ⟨hfetches, rfl⟩
    · intro hparts
      rcases hparts with ⟨hfetches', htime⟩ | ⟨-, hspares⟩
      · rw [hfetches.unique hfetches', ← htime]
      · exact (hspares.2 key hfetches).elim

/-- The last fetch of a run is made by its first event, and no later one matters, or by a later
event. -/
theorem lastFetch_cons (issuer : String) (s : Stage) (e : Event) (events : List Event)
    (k : KeptKey) :
    s.LastFetch issuer (e :: events) k ↔
      (s.Fetches issuer e k.key ∧ k.fetchedAt = s.now.ticks ∧
          (s.step e).AllSpare issuer events) ∨
        (s.step e).LastFetch issuer events k := by
  constructor
  · intro hparts
    obtain ⟨before, d, later, hevents, hfetches, htime, hspare⟩ := hparts
    cases before with
    | nil =>
        cases hevents
        exact .inl ⟨hfetches, htime, hspare⟩
    | cons first before =>
        cases hevents
        exact .inr ⟨before, d, later, rfl, hfetches, htime, hspare⟩
  · intro hparts
    rcases hparts with ⟨hfetches, htime, hspare⟩ | ⟨before, d, later, rfl, hfetches, htime, hspare⟩
    · exact ⟨[], e, events, rfl, hfetches, htime, hspare⟩
    · exact ⟨e :: before, d, later, rfl, hfetches, htime, hspare⟩

/-- **The kept key after a run** is the one that was fetched last, or the one that was kept from the
start when every event spared it. -/
theorem kept_run {issuer : String} (events : List Event) (k : KeptKey) :
    ∀ {s : Stage}, s.validator.issuer = issuer → s.validator.lifetime ≠ 0 →
      ((s.run events).validator.kept = some k ↔
        s.LastFetch issuer events k ∨ (s.validator.kept = some k ∧ s.AllSpare issuer events)) := by
  induction events with
  | nil =>
      intro s _ _
      have hnone : ¬s.LastFetch issuer [] k := by
        intro hparts
        obtain ⟨before, e, later, hevents, -⟩ := hparts
        simp at hevents
      simp [run, AllSpare, hnone]
  | cons e events ih =>
      intro s hissuer hlifetime
      obtain ⟨kept, hsettings⟩ := s.settings_step e
      have hstep := kept_step hissuer hlifetime e k
      have hissuer' : (s.step e).validator.issuer = issuer := by rw [hsettings, hissuer]
      have hlifetime' : (s.step e).validator.lifetime ≠ 0 := by rw [hsettings]; exact hlifetime
      have hrun := ih hissuer' hlifetime'
      -- What the rest starts from is what the first event leaves, and that is `hstep`.
      rw [show s.run (e :: events) = (s.step e).run events from rfl, hrun, hstep, lastFetch_cons,
        AllSpare]
      constructor
      · intro hparts
        rcases hparts with hlast | ⟨⟨hfetches, htime⟩ | ⟨hkept, hspares⟩, hspare⟩
        · exact .inl (.inr hlast)
        · exact .inl (.inl ⟨hfetches, htime, hspare⟩)
        · exact .inr ⟨hkept, hspares, hspare⟩
      · intro hparts
        rcases hparts with (⟨hfetches, htime, hspare⟩ | hlast) | ⟨hkept, hspares, hspare⟩
        · exact .inr ⟨.inl ⟨hfetches, htime⟩, hspare⟩
        · exact .inl hlast
        · exact .inr ⟨.inr ⟨hkept, hspares⟩, hspare⟩

end Stage

/-- A kept key is in force while its lifetime has not passed; none is when keys are not kept. -/
theorem kept?_eq_some_iff (v : Validator) (now : Moment) (key : PublicKey) :
    v.kept? now = some key ↔ v.lifetime ≠ 0 ∧ ∃ fetchedAt, v.kept = some ⟨key, fetchedAt⟩ ∧
      now.ticks < fetchedAt + v.lifetime := by
  unfold kept?
  cases v.kept with
  | none => simp
  | some k =>
      obtain ⟨key', fetchedAt⟩ := k
      dsimp only
      by_cases hforce : v.lifetime ≠ 0 ∧ now.ticks - fetchedAt < v.lifetime
      · have hlt : now.ticks < fetchedAt + v.lifetime := by omega
        simp only [hforce, ne_eq, not_false_eq_true, and_self, if_true, Option.some.injEq,
          KeptKey.mk.injEq, true_and]
        constructor
        · intro heq
          subst heq
          exact ⟨fetchedAt, ⟨rfl, rfl⟩, hlt⟩
        · intro hparts
          obtain ⟨_, ⟨rfl, -⟩, -⟩ := hparts
          rfl
      · rw [if_neg hforce]
        refine ⟨(nomatch ·), ?_⟩
        intro hparts
        obtain ⟨hne, fetchedAt', hkept, hlt⟩ := hparts
        cases hkept
        exact (hforce ⟨hne, by omega⟩).elim

namespace Stage

/-- Whether a token is believed in a call depends on the call only by its traffic. -/
theorem believes_congr {s : Stage} {events : List Event} {d e : Event}
    (h : (s.run events).traffic? d = (s.run events).traffic? e) (issuer : String)
    (lifetime : Nat) (jwt : String) (claims : Verified) :
    s.Believes issuer lifetime events d jwt claims ↔
      s.Believes issuer lifetime events e jwt claims := by
  unfold Believes
  simp only [fetches_congr h]

/-- A token that is believed has three segments. -/
theorem Believes.length_segments {issuer : String} {lifetime : Nat} {s : Stage}
    {events : List Event} {call : Event} {jwt : String} {claims : Verified}
    (h : s.Believes issuer lifetime events call jwt claims) : (Token.segments jwt).length = 3 := by
  obtain ⟨key, hgenuine, -⟩ := h
  exact hgenuine.length_segments

/-- One more check after a run that began without a key gives claims exactly when it believes the
token. -/
theorem validate_run_iff (issuer : String) (lifetime : Nat) (claim : String) (start : Moment)
    (events : List Event) (jwt : String) (net : Network) (claims : Verified) :
    let s : Stage := ⟨.new issuer lifetime claim, start⟩
    ((s.run events).validator.validate (s.run events).now jwt net).1 = .ok claims ↔
      s.Believes issuer lifetime events (.validate jwt net) jwt claims := by
  intro s
  obtain ⟨kept, hsettings⟩ := settings_run events s
  have hissuer : (s.run events).validator.issuer = issuer := by rw [hsettings]; rfl
  have hlifetime : (s.run events).validator.lifetime = lifetime := by rw [hsettings]; rfl
  have hfetches : ∀ key, PublicKey.Fetched issuer net key
      ((s.run events).validator.validate (s.run events).now jwt net).2.2 ↔
        (s.run events).Fetches issuer (.validate jwt net) key := by
    intro key
    simp [Fetches, traffic?]
  have hkept : lifetime ≠ 0 → ∀ k, (s.run events).validator.kept = some k ↔
      s.LastFetch issuer events k := by
    intro hne k
    have hrun : (s.run events).validator.kept = some k ↔
        s.LastFetch issuer events k ∨ (s.validator.kept = some k ∧ s.AllSpare issuer events) :=
      kept_run events k rfl hne
    have hstart : ¬(s.validator.kept = some k ∧ s.AllSpare issuer events) := by
      intro hparts
      obtain ⟨h, -⟩ := hparts
      cases h
    rw [hrun, or_iff_left hstart]
  rw [validate_eq_ok_iff, hissuer]
  unfold Believes
  simp only [hfetches, kept?_eq_some_iff, hlifetime]
  by_cases hzero : lifetime = 0
  · simp [hzero]
  · simp only [hkept hzero]

/-- **Token soundness over whole runs**, with its converse.  A validator that began without a key
has been through any events: its clocks moved, it was called, each time with the network of that
time, and its key was forgotten.  Then each call accepts exactly the tokens that it believes, and an
`Authorization` header names a user exactly when the trimmed text after `Bearer ` is believed and
the configured claim of its claims is that user. -/
theorem run_accepts_iff (issuer : String) (lifetime : Nat) (claim : String) (start : Moment)
    (events : List Event) (net : Network) :
    let s : Stage := ⟨.new issuer lifetime claim, start⟩
    let v := (s.run events).validator
    let now := (s.run events).now
    (∀ jwt claims, (v.validate now jwt net).1 = .ok claims ↔
      s.Believes issuer lifetime events (.validate jwt net) jwt claims) ∧
    (∀ jwt, (v.isValid now jwt net).1 = true ↔
      ∃ claims, s.Believes issuer lifetime events (.isValid jwt net) jwt claims) ∧
    ∀ header user, (v.authenticateHeader now header net).1 = .ok (some user) ↔
      ∃ rest claims, header = "Bearer " ++ rest ∧
        s.Believes issuer lifetime events (.authenticate header net) (Text.trim rest) claims ∧
        claims.text? claim = some user ∧ user ≠ "" := by
  intro s v now
  have hvalidate := validate_run_iff issuer lifetime claim start events
  refine ⟨fun jwt claims => hvalidate jwt net claims, fun jwt => ?_, fun header user => ?_⟩
  · simp only [believes_congr ((s.run events).traffic?_isValid jwt net)]
    rw [(v.isValid_eq now jwt net).1]
    exact exists_congr fun claims => hvalidate jwt net claims
  · cases htoken : headerToken? header with
    | none =>
        rw [authenticateHeader_none htoken v now net]
        refine ⟨(nomatch ·), ?_⟩
        intro hparts
        obtain ⟨rest, claims, hheader, hbelieves, -⟩ := hparts
        have hsome := (headerToken?_eq_some_iff header (Text.trim rest)).mpr
          ⟨rest, hheader, rfl, hbelieves.length_segments⟩
        rw [htoken] at hsome
        cases hsome
    | some jwt =>
        obtain ⟨kept, hsettings⟩ := settings_run events s
        have hclaim : v.usernameClaim = claim := by rw [show v = _ from hsettings]; rfl
        obtain ⟨rest, hheader, rfl, -⟩ := (headerToken?_eq_some_iff header jwt).mp htoken
        have hcongr := believes_congr (traffic?_authenticate htoken (s.run events) net) issuer
          lifetime (Text.trim rest)
        rw [(authenticateHeader_some htoken v now net user).1, hclaim]
        constructor
        · intro hparts
          obtain ⟨claims, hclaims, huser⟩ := hparts
          exact ⟨rest, claims, hheader, (hcongr claims).mpr ((hvalidate _ net claims).mp hclaims),
            huser, ne_empty_of_text? huser⟩
        · intro hparts
          obtain ⟨rest', claims, hheader', hbelieves, huser, -⟩ := hparts
          have hrest : rest' = rest := by
            rw [hheader] at hheader'
            exact ((String.append_right_inj _).mp hheader').symm
          subst hrest
          exact ⟨claims, (hvalidate _ net claims).mpr ((hcongr claims).mp hbelieves), huser⟩

end Stage

end SignOn.Validator
