import SignOn.Pinning.Store
import SignOn.Proofs.Pinning.WrittenPins
import SignOn.Proofs.Steps
import SignOn.Proofs.Store.Durability
/-!
# A trust store stays consistent

A trust store has four parts that could disagree: the pins, the trust that was put together from
them, the file, and the last error.  Whatever is called, one of two things becomes of them
(`call_ends`).  Either a chain is captured and written, and then the pins, the text of the file and
the trust are all made from it and the error is gone (`Acquired`); or pins and file are what they
were, and all that the trust can have become is that of the pins (`Spared`).

From this follow the step and the run: every pin is under its own name, a store newly opened in the
file holds the same pins, and the trust that is kept is that in the pins (`Consistent`).  The file
is read back by `Pins.ofText_text`, which needs the names.  The last error follows the attempts to
capture a chain one by one (`isSome_lastError_run`).

The main statement is `run_consistent`.
-/

namespace SignOn.PinStore

/-- A call to a trust store, with the time and the network that it finds. -/
inductive Call
  | acquire (now : Timestamp) (url : String) (net : Network)
  | refresh (now : Timestamp) (net : Network)
  | providerTrust (now : Timestamp) (net : Network)
  | pinnedTrust

/-- Whether a call asks for the trust. -/
def Call.AsksTrust : Call → Prop
  | providerTrust _ _ | pinnedTrust => True
  | acquire _ _ _ | refresh _ _ => False

/-- The store after a call. -/
def call (s : PinStore) : Call → PinStore
  | .acquire now url net => (s.acquire now url net).2.1
  | .refresh now net => (s.refresh now net).2.1
  | .providerTrust now net => (s.providerTrust now net).2.1
  | .pinnedTrust => s.pinnedTrust.2

/-- The store after calls, one after another. -/
def run (s : PinStore) (calls : List Call) : PinStore :=
  calls.foldl call s

/-- Whether a call attempts to capture a chain, and whether it does capture one.  Who asks for the
trust in the provider attempts it if nothing is pinned, no trust is kept and there is a URL. -/
def attempt? (s : PinStore) : Call → Option Bool
  | .acquire now url net => some (s.acquire now url net).1
  | .refresh now net => some (s.refresh now net).1
  | .providerTrust now net =>
    match s.trust, s.pins.isEmpty, s.providerUrl with
    | none, true, some url => some (s.acquire now url net).1
    | _, _, _ => none
  | .pinnedTrust => none

/-- How the attempts of calls have ended, in their order. -/
def attempts (s : PinStore) : List Call → List Bool
  | [] => []
  | c :: calls => (s.attempt? c).toList ++ (s.call c).attempts calls

/-- A host presents a chain behind a URL. -/
def Captures (s : PinStore) (url : String) (net : Network) (host : String)
    (chain : List Bytes) : Prop :=
  ∃ target, Capture.targetOf url = .ok target ∧ target.host = host ∧
    (Capture.chain target (Proxy.resolve s.proxy s.environment host) net).1 = .ok chain

/-- What a captured chain makes of a store: it is pinned, written, and trusted. -/
structure Acquired (s s' : PinStore) : Prop where
  pinned : ∃ url net host chain now, s.Captures url net host chain ∧
    s'.pins = s.pins.repin host now chain
  path : s'.file.path = s.file.path
  written : s'.file.isPresent = true ∧ s'.file.text = .ok s'.pins.text
  trusted : s'.trust = some (.ofPins s'.pins)
  noError : s'.lastError = none

/-- A call has left pins and file as they were, and the trust too, unless it asked for it: then the
trust in the pins may have been put together. -/
structure Spared (c : Call) (s s' : PinStore) : Prop where
  pins : s'.pins = s.pins
  file : s'.file.visible = s.file.visible
  trust : s'.trust = s.trust ∨ c.AsksTrust ∧ s'.trust = some (.ofPins s.pins)

/-- What has become of a store after a call that has attempted to capture a chain, or not. -/
inductive Ends (c : Call) (s s' : PinStore) : Option Bool → Prop
  | acquired (h : Acquired s s') : Ends c s s' (some true)
  | failed (h : Spared c s s') (herror : s'.lastError.isSome = true) : Ends c s s' (some false)
  | quiet (h : Spared c s s') (herror : s'.lastError = s.lastError) : Ends c s s' none

/-- A trust store in the file at `path` agrees with itself and with its file. -/
structure Consistent (path : String) (s : PinStore) : Prop where
  named : s.pins.Named
  path : s.file.path = path
  reopened : ∀ providerUrl proxy environment,
    (openFile s.file providerUrl proxy environment).pins = s.pins
  trusted : ∀ trust, s.trust = some trust → trust = .ofPins s.pins

/-! ### The file -/

/-- Pins that are read from a file are those of a text. -/
theorem exists_text_of_read {f : StateFile} {pins : Pins} (h : read f = .ok pins) :
    ∃ text, Pins.ofText text = .ok pins := by
  unfold read at h
  split at h
  · cases h
  · next text _ => exact ⟨text, mapError_eq_ok_iff.mp h⟩

/-- Pins that are loaded are under their own names. -/
theorem named_load (f : StateFile) : (load f).1.Named := by
  unfold load
  split
  · cases hread : read f with
    | error cause => exact Pins.named_empty
    | ok pins =>
        obtain ⟨text, htext⟩ := exists_text_of_read hread
        exact Pins.named_of_ofText htext
  · exact Pins.named_empty

/-- A file with the text of pins holds these. -/
theorem load_of_text {f : StateFile} {pins : Pins} (hnamed : pins.Named)
    (hpresent : f.isPresent = true) (htext : f.text = .ok pins.text) : load f = (pins, []) := by
  have hread : read f = .ok pins := by simp [read, htext, Pins.ofText_text hnamed, Except.mapError]
  simp [load, hpresent, hread]

/-- What is loaded depends only on what can be seen of the file. -/
theorem load_of_visible {f g : StateFile} (h : g.visible = f.visible) : load g = load f := by
  obtain ⟨hpath, hpresent, htext⟩ := StateFile.reads_of_visible h
  simp only [load, read, hpresent, htext, hpath]

/-! ### One call -/

/-- **A commit has two ways to end.** -/
theorem commit_cases (s : PinStore) (pins : Pins) :
    (∃ file notices,
        s.commit pins = (.ok (), { s with file, pins, trust := some (.ofPins pins), notices }) ∧
        file.path = s.file.path ∧ file.isPresent = true ∧ file.text = .ok pins.text) ∨
      ∃ fault file, s.commit pins = (.error fault, { s with file }) ∧
        file.visible = s.file.visible := by
  have hpath := Store.path_replace s.file false pins.text
  rcases hreplace : s.file.replace false pins.text with ⟨fault | ⟨⟩, file⟩
  · obtain ⟨hvisible, -⟩ := Store.replace_error hreplace
    exact .inr ⟨fault, file, by simp only [commit, hreplace], hvisible⟩
  · rw [hreplace] at hpath
    obtain ⟨hpresent, htext⟩ := Store.text_replace hreplace
    exact .inl ⟨file, s.notices ++ skipped pins, by simp only [commit, hreplace], hpath, hpresent,
      htext⟩

/-- **An attempt to pin a chain has two ways to end.**  A chain is captured, written, pinned and
trusted; or only the file has changed, and it looks as it did. -/
theorem tryAcquire_cases (s : PinStore) (now : Timestamp) (url : String) (net : Network) :
    (∃ host chain file notices net', s.tryAcquire now url net =
        (.ok (), { s with
          file, pins := s.pins.repin host now chain,
          trust := some (.ofPins (s.pins.repin host now chain)), notices }, net') ∧
        s.Captures url net host chain ∧ file.path = s.file.path ∧ file.isPresent = true ∧
        file.text = .ok (s.pins.repin host now chain).text) ∨
      ∃ fault file net', s.tryAcquire now url net = (.error fault, { s with file }, net') ∧
        file.visible = s.file.visible := by
  cases htarget : Capture.targetOf url with
  | error fault => exact .inr ⟨fault, s.file, net, by simp only [tryAcquire, htarget], rfl⟩
  | ok target =>
      rcases hchain : Capture.chain target
          (Proxy.resolve s.proxy s.environment target.host) net with ⟨fault | chain, net'⟩
      · exact .inr ⟨fault, s.file, net', by simp only [tryAcquire, htarget, hchain], rfl⟩
      · rcases s.commit_cases (s.pins.repin target.host now chain) with
          ⟨file, notices, hcommit, hwritten⟩ | ⟨fault, file, hcommit, hvisible⟩
        · exact .inl ⟨target.host, chain, file, notices, net',
            by simp only [tryAcquire, htarget, hchain, hcommit],
            ⟨target, htarget, rfl, congrArg Prod.fst hchain⟩, hwritten⟩
        · exact .inr ⟨fault, file, net', by simp only [tryAcquire, htarget, hchain, hcommit],
            hvisible⟩

/-- Nothing is lost by sparing twice. -/
theorem Spared.trans {c : Call} {s s' s'' : PinStore} (h : Spared c s s') (h' : Spared c s' s'') :
    Spared c s s'' where
  pins := h'.pins.trans h.pins
  file := h'.file.trans h.file
  trust := by
    rcases h'.trust with hkept | ⟨hasks, hmade⟩
    · rw [hkept]
      exact h.trust
    · exact .inr ⟨hasks, by rw [hmade, h.pins]⟩

/-- **An acquisition ends as it says.** -/
theorem acquire_ends (c : Call) (s : PinStore) (now : Timestamp) (url : String) (net : Network) :
    Ends c s (s.acquire now url net).2.1 (some (s.acquire now url net).1) := by
  rcases s.tryAcquire_cases now url net with
    ⟨host, chain, file, notices, net', htry, hcaptures, hpath, hwritten⟩ |
    ⟨fault, file, net', htry, hvisible⟩
  · simp only [acquire, htry]
    exact .acquired ⟨⟨url, net, host, chain, now, hcaptures, rfl⟩, hpath, hwritten, rfl, rfl⟩
  · simp only [acquire, htry]
    exact .failed ⟨rfl, hvisible, .inl rfl⟩ rfl

/-- Asking for the trust keeps the one that there is, or puts together that in the pins, and changes
nothing else. -/
theorem pinnedTrust_spec (s : PinStore) : ∃ notices,
    s.pinnedTrust.2 = { s with trust := some (s.trust.getD (.ofPins s.pins)), notices } := by
  cases htrust : s.trust with
  | some trust =>
      refine ⟨s.notices, ?_⟩
      simp only [pinnedTrust, htrust, Option.getD_some]
      rw [← htrust]
  | none => exact ⟨s.notices ++ skipped s.pins, by simp [pinnedTrust, htrust]⟩

/-- Asking for the trust spares the store. -/
theorem spared_pinnedTrust {c : Call} (hasks : c.AsksTrust) (s : PinStore) :
    Spared c s s.pinnedTrust.2 := by
  obtain ⟨notices, hspec⟩ := s.pinnedTrust_spec
  rw [hspec]
  refine ⟨rfl, rfl, ?_⟩
  cases s.trust with
  | some trust => exact .inl rfl
  | none => exact .inr ⟨hasks, rfl⟩

/-- Asking for the trust besides does not change how a call ends. -/
theorem Ends.pinnedTrust {c : Call} {s s' : PinStore} {attempt : Option Bool}
    (hasks : c.AsksTrust) (h : Ends c s s' attempt) : Ends c s s'.pinnedTrust.2 attempt := by
  have hspared := spared_pinnedTrust hasks s'
  obtain ⟨notices, hspec⟩ := s'.pinnedTrust_spec
  rw [hspec] at hspared ⊢
  cases h with
  | acquired h =>
      exact .acquired ⟨h.pinned, h.path, h.written, by rw [h.trusted]; rfl, h.noError⟩
  | failed h herror => exact .failed (h.trans hspared) herror
  | quiet h herror => exact .quiet (h.trans hspared) herror

/-- A refresh is an acquisition, unless there is no URL. -/
theorem refresh_cases (s : PinStore) (now : Timestamp) (net : Network) :
    s.refresh now net = (false, { s with lastError := some noProviderUrl }, net) ∨
      ∃ url, s.refresh now net = s.acquire now url net := by
  unfold refresh
  split
  · exact .inl rfl
  · exact .inr ⟨_, rfl⟩

/-- Asking for the trust in the provider is asking for the trust, perhaps behind an acquisition. -/
theorem providerTrust_cases (s : PinStore) (now : Timestamp) (net : Network) :
    (s.attempt? (.providerTrust now net) = none ∧
        s.call (.providerTrust now net) = s.pinnedTrust.2) ∨
      ∃ url, s.attempt? (.providerTrust now net) = some (s.acquire now url net).1 ∧
        s.call (.providerTrust now net) = (s.acquire now url net).2.1.pinnedTrust.2 := by
  cases htrust : s.trust with
  | some trust => exact .inl (by simp [attempt?, call, providerTrust, htrust])
  | none =>
      cases hempty : s.pins.isEmpty with
      | false => exact .inl (by simp [attempt?, call, providerTrust, htrust, hempty])
      | true =>
          cases hurl : s.providerUrl with
          | none => exact .inl (by simp [attempt?, call, providerTrust, htrust, hempty, hurl])
          | some url =>
              exact .inr ⟨url, by simp [attempt?, call, providerTrust, htrust, hempty, hurl]⟩

/-- **A call ends as its attempt to capture a chain does**, or without one. -/
theorem call_ends (s : PinStore) (c : Call) : Ends c s (s.call c) (s.attempt? c) := by
  have hsame : Ends c s s none := .quiet ⟨rfl, rfl, .inl rfl⟩ rfl
  cases c with
  | acquire now url net => exact acquire_ends _ s now url net
  | refresh now net =>
      simp only [attempt?, call]
      rcases s.refresh_cases now net with hrefresh | ⟨url, hrefresh⟩
      · rw [hrefresh]
        exact .failed ⟨rfl, rfl, .inl rfl⟩ rfl
      · rw [hrefresh]
        exact acquire_ends _ s now url net
  | providerTrust now net =>
      rcases s.providerTrust_cases now net with ⟨hnone, hcall⟩ | ⟨url, hattempt, hcall⟩
      · rw [hnone, hcall]
        exact hsame.pinnedTrust trivial
      · rw [hattempt, hcall]
        exact (acquire_ends _ s now url net).pinnedTrust trivial
  | pinnedTrust => exact hsame.pinnedTrust trivial

/-- A call captures a chain, or it spares the store. -/
theorem acquired_or_spared (s : PinStore) (c : Call) :
    (s.attempt? c = some true ∧ Acquired s (s.call c)) ∨
      (s.attempt? c ≠ some true ∧ Spared c s (s.call c)) := by
  have hends := s.call_ends c
  generalize s.attempt? c = attempt at hends ⊢
  cases hends with
  | acquired h => exact .inl ⟨rfl, h⟩
  | failed h => exact .inr ⟨by decide, h⟩
  | quiet h => exact .inr ⟨by decide, h⟩

/-! ### Any number of calls -/

/-- A store that was just opened is consistent. -/
theorem consistent_openFile (f : StateFile) (providerUrl proxy : Option String)
    (environment : String → Option String) :
    Consistent f.path (openFile f providerUrl proxy environment) where
  named := named_load f
  path := rfl
  reopened := fun _ _ _ => rfl
  trusted := fun _ h => nomatch h

/-- **One call keeps a store consistent**, whether it captures a chain or not. -/
theorem Consistent.call {path : String} {s : PinStore} (h : Consistent path s) (c : Call) :
    Consistent path (s.call c) := by
  rcases s.acquired_or_spared c with ⟨-, hacquired⟩ | ⟨-, hspared⟩
  · have hnamed : (s.call c).pins.Named := by
      obtain ⟨-, -, host, chain, now, -, hpins⟩ := hacquired.pinned
      rw [hpins]
      exact h.named.repin host now chain
    have hload := load_of_text hnamed hacquired.written.1 hacquired.written.2
    exact ⟨hnamed, hacquired.path.trans h.path, fun _ _ _ => congrArg Prod.fst hload,
      fun trust htrust => Option.some.inj (htrust.symm.trans hacquired.trusted)⟩
  · have hload := load_of_visible hspared.file
    refine ⟨by rw [hspared.pins]; exact h.named, ?_, ?_, ?_⟩
    · exact (congrArg Prod.fst hspared.file).trans h.path
    · intro providerUrl proxy environment
      have hbefore := h.reopened providerUrl proxy environment
      rw [hspared.pins, ← hbefore]
      exact congrArg Prod.fst hload
    · intro trust htrust
      rw [hspared.pins]
      rcases hspared.trust with hkept | ⟨-, hmade⟩
      · exact h.trusted trust (hkept.symm.trans htrust)
      · exact Option.some.inj (htrust.symm.trans hmade)

/-- Any number of calls keeps a store consistent. -/
theorem Consistent.run {path : String} (calls : List Call) :
    ∀ {s : PinStore}, Consistent path s → Consistent path (s.run calls) := by
  induction calls with
  | nil =>
      intro s h
      exact h
  | cons c calls ih =>
      intro s h
      exact ih (h.call c)

/-- **After any number of calls there is an error** if the last attempt among them has failed, or if
there was one before and none of them has attempted anything. -/
theorem isSome_lastError_run (calls : List Call) : ∀ s : PinStore,
    (s.run calls).lastError.isSome =
      ((s.attempts calls).getLast?.map not).getD s.lastError.isSome := by
  induction calls with
  | nil =>
      intro s
      rfl
  | cons c calls ih =>
      intro s
      have hrun : (s.run (c :: calls)).lastError.isSome = ((s.call c).run calls).lastError.isSome :=
        rfl
      have hends := s.call_ends c
      rw [hrun, ih, attempts, List.getLast?_append]
      generalize s.attempt? c = attempt at hends ⊢
      cases hends with
      | acquired h =>
          rw [h.noError]
          cases ((s.call c).attempts calls).getLast? <;> rfl
      | failed h herror =>
          rw [herror]
          cases ((s.call c).attempts calls).getLast? <;> rfl
      | quiet h herror =>
          rw [herror]
          cases ((s.call c).attempts calls).getLast? <;> rfl

/-- **A trust store stays consistent.**  Whatever a file holds, whichever calls have been made to
the store opened in it, with whichever URLs, chains and failures of the network, and whichever of
the writes have failed at whichever step: every pin is under its own name, a store newly opened in
the file holds the same pins, and the trust that is kept is that in the pins.  The next call
captures a chain, or it leaves pins and file as they were, and the trust too, unless it asks for it
and puts together that in the pins.  And there is a last error exactly if the last attempt has
failed. -/
theorem run_consistent (f : StateFile) (providerUrl proxy : Option String)
    (environment : String → Option String) (calls : List Call) (c : Call) :
    let opened := openFile f providerUrl proxy environment
    let s := opened.run calls
    Consistent f.path s ∧
      ((s.attempt? c = some true ∧ Acquired s (s.call c)) ∨
        (s.attempt? c ≠ some true ∧ Spared c s (s.call c))) ∧
      (s.lastError.isSome = true ↔ (opened.attempts calls).getLast? = some false) := by
  intro opened s
  refine ⟨(consistent_openFile f providerUrl proxy environment).run calls,
    s.acquired_or_spared c, ?_⟩
  rw [isSome_lastError_run calls opened]
  rcases (opened.attempts calls).getLast? with _ | _ | _ <;> simp [opened, openFile]

end SignOn.PinStore
