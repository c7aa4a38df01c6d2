import SignOn.Proofs.Pinning.Consistency
import SignOn.Proofs.Text.Cutting
import SignOn.Proofs.Text.Decimals
/-!
# One host's chain is replaced

The certificates of a host are pinned as `host_0`, `host_1` and so on, and host names may have
underscores and digits themselves.  What stands behind the last underscore has digits only, so a
name can be cut in one way (`Text.append_cons_inj`): different hosts or different places in a chain
have different names (`Pin.nameOf_inj`), and the test by which old pins are removed finds the names
of its own host only (`Pin.isNameOf_nameOf`).

From this follows what a new chain leaves behind (`Pins.replaced_repin`): under the names of its
host are its certificates, one at each place, and nothing else; every other pin stays.  The main
statement, `acquire_replaces_chain`, says this of every acquisition that succeeds.
-/

namespace SignOn

namespace Pin

/-- Digits hold no underscore. -/
theorem underscore_not_mem {digits : List Char} (h : ∀ c ∈ digits, c.isDigit = true) :
    '_' ∉ digits :=
  fun hmem => nomatch h '_' hmem

/-- A name is cut in one way into what stands before its last underscore and digits behind it. -/
theorem cut_inj {h g i j : String} (hi : ∀ c ∈ i.toList, c.isDigit = true)
    (hj : ∀ c ∈ j.toList, c.isDigit = true) :
    h ++ "_" ++ i = g ++ "_" ++ j ↔ h = g ∧ i = j := by
  have hchars (a b : String) : (a ++ "_" ++ b).toList = a.toList ++ '_' :: b.toList := by simp
  rw [← String.toList_inj, hchars, hchars,
    Text.append_cons_inj (underscore_not_mem hi) (underscore_not_mem hj), String.toList_inj,
    String.toList_inj]

/-- **The names of hosts and places.**  Two names are the same only for the same host and place. -/
theorem nameOf_inj {h g : String} {i j : Nat} : nameOf h i = nameOf g j ↔ h = g ∧ i = j := by
  rw [nameOf, nameOf, cut_inj (fun _ => Text.isDigit_of_mem_toString)
    (fun _ => Text.isDigit_of_mem_toString), Text.toString_inj]

/-- A name belongs to a host if it is the host, an underscore and digits. -/
theorem isNameOf_iff {host name : String} : isNameOf host name = true ↔
    ∃ digits, name = host ++ "_" ++ digits ∧ digits ≠ "" ∧
      ∀ c ∈ digits.toList, c.isDigit = true := by
  unfold isNameOf
  constructor
  · intro h
    split at h
    · next digits hcut =>
      rw [Text.dropPrefix?_eq_some_iff] at hcut
      simp only [Bool.and_eq_true, Bool.not_eq_true', List.all_eq_true] at h
      exact ⟨digits, hcut, by simpa using h.1, h.2⟩
    · cases h
  · rintro ⟨digits, hname, hne, hdigits⟩
    rw [(Text.dropPrefix?_eq_some_iff _ _ _).mpr hname]
    simpa [hne] using hdigits

/-- **The removal test** finds the names of one host only. -/
theorem isNameOf_nameOf {h g : String} {j : Nat} : isNameOf h (nameOf g j) = true ↔ g = h := by
  rw [isNameOf_iff]
  constructor
  · rintro ⟨digits, hname, -, hdigits⟩
    exact ((cut_inj (fun _ => Text.isDigit_of_mem_toString) hdigits).mp hname).1
  · rintro rfl
    exact ⟨toString j, rfl, by simp, fun _ => Text.isDigit_of_mem_toString⟩

/-- The pins of a chain are its certificates under the names of their places. -/
theorem mem_ofChain {host : String} {now : Timestamp} {chain : List Bytes} {p : Pin} :
    p ∈ ofChain host now chain ↔
      ∃ i certificate, chain[i]? = some certificate ∧ p = ⟨nameOf host i, certificate, now⟩ := by
  simp only [ofChain, List.mem_mapIdx, List.getElem?_eq_some_iff]
  constructor
  · rintro ⟨i, hi, rfl⟩
    exact ⟨i, chain[i], ⟨hi, rfl⟩, rfl⟩
  · rintro ⟨i, certificate, ⟨hi, rfl⟩, rfl⟩
    exact ⟨i, hi, rfl⟩

/-- The pins of a chain have different names. -/
theorem pairwise_ofChain (host : String) (now : Timestamp) (chain : List Bytes) :
    (ofChain host now chain).Pairwise fun p q => p.name ≠ q.name := by
  rw [List.pairwise_iff_getElem]
  intro i j hi hj hlt heq
  simp only [ofChain, List.getElem_mapIdx] at heq
  exact Nat.ne_of_lt hlt (nameOf_inj.mp heq).2

end Pin

namespace Pins

section

variable {pins : Pins} {list : List Pin} {name : String}

/-- Pins that are put in leave other names alone. -/
theorem get?_insertAll_of_not_mem (h : ∀ p ∈ list, p.name ≠ name) :
    (pins.insertAll list).get? name = KeyMap.get? pins name := by
  induction list generalizing pins with
  | nil => rfl
  | cons p list ih =>
      obtain ⟨hp, hlist⟩ := List.forall_mem_cons.mp h
      calc (pins.insertAll (p :: list)).get? name
          = (insertAll (KeyMap.insert pins p.name p) list).get? name := rfl
        _ = (KeyMap.insert pins p.name p).get? name := ih hlist
        _ = KeyMap.get? pins name := by rw [KeyMap.get?_insert, if_neg (Ne.symm hp)]

/-- Pins of different names that are put in are there. -/
theorem get?_insertAll_of_mem (hdiffer : list.Pairwise fun p q => p.name ≠ q.name) {p : Pin}
    (hp : p ∈ list) : (pins.insertAll list).get? p.name = some p := by
  induction list generalizing pins with
  | nil => cases hp
  | cons q list ih =>
      obtain ⟨hq, hlist⟩ := List.pairwise_cons.mp hdiffer
      rcases List.mem_cons.mp hp with rfl | hmem
      · have hlater : ∀ r ∈ list, r.name ≠ p.name := fun r hr => (hq r hr).symm
        calc (pins.insertAll (p :: list)).get? p.name
            = (insertAll (KeyMap.insert pins p.name p) list).get? p.name := rfl
          _ = (KeyMap.insert pins p.name p).get? p.name := get?_insertAll_of_not_mem hlater
          _ = some p := by rw [KeyMap.get?_insert, if_pos rfl]
      · exact ih hlist hmem

end

/-- The chain of a host has taken the place of whatever was pinned for the host, and nothing else
has changed. -/
structure Replaced (old new : Pins) (host : String) (now : Timestamp) (chain : List Bytes) :
    Prop where
  places : ∀ i, new.get? (Pin.nameOf host i) =
    chain[i]?.map fun certificate => ⟨Pin.nameOf host i, certificate, now⟩
  nothingElse : ∀ name, Pin.isNameOf host name = true → (∀ i, name ≠ Pin.nameOf host i) →
    new.get? name = none
  others : ∀ name, Pin.isNameOf host name = false → new.get? name = old.get? name
  hosts : ∀ other, other ≠ host → ∀ i,
    new.get? (Pin.nameOf other i) = old.get? (Pin.nameOf other i)

section

variable (pins : Pins) (host : String) (now : Timestamp) (chain : List Bytes)

/-- A name of a host that no place in the new chain has is free. -/
theorem get?_repin_eq_none {name : String} (hname : Pin.isNameOf host name = true)
    (hfree : ∀ p ∈ Pin.ofChain host now chain, p.name ≠ name) :
    (pins.repin host now chain).get? name = none := by
  rw [repin, get?_insertAll_of_not_mem hfree, KeyMap.get?_filter]
  simp [hname]

/-- **A chain that is pinned replaces the chain of its host.** -/
theorem replaced_repin : Replaced pins (pins.repin host now chain) host now chain := by
  have hothers (name : String) (hname : Pin.isNameOf host name = false) :
      (pins.repin host now chain).get? name = KeyMap.get? pins name := by
    have hfree : ∀ p ∈ Pin.ofChain host now chain, p.name ≠ name := by
      rintro p hp rfl
      obtain ⟨i, certificate, -, rfl⟩ := Pin.mem_ofChain.mp hp
      exact nomatch hname.symm.trans (Pin.isNameOf_nameOf.mpr rfl)
    rw [repin, get?_insertAll_of_not_mem hfree, KeyMap.get?_filter]
    simp [hname]
  refine ⟨fun i => ?_, fun name hname hplaces => ?_, hothers, fun other hother i => ?_⟩
  · cases hplace : chain[i]? with
    | some certificate =>
        exact get?_insertAll_of_mem (Pin.pairwise_ofChain host now chain)
          (Pin.mem_ofChain.mpr ⟨i, certificate, hplace, rfl⟩)
    | none =>
        refine get?_repin_eq_none pins host now chain (Pin.isNameOf_nameOf.mpr rfl) ?_
        intro p hp heq
        obtain ⟨j, certificate, hj, rfl⟩ := Pin.mem_ofChain.mp hp
        rw [(Pin.nameOf_inj.mp heq).2, hplace] at hj
        cases hj
  · refine get?_repin_eq_none pins host now chain hname ?_
    intro p hp heq
    obtain ⟨j, certificate, -, rfl⟩ := Pin.mem_ofChain.mp hp
    exact hplaces j heq.symm
  · refine hothers _ (Bool.eq_false_iff.mpr fun hname => ?_)
    exact hother (Pin.isNameOf_nameOf.mp hname)

end

end Pins

/-- A chain that is captured has a certificate. -/
theorem Capture.chain_ne_nil {target : Endpoint} {proxy : Option Endpoint} {net : Network}
    {captured : List Bytes} (h : (chain target proxy net).1 = .ok captured) : captured ≠ [] := by
  unfold chain at h
  split at h
  · cases h
  · split at h
    · next after _ _ =>
      unfold chainOf at h
      split at h
      · cases h
      · cases h
      · split at h
        · cases h
          exact List.cons_ne_nil _ _
        · cases h
    · cases h

namespace PinStore

/-- **An acquisition replaces the chain of its host.**  A chain with a certificate has been
captured, and it is pinned in the place of the one before: each certificate under the name of its place, no
other pin of the host, and every pin of another host as it was.  So it is for all pins, hosts and
chains, since a name tells its host and its place. -/
theorem acquire_replaces_chain (s : PinStore) (now : Timestamp) (url : String) (net : Network)
    (hdone : (s.acquire now url net).1 = true) :
    (∃ host chain, s.Captures url net host chain ∧ chain ≠ [] ∧
        Pins.Replaced s.pins (s.acquire now url net).2.1.pins host now chain) ∧
      (∀ pins host chain, Pins.Replaced pins (pins.repin host now chain) host now chain) ∧
      (∀ h g i j, Pin.nameOf h i = Pin.nameOf g j ↔ h = g ∧ i = j) ∧
      ∀ h g j, Pin.isNameOf h (Pin.nameOf g j) = true ↔ g = h := by
  refine ⟨?_, fun pins host chain => pins.replaced_repin host now chain,
    fun _ _ _ _ => Pin.nameOf_inj, fun _ _ _ => Pin.isNameOf_nameOf⟩
  rcases s.tryAcquire_cases now url net with
    ⟨host, chain, file, notices, net', htry, hcaptures, -⟩ | ⟨fault, file, net', htry, -⟩
  · have hnonempty : chain ≠ [] := by
      obtain ⟨target, -, -, hchain⟩ := hcaptures
      exact Capture.chain_ne_nil hchain
    have hpins : (s.acquire now url net).2.1.pins = s.pins.repin host now chain := by
      simp only [acquire, htry]
    refine ⟨host, chain, hcaptures, hnonempty, ?_⟩
    rw [hpins]
    exact s.pins.replaced_repin host now chain
  · simp [acquire, htry] at hdone

/-- The outline of a certificate of version 3, with nothing in it. -/
def sampleLeaf : Bytes :=
  [0x30, 0x19, 0x30, 0x12, 0xA0, 3, 2, 1, 2, 2, 1, 1, 0x30, 0, 0x30, 0, 0x30, 0, 0x30, 0, 0x30, 0,
    0x30, 0, 3, 1, 0]

/-- A network in which every server presents this certificate. -/
def sampleNet : Network :=
  ⟨none, fun _ _ => .silence false, fun _ _ => .silence false, fun _ _ => [],
    fun _ _ => .presents [sampleLeaf], []⟩

/-- Two certificates of the host `idp` and one of the host `idp_1`. -/
def sampleStore : PinStore where
  file := .new "pins.json" .missing
  providerUrl := none
  proxy := none
  environment := fun _ => none
  pins := .ofList
    [⟨"idp_0", [1], .ofUnix 0⟩, ⟨"idp_1", [2], .ofUnix 0⟩, ⟨"idp_1_0", [3], .ofUnix 0⟩]
  trust := none
  lastError := none
  notices := []

/-- The host `idp` presents one certificate in the place of two; the pin of `idp_1` stays. -/
theorem acquire_replaces_chain_shorter :
    let after := (sampleStore.acquire (.ofUnix 60) "https://idp" sampleNet).2.1.pins
    (sampleStore.acquire (.ofUnix 60) "https://idp" sampleNet).1 = true ∧
      after.get? "idp_0" = some ⟨"idp_0", sampleLeaf, .ofUnix 60⟩ ∧ after.get? "idp_1" = none ∧
      after.get? "idp_1_0" = some ⟨"idp_1_0", [3], .ofUnix 0⟩ := by
  intro after
  have hdone : (sampleStore.acquire (.ofUnix 60) "https://idp" sampleNet).1 = true := by
    decide +kernel
  obtain ⟨⟨host, chain, ⟨target, htarget, rfl, hchain⟩, -, hreplaced⟩, -⟩ :=
    acquire_replaces_chain sampleStore (.ofUnix 60) "https://idp" sampleNet hdone
  have hidp : Capture.targetOf "https://idp" = .ok ⟨"idp", 443⟩ := by decide +kernel
  obtain rfl : target = ⟨"idp", 443⟩ := Except.ok.inj (htarget.symm.trans hidp)
  have hleaf : (Capture.chain ⟨"idp", 443⟩ none sampleNet).1 = .ok [sampleLeaf] := by decide +kernel
  obtain rfl : chain = [sampleLeaf] := Except.ok.inj (hchain.symm.trans hleaf)
  exact ⟨hdone, hreplaced.places 0, hreplaced.places 1,
    hreplaced.hosts "idp_1" (by decide) 0⟩

end PinStore

end SignOn
