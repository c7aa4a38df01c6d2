import SignOn.Proofs.Pinning.ReplacedChain
import SignOn.Proofs.Url.Written
/-!
# The port that a chain is captured from

A URL that is accepted is written in parts, of which one is the port, and the whole acquisition is
about one target: the tunnel that is asked for, the handshake, and the name of what is pinned
(`PinStore.acquire_asks`).  The port of the target is the port that is written, or 443 if none is,
with one exception: a URL keeps no port that is the default of its scheme, so `http`, `ws` and
`ftp` with their own port are captured from 443 (`acquire_captures_port`).
-/

namespace SignOn

namespace Capture

/-- The URL of a target has a host. -/
theorem exists_of_targetOf {text : String} {target : Endpoint} (h : targetOf text = .ok target) :
    ∃ u host, Url.parse text = .ok u ∧ u.host = some host ∧
      target = ⟨Text.dropStart '[' (Text.dropEnd ']' host.write), u.port.getD 443⟩ := by
  unfold targetOf at h
  split at h
  · cases h
  · next u hparse =>
    cases hhost : u.host with
    | none =>
        simp only [Url.hostText?, hhost, Option.map_none] at h
        cases h
    | some host =>
        simp only [Url.hostText?, hhost, Option.map_some] at h
        exact ⟨u, host, hparse, hhost, (Except.ok.inj h).symm⟩

/-- Through a proxy that can be reached, a tunnel to the target is asked for, and nothing else. -/
theorem reach_network (target : Endpoint) (proxy : Option Endpoint) (net : Network) :
    (reach target proxy net).2 =
      if proxy.isSome ∧ net.outage = none then
        { net with seen := net.seen ++ [.connect (Tunnel.request target)] }
      else net := by
  unfold reach
  cases hnet : net.outage with
  | some cause => simp
  | none => cases proxy <;> simp

/-- A capture asks for no more than reaching its target does. -/
theorem chain_network (target : Endpoint) (proxy : Option Endpoint) (net : Network) :
    (chain target proxy net).2 = (reach target proxy net).2 := by
  unfold chain
  cases hresult : reach target proxy net with
  | mk result after =>
      cases result with
      | error fault => rfl
      | ok opened =>
          simp only
          split <;> rfl

/-- A chain is captured from its target only. -/
theorem handshake_of_chain {target : Endpoint} {proxy : Option Endpoint} {net : Network}
    {certificates : List Bytes} (h : (chain target proxy net).1 = .ok certificates) :
    ∃ seen, net.handshake seen target = .presents certificates := by
  have hsame : (reach target proxy net).2.handshake = net.handshake := by
    rw [reach_network]
    split <;> rfl
  unfold chain at h
  cases hresult : reach target proxy net with
  | mk result after =>
      rw [hresult] at h hsame
      simp only at hsame
      cases result with
      | error fault => cases h
      | ok opened =>
          simp only [hsame] at h
          split at h
          · refine ⟨after.seen, ?_⟩
            unfold chainOf at h
            split at h
            · cases h
            · cases h
            · next hshake =>
              split at h
              · cases h
                exact hshake
              · cases h
          · cases h

end Capture

namespace PinStore

/-- An acquisition asks for no more than capturing the chain of its target does. -/
theorem acquire_network {text : String} {target : Endpoint}
    (h : Capture.targetOf text = .ok target) (s : PinStore) (now : Timestamp) (net : Network) :
    (s.acquire now text net).2.2 =
      (Capture.chain target (Proxy.resolve s.proxy s.environment target.host) net).2 := by
  cases hchain : Capture.chain target (Proxy.resolve s.proxy s.environment target.host) net with
  | mk result after =>
      cases result with
      | error fault => simp only [acquire, tryAcquire, h, hchain]
      | ok certificates =>
          rcases s.commit_cases (s.pins.repin target.host now certificates) with
            ⟨file, notices, hcommit, -⟩ | ⟨fault, file, hcommit, -⟩ <;>
            simp only [acquire, tryAcquire, h, hchain, hcommit]

/-- What is pinned by an acquisition is the chain that its target presents. -/
theorem acquire_pins {text : String} {target : Endpoint} (h : Capture.targetOf text = .ok target)
    {s : PinStore} {now : Timestamp} {net : Network} (hdone : (s.acquire now text net).1 = true) :
    ∃ seen certificates, net.handshake seen target = .presents certificates ∧
      (s.acquire now text net).2.1.pins = s.pins.repin target.host now certificates := by
  cases hchain : Capture.chain target (Proxy.resolve s.proxy s.environment target.host) net with
  | mk result after =>
      cases result with
      | error fault =>
          simp only [acquire, tryAcquire, h, hchain] at hdone
          cases hdone
      | ok certificates =>
          obtain ⟨seen, hshake⟩ := Capture.handshake_of_chain (congrArg Prod.fst hchain)
          rcases s.commit_cases (s.pins.repin target.host now certificates) with
            ⟨file, notices, hcommit, -⟩ | ⟨fault, file, hcommit, -⟩
          · simp only [acquire, tryAcquire, h, hchain, hcommit]
            exact ⟨seen, certificates, hshake, rfl⟩
          · simp only [acquire, tryAcquire, h, hchain, hcommit] at hdone
            cases hdone

/-- **An acquisition is about one target**, that of its URL. -/
theorem acquire_asks {text : String} {target : Endpoint} (h : Capture.targetOf text = .ok target)
    (s : PinStore) (now : Timestamp) (net : Network) :
    (∀ a ∈ net.since (s.acquire now text net).2.2, a = .connect (Tunnel.request target)) ∧
      ((s.acquire now text net).1 = true → ∃ seen certificates,
        net.handshake seen target = .presents certificates ∧
          (s.acquire now text net).2.1.pins = s.pins.repin target.host now certificates) := by
  refine ⟨?_, acquire_pins h⟩
  rw [acquire_network h, Capture.chain_network, Capture.reach_network]
  split <;> simp [Network.since]

/-- **A chain is captured from the port that is written**, or from 443 if none is, unless the port
is the default of a scheme that is not 443.  Every URL that is accepted is written in parts.  If the
port among them is the default of the scheme, it counts as none: the target has the port that is
written exactly if it is not a default other than 443.  And for every store, time and network,
nothing but a tunnel to the target is asked for, and what is pinned after an acquisition is the
chain that the target presents. -/
theorem acquire_captures_port {text : String} {target : Endpoint}
    (h : Capture.targetOf text = .ok target) :
    (∃ w : Url.Written, w.Writes text) ∧
    (∀ w : Url.Written, w.Writes text →
      target.port =
          (w.portNumber?.filter fun n => Url.defaultPort? w.schemeName ≠ some n).getD 443 ∧
        (target.port = w.portNumber?.getD 443 ↔
          ∀ n, w.portNumber? = some n → Url.defaultPort? w.schemeName = some n → n = 443)) ∧
    ∀ (s : PinStore) (now : Timestamp) (net : Network),
      (∀ a ∈ net.since (s.acquire now text net).2.2, a = .connect (Tunnel.request target)) ∧
        ((s.acquire now text net).1 = true → ∃ seen certificates,
          net.handshake seen target = .presents certificates ∧
            (s.acquire now text net).2.1.pins = s.pins.repin target.host now certificates) := by
  obtain ⟨u, host, hparse, hhost, rfl⟩ := Capture.exists_of_targetOf h
  refine ⟨Url.exists_written hparse hhost, fun w hw => ?_, acquire_asks h⟩
  obtain ⟨-, -, hport⟩ := hw.spec hparse hhost
  have hkept : u.port = w.portNumber?.filter fun n => Url.defaultPort? w.schemeName ≠ some n :=
    (Url.readPort_spec hport).2.2
  refine ⟨by rw [hkept], ?_⟩
  simp only [hkept]
  cases hnumber : w.portNumber? with
  | none => simp
  | some n =>
      by_cases hdefault : Url.defaultPort? w.schemeName = some n
      · simp [Option.filter, hdefault, eq_comm]
      · simp [Option.filter, hdefault]

/-- A port that is not the default of the scheme is the one that the chain is captured from. -/
theorem acquire_captures_port_written :
    Capture.targetOf "http://idp:8443/realms" = .ok ⟨"idp", 8443⟩ ∧
      (∃ w : Url.Written, w.Writes "http://idp:8443/realms" ∧ w.portNumber? = some 8443) ∧
      (sampleStore.acquire (.ofUnix 60) "http://idp:8443/realms" sampleNet).1 = true ∧
      ∃ seen certificates, sampleNet.handshake seen ⟨"idp", 8443⟩ = .presents certificates ∧
        (sampleStore.acquire (.ofUnix 60) "http://idp:8443/realms" sampleNet).2.1.pins =
          sampleStore.pins.repin "idp" (.ofUnix 60) certificates := by
  have htarget : Capture.targetOf "http://idp:8443/realms" = .ok ⟨"idp", 8443⟩ := by
    decide
  have hdone : (sampleStore.acquire (.ofUnix 60) "http://idp:8443/realms" sampleNet).1 = true := by
    decide
  obtain ⟨⟨w, hw⟩, hport, hacquire⟩ := acquire_captures_port htarget
  refine ⟨htarget, ⟨w, hw, ?_⟩, hdone, (hacquire sampleStore (.ofUnix 60) sampleNet).2 hdone⟩
  have hkept := (hport w hw).1
  cases hnumber : w.portNumber? with
  | none => simp [hnumber] at hkept
  | some n =>
      by_cases hdefault : Url.defaultPort? w.schemeName = some n
      · simp [hnumber, hdefault, Option.filter] at hkept
      · simpa [hnumber, hdefault, Option.filter, eq_comm] using hkept

/-- A host with a server on port 443 and none on port 80. -/
def secureOnly : Network :=
  { sampleNet with
    handshake := fun _ target =>
      if target.port = 443 then .presents [sampleLeaf] else .fails "no TLS" }

/-- The parts of `http://127.0.0.1:80/`. -/
def plainUrl : Url.Written where
  scheme := ['h', 't', 't', 'p']
  slashes := ['/', '/']
  userinfo := none
  host := ['1', '2', '7', '.', '0', '.', '0', '.', '1']
  port := some ['8', '0']
  tail := ['/']

/-- **A port that is passed over.**  The URL writes port 80, and the chain is captured from 443. -/
theorem acquire_passes_over_port :
    plainUrl.Writes "http://127.0.0.1:80/" ∧ plainUrl.portNumber? = some 80 ∧
      Capture.targetOf "http://127.0.0.1:80/" = .ok ⟨"127.0.0.1", 443⟩ ∧
      (sampleStore.acquire (.ofUnix 60) "http://127.0.0.1:80/" secureOnly).1 = true ∧
      (sampleStore.acquire (.ofUnix 60) "http://127.0.0.1:80/" secureOnly).2.1.pins.get?
        "127.0.0.1_0" = some ⟨"127.0.0.1_0", sampleLeaf, .ofUnix 60⟩ := by
  have hvalid : plainUrl.Valid :=
    ⟨⟨by decide, by decide, by decide⟩, by decide, by decide, .inr (by decide),
      by decide, by decide⟩
  exact ⟨⟨hvalid, by decide⟩, by decide, by decide, by decide,
    by decide⟩

end PinStore

end SignOn
