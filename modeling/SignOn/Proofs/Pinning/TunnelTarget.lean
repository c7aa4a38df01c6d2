import SignOn.Proofs.Pinning.CapturedPort
import SignOn.Proofs.Text.Lines
import SignOn.Proofs.Url.AuthorityForm
/-!
# The target that a tunnel is asked for

An acquisition through a proxy asks for one tunnel, to the host of its URL without brackets and to
its port (`acquire_network`).  The request names this target twice and with the same word
(`Tunnel.words_request`).  Whether the word is read back depends on the kind of the host: a name or
an IPv4 address is, and with brackets every host would be, but an IPv6 address runs into the port
(`acquire_names_target`).
-/

namespace SignOn

namespace Tunnel

/-- **The words of a request**: the target is its second and its last one. -/
theorem words_request {target : Endpoint} (h : ∀ c ∈ target.text.toList, Url.IsVisible c) :
    Text.words (request target).toList =
      ["CONNECT", target.text, "HTTP/1.1", "Host:", target.text].map String.toList := by
  have hblank (c : Char) (hc : Url.IsVisible c) : Text.isBlank c = false :=
    Text.forall_ascii (P := fun c => Url.IsVisible c → Text.isBlank c = false) (by decide)
      (Nat.lt_succ_of_lt hc.high) hc
  have hne : target.text.toList ≠ [] := by simp [Endpoint.text]
  have hword : Text.words target.text.toList = [target.text.toList] := by
    have hend : Text.WordEnds [] := fun c hc => nomatch hc
    have hone := Text.words_append_of_isWord ⟨hne, fun c hc => hblank c (h c hc)⟩ hend
    rwa [List.append_nil] at hone
  have htext : (request target).toList = "CONNECT".toList ++ ' ' :: (target.text.toList ++
      ' ' :: ("HTTP/1.1\r\nHost:".toList ++ ' ' :: (target.text.toList ++
        '\r' :: ['\n', '\r', '\n']))) := by
    simp [request]
  rw [htext]
  iterate 4 rw [Text.words_append_cons (by decide)]
  rw [hword]
  rfl

end Tunnel

namespace Capture

/-- What is left of the text of a host without brackets around it is the host itself. -/
theorem bare_eq {special : Bool} {host : Url.Host} (h : Url.IsRead special host) :
    Text.dropStart '[' (Text.dropEnd ']' host.write) = host.bare := by
  have hstart {s : String} (hs : '[' ∉ s.toList) : s.toList.dropWhile (· == '[') = s.toList :=
    Text.dropWhile_eq_self fun c hc =>
      beq_eq_false_iff_ne.mpr fun heq => hs (heq ▸ List.mem_of_mem_head? hc)
  by_cases hhost : ∀ pieces, host ≠ .ipv6 pieces
  · have hnone {d : Char} (hd : ¬Url.IsPrinted d) : d ∉ host.write.toList := fun hmem =>
      hd (h.isPrinted hhost d hmem)
    rw [Text.dropEnd_of_not_mem (hnone (by decide)), Text.dropStart,
      hstart (hnone (by decide)), String.ofList_toList]
    exact host.write_eq_bare_iff.mpr hhost
  · obtain ⟨pieces, rfl⟩ : ∃ pieces, host = .ipv6 pieces := by simpa using hhost
    have haddress := h.isAddress
    have hnone {d : Char} (hd : ¬Url.Host.IsAddressChar d) :
        d ∉ (Url.Host.writeIpv6 pieces).toList := fun hmem =>
      hd ((Url.Host.ipv6?_spec (Url.Host.ipv6?_writeIpv6 haddress)).1 d hmem)
    have hend : Text.dropEndWhile (· == ']') (Url.Host.ipv6 pieces).write.toList =
        '[' :: (Url.Host.writeIpv6 pieces).toList := by
      rw [Url.toList_write_ipv6, ← List.cons_append, Text.dropEndWhile_append]
      · simp [Text.dropEndWhile]
      · intro c hc
        rw [beq_eq_false_iff_ne]
        rintro rfl
        rcases List.mem_cons.mp (List.mem_of_mem_getLast? hc) with heq | hmem
        · exact absurd heq (by decide)
        · exact hnone (by decide) hmem
    rw [Text.dropEnd, hend, Text.dropStart, String.toList_ofList,
      List.dropWhile_cons_of_pos (by simp), hstart (hnone (by decide)), String.ofList_toList]
    rfl

/-- The host of a URL with a target is one that is read, and its port has 16 bits. -/
theorem spec_of_targetOf {text : String} {target : Endpoint} (h : targetOf text = .ok target) :
    ∃ u host, Url.parse text = .ok u ∧ u.host = some host ∧
      Url.IsRead (Url.SchemeKind.of u.scheme).isSpecial host ∧ target.host = host.bare ∧
      target.port = u.port.getD 443 ∧ target.port ≤ 65535 := by
  obtain ⟨u, host, hparse, hhost, rfl⟩ := exists_of_targetOf h
  obtain ⟨w, hw⟩ := Url.exists_written hparse hhost
  obtain ⟨hscheme, hread, hport⟩ := hw.spec hparse hhost
  obtain ⟨-, hbound, hkept⟩ := Url.readPort_spec hport
  have hisRead : Url.IsRead (Url.SchemeKind.of u.scheme).isSpecial host := by
    rw [hscheme]
    exact Url.isRead_of_readHost hw.valid.host.ne_nil hread
  refine ⟨u, host, hparse, hhost, hisRead, bare_eq hisRead, rfl, ?_⟩
  cases hp : u.port with
  | none => simp
  | some n =>
      rw [hp] at hkept
      exact hbound n (Option.eq_some_of_filter_eq_some hkept.symm)

end Capture

namespace PinStore

/-- **The target of a tunnel is that of the connection, and is read back unless it is an IPv6
address.**  Every URL that is accepted has a host.  For every store, time and network, an
acquisition through a proxy that can be reached asks for one tunnel, to that host and to the port of
the URL, and the request has this target as its second word and as that of its `Host` header.  In
every scheme with ports (if that of the URL is not special, in every other one that is not), the
target of a name or an IPv4 address is read as the authority of a URL with exactly this host and
this port.  The target of an IPv6 address is no authority at all; with the brackets that the address
has in the URL it would be one. -/
theorem acquire_names_target {text : String} {target : Endpoint}
    (h : Capture.targetOf text = .ok target) :
    ∃ u host, Url.parse text = .ok u ∧ u.host = some host ∧
      target = ⟨host.bare, u.port.getD 443⟩ ∧
      (∀ (s : PinStore) (now : Timestamp) (net : Network), net.outage = none →
        (Proxy.resolve s.proxy s.environment target.host).isSome →
        net.since (s.acquire now text net).2.2 = [.connect (Tunnel.request target)]) ∧
      Text.words (Tunnel.request target).toList =
        ["CONNECT", target.text, "HTTP/1.1", "Host:", target.text].map String.toList ∧
      ∀ scheme, Url.HasPorts scheme →
        ((Url.SchemeKind.of (Text.lowerAscii scheme)).isSpecial = true →
          (Url.SchemeKind.of u.scheme).isSpecial = true) →
        ((∀ pieces, host ≠ .ipv6 pieces) →
          Url.ReadsAs scheme target.text target.host target.port) ∧
        (∀ pieces, host = .ipv6 pieces →
          ∃ cause, Url.parse (Url.ofAuthority scheme target.text) = .error cause) ∧
        Url.ReadsAs scheme (host.write ++ ":" ++ toString target.port) host.write target.port := by
  obtain ⟨u, host, hparse, hhost, hread, hname, hport, hbound⟩ := Capture.spec_of_targetOf h
  have htarget : target = ⟨host.bare, u.port.getD 443⟩ := by
    cases target
    simp only at hname hport
    rw [hname, hport]
  have hvisible := Url.isVisible_of_mem_hostPort hread.isVisible_bare target.port
  rw [← hname] at hvisible
  refine ⟨u, host, hparse, hhost, htarget, ?_, Tunnel.words_request hvisible, ?_⟩
  · intro s now net hnet hproxy
    rw [acquire_network h, Capture.chain_network, Capture.reach_network, if_pos ⟨hproxy, hnet⟩]
    simp [Network.since]
  · intro scheme hscheme hkind
    have hwrite := Url.readsAs_write hread hbound hscheme hkind
    refine ⟨fun hplain => ?_, ?_, hwrite⟩
    · rw [Endpoint.text, hname, ← host.write_eq_bare_iff.mpr hplain]
      exact hwrite
    · rintro pieces rfl
      rw [Endpoint.text, hname]
      exact Url.parse_bare_ipv6 hread.isAddress _ hscheme

/-- The store with a proxy. -/
def proxiedStore : PinStore :=
  { sampleStore with proxy := some "http://proxy.lab:3128" }

/-- The target of a name with a port is read back. -/
theorem acquire_names_target_name :
    Capture.targetOf "https://Idp.Test:8443/" = .ok ⟨"idp.test", 8443⟩ ∧
      sampleNet.since (proxiedStore.acquire (.ofUnix 60) "https://Idp.Test:8443/" sampleNet).2.2 =
        [.connect (Tunnel.request ⟨"idp.test", 8443⟩)] ∧
      Text.words (Tunnel.request ⟨"idp.test", 8443⟩).toList =
        ["CONNECT", "idp.test:8443", "HTTP/1.1", "Host:", "idp.test:8443"].map String.toList ∧
      Url.ReadsAs "https" "idp.test:8443" "idp.test" 8443 := by
  have htarget : Capture.targetOf "https://Idp.Test:8443/" = .ok ⟨"idp.test", 8443⟩ := by
    decide
  have hurl : Url.parse "https://Idp.Test:8443/" = .ok ⟨"https", true, "", none,
      some (.name "idp.test"), some 8443, .segments [""], none, none⟩ := by
    decide
  have hproxy : (Proxy.resolve proxiedStore.proxy proxiedStore.environment "idp.test").isSome := by
    decide
  have hports : Url.HasPorts "https" := ⟨⟨by decide, by decide, by decide⟩, by decide⟩
  obtain ⟨u, host, hparse, hhost, -, hseen, hwords, hread⟩ := acquire_names_target htarget
  obtain rfl : u = _ := Except.ok.inj (hparse.symm.trans hurl)
  obtain rfl : host = .name "idp.test" := (Option.some.inj hhost).symm
  exact ⟨htarget, hseen proxiedStore (.ofUnix 60) sampleNet rfl hproxy, hwords,
    (hread "https" hports fun _ => by decide).1 fun pieces h => nomatch h⟩

/-- **An address that runs into the port.**  The target that is sent is no authority; the one with
brackets is, and names host and port. -/
theorem tunnel_runs_into_port :
    Capture.targetOf "https://[2001:db8::1]/" = .ok ⟨"2001:db8::1", 443⟩ ∧
      sampleNet.since (proxiedStore.acquire (.ofUnix 60) "https://[2001:db8::1]/" sampleNet).2.2 =
        [.connect "CONNECT 2001:db8::1:443 HTTP/1.1\r\nHost: 2001:db8::1:443\r\n\r\n"] ∧
      Url.parse "https://2001:db8::1:443" = .error .invalidPort ∧
      Url.parse "https://[2001:db8::1]:443" = .ok ⟨"https", true, "", none,
        some (.ipv6 [0x2001, 0xdb8, 0, 0, 0, 0, 0, 1]), none, .segments [""], none, none⟩ := by
  decide

end PinStore

end SignOn
