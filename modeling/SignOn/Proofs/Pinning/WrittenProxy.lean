import SignOn.Pinning.Proxy
import SignOn.Proofs.Url.Kept
/-!
# Proxies as they are written

The value of a proxy is read twice: by the parser of URLs, which keeps no port that is the default
of the scheme, and for the port once more as it stands.  Both look at the same parts of it
(`explicitPort?_eq`, `Url.Written.Plain.writes_kept`), so the port is the one that is written, or
8080 if none is, and the host is the one that is written, in the form that it has in a URL
(`resolve_reads_written`).  That form is the host itself unless it is an IPv6 address, which keeps
the brackets of the URL.
-/

namespace SignOn

namespace Proxy

variable {w : Url.Written}

/-- A port in digits is read if it is not above 65535. -/
theorem port?_of_digits {s : List Char} (h : ∀ c ∈ s, c.isDigit = true) :
    port? s = (Text.digitsToNat? s).filter (· ≤ 65535) := by
  unfold port?
  split
  · exact absurd (h '+' (by simp)) (by decide)
  · cases Text.digitsToNat? s with
    | none => rfl
    | some n => by_cases hn : n ≤ 65535 <;> simp [Option.filter, hn]

/-- The port is looked for behind the user info. -/
theorem writtenPort?_authority (hw : w.Valid) :
    writtenPort? w.authority = writtenPort? w.hostPort := by
  unfold writtenPort?
  rw [hw.cut_authority, hw.cut_hostPort]
  cases hinfo : w.userinfo with
  | none => simp only [Option.map_none, Url.Written.authority, hinfo, Option.elim]
  | some info => simp only [Option.map_some]

/-- The port is found behind the host. -/
theorem writtenPort?_hostPort (hw : w.Valid) (hdigits : ∀ s ∈ w.port, ∀ c ∈ s, c.isDigit = true) :
    writtenPort? w.hostPort = w.port.bind port? := by
  have hne (d : Char) (hd : d.isDigit = false) : ∀ s ∈ w.port, ∀ c ∈ s, (c == d) = false := by
    intro s hs c hc
    rw [beq_eq_false_iff_ne]
    rintro rfl
    simp [hdigits s hs c hc] at hd
  unfold writtenPort?
  rw [hw.cut_hostPort]
  simp only
  rcases hw.host with ⟨inner, hhost, hinner⟩ | ⟨-, hplain⟩
  · have hcut : Text.cutAtLast? (· == ']') w.hostPort = some ('[' :: inner, w.portText) := by
      refine Text.cutAtLast?_eq_some_iff.mpr
        ⟨']', by simp [Url.Written.hostPort, hhost], by simp, ?_⟩
      cases hport : w.port with
      | none => simp [Url.Written.portText, hport]
      | some s => simpa [Url.Written.portText, hport] using hne ']' (by decide) s hport
    rw [hcut]
    cases hport : w.port with
    | none => simp [Url.Written.portText, hport]
    | some s => simp [Url.Written.portText, hport]
  · have hnone : ∀ c ∈ w.hostPort, (c == ']') = false := by
      intro c hc
      rcases List.mem_append.mp hc with hc | hc
      · exact beq_eq_false_iff_ne.mpr (hplain c hc).2.2
      · cases hport : w.port with
        | none => simp [Url.Written.portText, hport] at hc
        | some s =>
            simp only [Url.Written.portText, hport, Option.elim, List.mem_cons] at hc
            rcases hc with rfl | hc
            · decide
            · exact hne ']' (by decide) s hport c hc
    rw [Text.cutAtLast?_eq_none_iff.mpr hnone]
    cases hport : w.port with
    | none =>
        have hcolon : Text.cutAtLast? (· == ':') w.hostPort = none := by
          rw [Text.cutAtLast?_eq_none_iff]
          intro c hc
          exact beq_eq_false_iff_ne.mpr
            (hplain c (by simpa [Url.Written.hostPort, Url.Written.portText, hport] using hc)).1
        simp [hcolon]
    | some s =>
        have hcolon : Text.cutAtLast? (· == ':') w.hostPort = some (w.host, s) :=
          Text.cutAtLast?_eq_some_iff.mpr
            ⟨':', by simp [Url.Written.hostPort, Url.Written.portText, hport], by simp,
              hne ':' (by decide) s hport⟩
        simp [hcolon]

/-- **The port as it stands** in a text is that of the parts. -/
theorem explicitPort?_eq (hw : w.Plain) (hvalid : w.Valid) :
    explicitPort? (String.ofList w.text) = w.port.bind port? := by
  have hscheme : ':' ∉ w.scheme := fun hcolon =>
    absurd (hvalid.scheme.chars ':' hcolon) (by decide)
  have htext : w.text = w.scheme ++ ([':', '/', '/'] ++ (w.authority ++ w.tail)) := by
    simp [Url.Written.text, Url.Written.outline, Url.Outline.text, Url.Outline.body, hw.slashes]
  have hauthority : ∀ c ∈ w.authority, decide (c ≠ '/' ∧ c ≠ '?' ∧ c ≠ '#') = true := by
    intro c hc
    have hin := hvalid.authority c hc
    simp only [Url.endsAuthority, Url.isSlash, Bool.or_eq_false_iff, beq_eq_false_iff_ne] at hin
    simpa using ⟨hin.1.1.1, hin.1.2, hin.2⟩
  have htake : (w.authority ++ w.tail).takeWhile (fun c => decide (c ≠ '/' ∧ c ≠ '?' ∧ c ≠ '#')) =
      w.authority := by
    rw [List.takeWhile_append_of_pos hauthority]
    cases htail : w.tail with
    | nil => simp
    | cons c rest =>
        have hc := hw.tail c (by simp [htail])
        rw [List.takeWhile_cons_of_neg (by rcases hc with rfl | rfl | rfl <;> decide),
          List.append_nil]
  unfold explicitPort? authority?
  rw [String.toList_ofList, htext, Text.cutAtText?_append _ hscheme]
  simp only [bind, Option.bind, pure, htake]
  rw [writtenPort?_authority hvalid]
  exact writtenPort?_hostPort hvalid hw.port

/-- A value writes a URL, blanks around it apart: all of it, or the URL is one of `http` and its
scheme is left out with the slashes, and the value has no `://` elsewhere. -/
structure Names (value : String) (w : Url.Written) : Prop where
  valid : w.Valid
  plain : w.Plain
  text : (Text.trim value).toList = w.text ∨
    w.scheme = ['h', 't', 't', 'p'] ∧ (Text.trim value).toList = w.authority ++ w.tail ∧
      Text.containsText "://" (Text.trim value) = false

/-- The text of the URL that a value writes. -/
theorem Names.urlText {value : String} (h : Names value w) :
    (if Text.containsText "://" (Text.trim value) then Text.trim value
      else "http://" ++ Text.trim value) = String.ofList w.text := by
  have htext : w.text = w.scheme ++ ([':', '/', '/'] ++ (w.authority ++ w.tail)) := by
    simp [Url.Written.text, Url.Written.outline, Url.Outline.text, Url.Outline.body,
      h.plain.slashes]
  rcases h.text with hwhole | ⟨hscheme, hpart, hnone⟩
  · have hcut : Text.containsText "://" (Text.trim value) = true := by
      have hcolon : ':' ∉ w.scheme := fun hcolon =>
        absurd (h.valid.scheme.chars ':' hcolon) (by decide)
      have hmark : "://".toList = [':', '/', '/'] := by decide
      rw [Text.containsText, hwhole, htext, hmark, Text.cutAtText?_append _ hcolon]
      rfl
    rw [if_pos hcut, ← String.toList_inj, String.toList_ofList, hwhole]
  · rw [hnone, ← String.toList_inj, String.toList_ofList, htext, hscheme]
    simp [hpart]

/-- A value that writes a URL is not blank. -/
theorem Names.isWritten {value : String} (h : Names value w) : isWritten value = true := by
  have hne : (Text.trim value).toList ≠ [] := by
    rcases h.text with hwhole | ⟨-, hpart, -⟩
    · rw [hwhole]
      exact List.append_ne_nil_of_right_ne_nil _ (List.cons_ne_nil _ _)
    · rw [hpart]
      exact List.append_ne_nil_of_left_ne_nil (Url.Written.authority_ne_nil h.valid) _
  have hsome : Text.trim value ≠ "" := fun hempty => hne (by simp [hempty])
  simpa [Proxy.isWritten, String.isEmpty_iff] using hsome

/-- **A proxy is read as it is written.**  For every value that writes a URL with a host, whatever
its user info and its rest are, and in every environment: the port of the proxy is the one that is
written, also if it is the default of the scheme, and 8080 if none is, and the host is the one that
is read from the host part, as a URL writes it.  That is the name or the address itself if and only
if it is not an IPv6 address. -/
theorem resolve_reads_written {value : String} (h : Names value w) {u : Url}
    (hparse : Url.parse (String.ofList w.text) = .ok u) {host : Url.Host}
    (hhost : u.host = some host) (env : String → Option String) (target : String) :
    resolve (some value) env target = some ⟨host.write, w.portNumber?.getD 8080⟩ ∧
      Url.readHost w.kind.isSpecial w.host = .ok host ∧
      (resolve (some value) env target = some ⟨host.bare, w.portNumber?.getD 8080⟩ ↔
        ∀ pieces, host ≠ .ipv6 pieces) := by
  obtain ⟨-, hread, hport⟩ := (h.plain.writes_kept h.valid).spec hparse hhost
  obtain ⟨-, hbound, hkept⟩ := Url.readPort_spec hport
  change ∀ n ∈ w.portNumber?, n ≤ 65535 at hbound
  change u.port = w.portNumber?.filter (Url.defaultPort? w.schemeName ≠ some ·) at hkept
  have hexplicit : explicitPort? (String.ofList w.text) = w.portNumber? := by
    rw [explicitPort?_eq h.plain h.valid]
    cases hp : w.port with
    | none => simp [Url.Written.portNumber?, hp]
    | some s =>
        have hnumber : w.portNumber? = Text.digitsToNat? s := by simp [Url.Written.portNumber?, hp]
        rw [Option.bind_some, port?_of_digits (h.plain.port s hp), hnumber]
        rw [hnumber] at hbound
        cases hn : Text.digitsToNat? s with
        | none => rfl
        | some n => simp [Option.filter, hbound n hn]
  have hresolve : resolve (some value) env target =
      some ⟨host.write, w.portNumber?.getD 8080⟩ := by
    have hport : u.port.or w.portNumber? = w.portNumber? := by
      rw [hkept]
      cases hnumber : w.portNumber? with
      | none => rfl
      | some n =>
          by_cases hdefault : Url.defaultPort? w.schemeName = some n <;>
            simp [Option.filter, hdefault]
    have hread : parse? value = some ⟨host.write, w.portNumber?.getD 8080⟩ := by
      unfold parse?
      simp only [h.urlText, hparse, hexplicit, Except.toOption, Url.hostText?, hhost, bind,
        Option.bind_some, Option.map_some, pure, Option.some.injEq, Endpoint.mk.injEq, true_and]
      refine Eq.trans ?_ (congrArg (·.getD 8080) hport)
      cases u.port <;> rfl
    simp only [resolve, Option.filter, h.isWritten, if_true, hread]
  refine ⟨hresolve, hread, ?_⟩
  rw [hresolve, ← host.write_eq_bare_iff]
  simp

/-- The parts of `http://bob:p@ss@Proxy.Lab:80/x`. -/
def labUrl : Url.Written where
  scheme := ['h', 't', 't', 'p']
  slashes := ['/', '/']
  userinfo := some ['b', 'o', 'b', ':', 'p', '@', 's', 's']
  host := ['P', 'r', 'o', 'x', 'y', '.', 'L', 'a', 'b']
  port := some ['8', '0']
  tail := ['/', 'x']

/-- The default port of a scheme that is left out is kept, behind user info with colon and `@`. -/
theorem resolve_reads_written_default :
    Names " bob:p@ss@Proxy.Lab:80/x" labUrl ∧
      resolve (some " bob:p@ss@Proxy.Lab:80/x") (fun _ => none) "idp" =
        some ⟨"proxy.lab", 80⟩ := by
  have hnames : Names " bob:p@ss@Proxy.Lab:80/x" labUrl :=
    ⟨⟨⟨by decide, by decide, by decide⟩, by decide, by decide, .inr (by decide),
        by decide, by decide⟩,
      ⟨rfl, by decide, by decide, by decide⟩,
      .inr ⟨rfl, by decide, by decide⟩⟩
  have hparse : Url.parse (String.ofList labUrl.text) = .ok ⟨"http", true, "bob", some "p%40ss",
      some (.name "proxy.lab"), none, .segments ["x"], none, none⟩ := by
    decide
  have hnumber : labUrl.portNumber? = some 80 := by decide
  refine ⟨hnames, ?_⟩
  rw [(resolve_reads_written hnames hparse rfl (fun _ => none) "idp").1, hnumber]
  rfl

/-- The parts of `http://[::1]:3128`. -/
def loopbackUrl : Url.Written where
  scheme := ['h', 't', 't', 'p']
  slashes := ['/', '/']
  userinfo := none
  host := ['[', ':', ':', '1', ']']
  port := some ['3', '1', '2', '8']
  tail := []

/-- **An address in brackets.**  The host of the proxy is not the address that is written but the
text of it in a URL. -/
theorem resolve_keeps_brackets :
    Names "http://[::1]:3128" loopbackUrl ∧
      Url.readHost true loopbackUrl.host = .ok (.ipv6 [0, 0, 0, 0, 0, 0, 0, 1]) ∧
      (Url.Host.ipv6 [0, 0, 0, 0, 0, 0, 0, 1]).bare = "::1" ∧
      resolve (some "http://[::1]:3128") (fun _ => none) "idp" = some ⟨"[::1]", 3128⟩ := by
  have hvalid : loopbackUrl.Valid :=
    ⟨⟨by decide, by decide, by decide⟩, by decide, by decide,
      .inl ⟨[':', ':', '1'], rfl, by decide⟩, by decide, by decide⟩
  exact ⟨⟨hvalid, ⟨rfl, by decide, by decide, by decide⟩, .inl (by decide)⟩,
    by decide, by decide, by decide⟩

end Proxy

end SignOn
