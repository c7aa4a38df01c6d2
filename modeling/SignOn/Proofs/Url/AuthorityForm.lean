import SignOn.Proofs.Url.HostReadBack
import SignOn.Proofs.Url.Kept
/-!
# Host and port as an authority

Host and port with a colon between them are the authority of a URL.  If the host is written as it is
in a URL, both are read back from it in every scheme that has ports (`readsAs_write`).  An IPv6
address without its brackets is cut at its own first colon, and what follows is no port, so there it
is not read at all (`parse_bare_ipv6`).
-/

namespace SignOn.Url

/-- A scheme that has ports. -/
structure HasPorts (scheme : String) : Prop where
  written : IsScheme scheme.toList
  ported : SchemeKind.of (Text.lowerAscii scheme) ≠ .file

/-- The URL of an authority and nothing else. -/
def ofAuthority (scheme authority : String) : String :=
  scheme ++ "://" ++ authority

/-- An authority is read in a scheme as a host and a port, written or that of the scheme. -/
def ReadsAs (scheme authority host : String) (port : Nat) : Prop :=
  ∃ u, parse (ofAuthority scheme authority) = .ok u ∧ u.hostText? = some host ∧
    u.port.or (defaultPort? u.scheme) = some port

/-- A text in visible characters is read as it stands. -/
theorem cleaned_of_lt {s : List Char} (h : ∀ c ∈ s, 32 < c.toNat) : cleaned s = s := by
  have hnone : ∀ c ∈ s, decide (c.toNat ≤ 32) = false := by simpa using h
  have hstart : s.dropWhile (·.toNat ≤ 32) = s :=
    Text.dropWhile_eq_self fun c hc => hnone c (List.mem_of_mem_head? hc)
  have hend : Text.dropEndWhile (·.toNat ≤ 32) s = s := by
    have hfront := Text.dropEndWhile_append (p := (·.toNat ≤ 32)) [] fun c hc =>
      hnone c (List.mem_of_mem_getLast? hc)
    simpa [Text.dropEndWhile] using hfront
  rw [cleaned, Text.trimWhile, hstart, hend]
  exact List.filter_eq_self.mpr fun c hc => isKept_of_lt (h c hc)

/-- What ends an authority in any scheme ends it in the special ones. -/
theorem endsAuthority_of_special {c : Char} (h : endsAuthority true c = false) (special : Bool) :
    endsAuthority special c = false := by
  cases special with
  | true => exact h
  | false =>
      simp only [endsAuthority, isSlash, Bool.true_and, Bool.false_and, Bool.or_false,
        Bool.or_eq_false_iff] at h ⊢
      exact ⟨⟨h.1.1.1, h.1.2⟩, h.2⟩

/-- A character that stands in an authority as it is. -/
structure IsVisible (c : Char) : Prop where
  low : 32 < c.toNat
  high : c.toNat < 127
  noMark : c ≠ '@'
  inside : endsAuthority true c = false

instance (c : Char) : Decidable (IsVisible c) :=
  decidable_of_iff (32 < c.toNat ∧ c.toNat < 127 ∧ c ≠ '@' ∧ endsAuthority true c = false)
    ⟨fun h => ⟨h.1, h.2.1, h.2.2.1, h.2.2.2⟩, fun h => ⟨h.low, h.high, h.noMark, h.inside⟩⟩

theorem isVisible_of_isPrinted {c : Char} (h : IsPrinted c) : IsVisible c :=
  Text.forall_ascii (P := fun c => IsPrinted c → IsVisible c) (by decide)
    (Nat.lt_succ_of_lt h.2.1) h

theorem isVisible_of_isDigit {c : Char} (h : c.isDigit = true) : IsVisible c :=
  isVisible_of_isPrinted (isPrinted_of_isPlain (.inr (DomainName.isPlain_of_decimal h)))

/-- An address is written in visible characters, and without brackets of its own. -/
theorem isVisible_of_isAddressChar {c : Char} (h : Host.IsAddressChar c) :
    IsVisible c ∧ c ≠ '[' ∧ c ≠ ']' := by
  have hascii : c.toNat < 128 := by
    rcases h with rfl | rfl | h
    · decide
    · decide
    · unfold Hex.value? at h
      by_contra hle
      rw [if_neg (by omega), if_neg (by omega), if_neg (by omega)] at h
      cases h
  exact Text.forall_ascii (P := fun c => Host.IsAddressChar c → IsVisible c ∧ c ≠ '[' ∧ c ≠ ']')
    (by decide) hascii h

/-- A host is visible without the brackets of a URL. -/
theorem IsRead.isVisible_bare {special : Bool} {host : Host} (h : IsRead special host) :
    ∀ c ∈ host.bare.toList, IsVisible c := by
  by_cases hhost : ∀ pieces, host ≠ .ipv6 pieces
  · rw [← host.write_eq_bare_iff.mpr hhost]
    exact fun c hc => isVisible_of_isPrinted (h.isPrinted hhost c hc)
  · obtain ⟨pieces, rfl⟩ : ∃ pieces, host = .ipv6 pieces := by simpa using hhost
    have hchars := (Host.ipv6?_spec (Host.ipv6?_writeIpv6 h.isAddress)).1
    exact fun c hc => (isVisible_of_isAddressChar (hchars c hc)).1

/-- The text of a host is visible. -/
theorem IsRead.isVisible {special : Bool} {host : Host} (h : IsRead special host) :
    ∀ c ∈ host.write.toList, IsVisible c := by
  have hbare := h.isVisible_bare
  by_cases hhost : ∀ pieces, host ≠ .ipv6 pieces
  · rwa [host.write_eq_bare_iff.mpr hhost]
  · obtain ⟨pieces, rfl⟩ : ∃ pieces, host = .ipv6 pieces := by simpa using hhost
    intro c hc
    simp only [toList_write_ipv6, List.mem_cons, List.mem_append, List.not_mem_nil,
      or_false] at hc
    rcases hc with rfl | hc | rfl
    · decide
    · exact hbare c hc
    · decide

/-- A port is read back from its digits. -/
theorem readPort_toString (scheme : String) {port : Nat} (h : port ≤ 65535) :
    readPort scheme (some (toString port).toList) =
      .ok (if defaultPort? scheme = some port then none else some port) := by
  have hread := Text.digitsToNat?_padded 0 port
  have hsame : (Text.padded 0 port).toList = (toString port).toList := by
    simp [Text.toList_padded]
  rw [hsame] at hread
  unfold Text.digitsToNat? at hread
  split at hread
  · next hdigits =>
    have hvalue := Option.some.inj hread
    simp only [readPort, parsePort]
    rw [if_pos hdigits.2, hvalue, if_neg (by omega)]
    simp
  · cases hread

/-- The parts of the URL of a host and a port. -/
def ofHostPort (scheme host : String) (port : Nat) : Written where
  scheme := scheme.toList
  slashes := ['/', '/']
  userinfo := none
  host := host.toList
  port := some (toString port).toList
  tail := []

theorem text_ofHostPort (scheme host : String) (port : Nat) :
    (ofHostPort scheme host port).text =
      (ofAuthority scheme (host ++ ":" ++ toString port)).toList := by
  simp [ofHostPort, Written.text, Written.outline, Outline.text, Outline.body, Written.authority,
    Written.hostPort, Written.portText, ofAuthority]

/-- Two slashes lead to the authority in every scheme that has ports. -/
theorem opens_two {kind : SchemeKind} : kind.Opens ['/', '/'] := by
  cases kind <;> decide

/-- Host and port are in visible characters, the scheme too. -/
theorem isVisible_of_mem_hostPort {host : String} (hhost : ∀ c ∈ host.toList, IsVisible c)
    (port : Nat) : ∀ c ∈ (host ++ ":" ++ toString port).toList, IsVisible c := by
  intro c hc
  simp only [String.toList_append, List.mem_append] at hc
  rcases hc with (hc | hc) | hc
  · exact hhost c hc
  · obtain rfl : c = ':' := by simpa using hc
    decide
  · exact isVisible_of_isDigit (Text.isDigit_of_mem_toString hc)

/-- The parser drops nothing of a URL with a visible authority. -/
theorem cleaned_ofAuthority {scheme authority : String} (hscheme : IsScheme scheme.toList)
    (h : ∀ c ∈ authority.toList, IsVisible c) :
    cleaned (ofAuthority scheme authority).toList = (ofAuthority scheme authority).toList := by
  refine cleaned_of_lt fun c hc => ?_
  simp only [ofAuthority, String.toList_append, List.mem_append] at hc
  rcases hc with (hc | hc) | hc
  · exact lt_of_isSchemeChar (hscheme.chars c hc)
  · have hmark : ∀ c ∈ "://".toList, 32 < c.toNat := by decide
    exact hmark c hc
  · exact (h c hc).low

/-- The parts of a host that is read and a port are those of their URL. -/
theorem writes_ofHostPort {special : Bool} {host : Host} (h : IsRead special host) (port : Nat)
    {scheme : String} (hscheme : IsScheme scheme.toList) :
    (ofHostPort scheme host.write port).Writes
      (ofAuthority scheme (host.write ++ ":" ++ toString port)) := by
  have hvisible := isVisible_of_mem_hostPort h.isVisible port
  have hauthority : (ofHostPort scheme host.write port).hostPort =
      (host.write ++ ":" ++ toString port).toList := by
    simp [ofHostPort, Written.hostPort, Written.portText]
  obtain ⟨hne, hread⟩ : host.write.toList ≠ [] ∧
      readHost special host.write.toList = .ok host := ⟨h.write_ne_nil, h.readHost_write⟩
  refine ⟨⟨hscheme, opens_two, fun c hc => ?_, (isHostText_of_readHost hne hread).1, ?_, ?_⟩, ?_⟩
  · change c ∈ (ofHostPort scheme host.write port).hostPort at hc
    rw [hauthority] at hc
    exact endsAuthority_of_special (hvisible c hc).inside _
  · rw [hauthority]
    exact fun hat => (hvisible '@' hat).noMark rfl
  · simp [ofHostPort]
  · rw [text_ofHostPort, cleaned_ofAuthority hscheme hvisible]

/-- **Host and port are read back** from the authority that they are written as. -/
theorem readsAs_write {special : Bool} {host : Host} (h : IsRead special host) {port : Nat}
    (hport : port ≤ 65535) {scheme : String} (hscheme : HasPorts scheme)
    (hkind : (SchemeKind.of (Text.lowerAscii scheme)).isSpecial = true → special = true) :
    ReadsAs scheme (host.write ++ ":" ++ toString port) host.write port := by
  obtain ⟨read, hread, hwrite⟩ := h.exists_readHost hkind
  have hparse := (writes_ofHostPort h port hscheme.written).parse_eq hscheme.ported
  have hparts : (parse (ofAuthority scheme (host.write ++ ":" ++ toString port))).map
      (fun u => (u.scheme, u.host, u.port)) = .ok (Text.lowerAscii scheme, some read,
        if defaultPort? (Text.lowerAscii scheme) = some port then none else some port) := by
    rw [hparse]
    change (readHost (SchemeKind.of (Text.lowerAscii scheme)).isSpecial host.write.toList).bind
      (fun h => (readPort (Text.lowerAscii scheme) (some (toString port).toList)).map _) = _
    rw [hread, readPort_toString _ hport]
    rfl
  obtain ⟨u, hurl, hform⟩ := map_eq_ok_iff.mp hparts
  simp only [Prod.mk.injEq] at hform
  obtain ⟨hname, hhost, hnumber⟩ := hform
  refine ⟨u, hurl, by rw [hostText?, hhost, Option.map_some, hwrite], ?_⟩
  rw [hname, hnumber]
  split
  · next hdefault => rw [Option.none_or, hdefault]
  · rfl

/-- What stands behind the first colon is the port, and no colon is in a port. -/
theorem parseHostPort_two_colons (kind : SchemeKind) (scheme : String) {host port : List Char}
    (hhost : ∀ c ∈ host, c ≠ ':' ∧ c ≠ '[' ∧ c ≠ ']') (hport : ':' ∈ port) :
    ∃ cause, parseHostPort kind scheme (host ++ ':' :: port) = .error cause := by
  have hread : parsePort scheme port = .error .invalidPort := by
    have hdigits : ¬port.all Char.isDigit = true := fun hall =>
      absurd (List.all_eq_true.mp hall ':' hport) (by decide)
    rw [parsePort, if_neg hdigits]
  unfold parseHostPort
  rw [cutHost_plain hhost (by simp)]
  by_cases hempty : host = []
  · exact ⟨.emptyHost, by simp [hempty, throw, throwThe, MonadExceptOf.throw]⟩
  · simp only [hempty, if_false, List.drop_one, List.tail_cons, hread, reduceCtorEq]
    cases kind with
    | other => cases Host.parseOpaque host <;> exact ⟨_, rfl⟩
    | hosted => cases Host.parse host <;> exact ⟨_, rfl⟩
    | file => cases Host.parse host <;> exact ⟨_, rfl⟩

/-- **An IPv6 address without brackets is no authority**: in no scheme with ports is it read. -/
theorem parse_bare_ipv6 {pieces : List Nat} (h : Host.IsAddress pieces) (port : Nat)
    {scheme : String} (hscheme : HasPorts scheme) :
    ∃ cause, parse (ofAuthority scheme (Host.writeIpv6 pieces ++ ":" ++ toString port)) =
      .error cause := by
  have hread := Host.ipv6?_writeIpv6 h
  have hchars : ∀ c ∈ (Host.writeIpv6 pieces).toList, IsVisible c ∧ c ≠ '[' ∧ c ≠ ']' :=
    fun c hc => isVisible_of_isAddressChar ((Host.ipv6?_spec hread).1 c hc)
  have hvisible := isVisible_of_mem_hostPort (fun c hc => (hchars c hc).1) port
  let o : Outline := ⟨scheme.toList, ['/', '/'],
    (Host.writeIpv6 pieces ++ ":" ++ toString port).toList, []⟩
  have ho : o.Valid := by
    refine ⟨hscheme.written, opens_two, fun _ c hc => ?_, fun c hc => ?_, by simp [o]⟩
    · have hend := (hvisible c (by simpa [o] using List.mem_of_mem_head? hc)).inside
      rw [endsAuthority_eq, Bool.or_eq_false_iff] at hend
      exact hend.1
    · exact endsAuthority_of_special (hvisible c hc).inside _
  have htext : cleaned (ofAuthority scheme
      (Host.writeIpv6 pieces ++ ":" ++ toString port)).toList = o.text := by
    rw [cleaned_ofAuthority hscheme.written hvisible]
    simp [o, Outline.text, Outline.body, ofAuthority]
  -- The first colon is one of the address, and that before the port is behind it.
  obtain ⟨front, back, hcolon, hfront⟩ := List.eq_append_cons_of_mem (Host.colon_mem_of_ipv6? hread)
  have hauthority : o.authority = front ++ ':' :: (back ++ ':' :: (toString port).toList) := by
    simp [o, hcolon]
  have hplain : ∀ c ∈ front, c ≠ ':' ∧ c ≠ '[' ∧ c ≠ ']' := fun c hc =>
    ⟨fun heq => hfront (heq ▸ hc), (hchars c (by simp [hcolon, hc])).2⟩
  obtain ⟨cause, hcause⟩ : ∃ cause, parseAuthority o.kind o.schemeName o.authority =
      .error cause := by
    have hat : Text.cutAtLast? (· == '@') o.authority = none := by
      rw [Text.cutAtLast?_eq_none_iff]
      exact fun c hc => beq_eq_false_iff_ne.mpr (hvisible c hc).noMark
    have hbehind : ':' ∈ back ++ ':' :: (toString port).toList := by simp
    obtain ⟨cause, hcause⟩ := parseHostPort_two_colons o.kind o.schemeName hplain hbehind
    rw [← hauthority] at hcause
    exact ⟨cause, by rw [parseAuthority, hat]; simp only [hcause]; rfl⟩
  cases hurl : parse (ofAuthority scheme (Host.writeIpv6 pieces ++ ":" ++ toString port)) with
  | error cause => exact ⟨cause, rfl⟩
  | ok u =>
      obtain ⟨-, a, ha, -⟩ := ho.authority_spec hscheme.ported htext hurl
      rw [hcause] at ha
      cases ha

end SignOn.Url
