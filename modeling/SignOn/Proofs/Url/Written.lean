import SignOn.Proofs.Url.Outline
/-!
# URLs as they are written

The authority of a URL is user info, host and port with their marks between them (`Written`).  The
parser reads host and port each from its own part, whatever the others are (`Written.Valid.spec`,
`Written.Valid.parse_eq`), and every text that it reads as a URL with a host is written in such
parts (`exists_written`).  That there are no more colons and brackets than the marks is because a
host with one of them is not read.
-/

namespace SignOn.Url

/-- A URL as it is written, in parts: the scheme without its colon, the slashes behind it, the user
info without its `@`, the host, the port without its colon, and the rest. -/
structure Written where
  scheme : List Char
  slashes : List Char
  userinfo : Option (List Char)
  host : List Char
  port : Option (List Char)
  tail : List Char

namespace Written

variable (w : Written)

/-- The port behind its colon. -/
def portText : List Char :=
  w.port.elim [] (':' :: ·)

/-- Host and port with the colon between them. -/
def hostPort : List Char :=
  w.host ++ w.portText

/-- User info, host and port. -/
def authority : List Char :=
  w.userinfo.elim w.hostPort (· ++ '@' :: w.hostPort)

/-- The parts in outline. -/
def outline : Outline :=
  ⟨w.scheme, w.slashes, w.authority, w.tail⟩

/-- The name of the scheme. -/
def schemeName : String :=
  w.outline.schemeName

/-- The kind of the scheme. -/
def kind : SchemeKind :=
  w.outline.kind

/-- The text of all parts. -/
def text : List Char :=
  w.outline.text

/-- The number of the port, if one is written; no digits are none. -/
def portNumber? : Option Nat :=
  w.port.bind Text.digitsToNat?

end Written

/-- The parts are what they are called: none goes on into the next. -/
structure Written.Valid (w : Written) : Prop where
  scheme : IsScheme w.scheme
  slashes : w.kind.Opens w.slashes
  authority : ∀ c ∈ w.authority, endsAuthority w.kind.isSpecial c = false
  host : IsHostText w.host
  hostPort : '@' ∉ w.hostPort
  tail : ∀ c ∈ w.tail.head?, endsAuthority w.kind.isSpecial c = true

/-- A text is a URL in these parts, but for what the parser drops from it. -/
structure Written.Writes (w : Written) (text : String) : Prop where
  valid : w.Valid
  text : cleaned text.toList = w.text

/-- The port that is read; none where none is written, or only its colon, or that of the scheme. -/
def readPort (scheme : String) : Option (List Char) → Except ParseError (Option Nat)
  | none => .ok none
  | some port => parsePort scheme port

/-- A port is a number in digits that is not above 65535, and is kept if it is not that of the
scheme. -/
theorem readPort_spec {scheme : String} {port : Option (List Char)} {p : Option Nat}
    (h : readPort scheme port = .ok p) :
    (∀ s ∈ port, ∀ c ∈ s, c.isDigit = true) ∧
      (∀ n ∈ port.bind Text.digitsToNat?, n ≤ 65535) ∧
      p = (port.bind Text.digitsToNat?).filter (defaultPort? scheme ≠ some ·) := by
  cases port with
  | none =>
      cases h
      simp
  | some s =>
      simp only [readPort, parsePort] at h
      split at h
      · next hdigits =>
        split at h
        · cases h
        · next hle =>
          cases h
          have hall := List.all_eq_true.mp hdigits
          refine ⟨by simpa using hall, ?_, ?_⟩
          · intro n hn
            simp only [Option.bind_some, Text.digitsToNat?, Option.mem_def] at hn
            split at hn
            · cases hn
              omega
            · cases hn
          · by_cases hs : s = []
            · simp [hs, Text.digitsToNat?]
            · by_cases hdefault : defaultPort? scheme =
                  some (s.foldl (fun n c => 10 * n + (c.toNat - 48)) 0)
              · simp [Text.digitsToNat?, hs, hdigits, hdefault, Option.filter]
              · simp [Text.digitsToNat?, hs, hdigits, hdefault, Option.filter]
      · cases h

/-- A host without brackets ends at the first colon. -/
theorem cutHost_plain {host rest : List Char} (hhost : ∀ c ∈ host, c ≠ ':' ∧ c ≠ '[' ∧ c ≠ ']')
    (hrest : ∀ c ∈ rest.head?, c = ':') : cutHost false (host ++ rest) = (host, rest) := by
  induction host with
  | nil =>
      cases rest with
      | nil => rfl
      | cons c rest =>
          obtain rfl : c = ':' := hrest c rfl
          simp [cutHost]
  | cons c host ih =>
      obtain ⟨hc, hhost⟩ := List.forall_mem_cons.mp hhost
      simp [cutHost, hc, ih hhost]

/-- A colon ends the host unless it stands in brackets. -/
theorem cutHost_append {host rest : List Char} (hhost : IsHostText host)
    (hrest : ∀ c ∈ rest.head?, c = ':') : cutHost false (host ++ rest) = (host, rest) := by
  have hend : cutHost false ([] ++ rest) = ([], rest) := cutHost_plain (by simp) hrest
  rw [List.nil_append] at hend
  have hinner (s : List Char) (hs : ∀ c ∈ s, c ≠ '[' ∧ c ≠ ']') :
      cutHost true (s ++ ']' :: rest) = (s ++ [']'], rest) := by
    induction s with
    | nil => simp [cutHost, hend]
    | cons c s ih =>
        obtain ⟨hc, hs⟩ := List.forall_mem_cons.mp hs
        simp [cutHost, hc, ih hs]
  rcases hhost with ⟨inner, rfl, hs⟩ | ⟨-, hs⟩
  · simp [cutHost, hinner inner hs]
  · exact cutHost_plain hs hrest

/-- Host and port are cut where a colon is. -/
theorem cutHost_spec (s : List Char) : ∀ inBrackets : Bool,
    (cutHost inBrackets s).1 ++ (cutHost inBrackets s).2 = s ∧
      ∀ c ∈ (cutHost inBrackets s).2.head?, c = ':' := by
  induction s with
  | nil => simp [cutHost]
  | cons c s ih =>
      intro inBrackets
      unfold cutHost
      split
      · next hcolon => simpa using hcolon.1
      · exact ⟨congrArg (c :: ·) (ih _).1, (ih _).2⟩

/-- The port stands behind a colon. -/
theorem Written.head?_portText (w : Written) : ∀ c ∈ w.portText.head?, c = ':' := by
  unfold Written.portText
  cases w.port with
  | none => simp
  | some port => simp

/-- Host and port are read each for itself. -/
theorem parseHostPort_eq {w : Written} (hw : w.Valid) (kind : SchemeKind) (scheme : String) :
    parseHostPort kind scheme w.hostPort =
      (readHost kind.isSpecial w.host).bind fun h =>
        (readPort scheme w.port).map fun p => (some h, p) := by
  have hcut : cutHost false w.hostPort = (w.host, w.portText) :=
    cutHost_append hw.host w.head?_portText
  unfold parseHostPort readHost
  rw [hcut]
  cases kind <;> cases hport : w.port <;>
    simp only [hw.host.ne_nil, Written.portText, hport, if_false] <;> rfl

/-- No `@` stands behind that of the user info. -/
theorem Written.Valid.cut_hostPort {w : Written} (hw : w.Valid) :
    Text.cutAtLast? (· == '@') w.hostPort = none := by
  rw [Text.cutAtLast?_eq_none_iff]
  intro c hc
  rw [beq_eq_false_iff_ne]
  rintro rfl
  exact hw.hostPort hc

/-- The user info ends at the last `@`. -/
theorem Written.Valid.cut_authority {w : Written} (hw : w.Valid) :
    Text.cutAtLast? (· == '@') w.authority = w.userinfo.map fun info => (info, w.hostPort) := by
  have hlast := Text.cutAtLast?_eq_none_iff.mp hw.cut_hostPort
  unfold Written.authority
  cases w.userinfo with
  | none => exact hw.cut_hostPort
  | some info => exact Text.cutAtLast?_eq_some_iff.mpr ⟨'@', rfl, by simp, hlast⟩

/-- An authority is read as the host and the port that it writes. -/
theorem parseAuthority_eq {w : Written} (hw : w.Valid) (kind : SchemeKind) (scheme : String) :
    (parseAuthority kind scheme w.authority).map (fun a => (a.host, a.port)) =
      (readHost kind.isSpecial w.host).bind fun h =>
        (readPort scheme w.port).map fun p => (some h, p) := by
  have hread := parseHostPort_eq hw kind scheme
  unfold parseAuthority
  rw [hw.cut_authority]
  cases hinfo : w.userinfo with
  | none =>
      simp only [Option.map_none, Written.authority, hinfo, Option.elim, hread]
      cases readHost kind.isSpecial w.host with
      | error e => rfl
      | ok h => cases readPort scheme w.port <;> rfl
  | some info =>
      simp only [Option.map_some, hread]
      cases readHost kind.isSpecial w.host with
      | error e => rfl
      | ok h => cases readPort scheme w.port <;> rfl

namespace Written

variable {w : Written} {text : String}

theorem hostPort_ne_nil (hw : w.Valid) : w.hostPort ≠ [] :=
  List.append_ne_nil_of_left_ne_nil hw.host.ne_nil _

theorem authority_ne_nil (hw : w.Valid) : w.authority ≠ [] := by
  unfold authority
  cases w.userinfo with
  | none => exact hostPort_ne_nil hw
  | some info => exact List.append_ne_nil_of_right_ne_nil _ (List.cons_ne_nil _ _)

/-- The outline of a written URL. -/
theorem Valid.outline (hw : w.Valid) : w.outline.Valid := by
  refine ⟨hw.scheme, hw.slashes, ?_, hw.authority, hw.tail⟩
  intro hkind c hc
  obtain ⟨d, rest, hauthority⟩ := List.exists_cons_of_ne_nil (authority_ne_nil hw)
  obtain rfl : d = c := by simpa [Written.outline, hauthority] using hc
  have hin := hw.authority d (by simp [hauthority])
  rw [endsAuthority_eq, Bool.or_eq_false_iff, show w.kind = .hosted from hkind] at hin
  exact hin.1

/-- A host stands in the authority besides an `@`. -/
theorem Valid.authority_ne (hw : w.Valid) : w.authority ≠ ['@'] := by
  intro hat
  obtain ⟨c, rest, hhostPort⟩ := List.exists_cons_of_ne_nil (hostPort_ne_nil hw)
  unfold Written.authority at hat
  cases hinfo : w.userinfo with
  | none =>
      rw [hinfo] at hat
      exact hw.hostPort (by simp [show w.hostPort = ['@'] from hat])
  | some info =>
      rw [hinfo] at hat
      have hlength := congrArg List.length hat
      simp only [Option.elim, hhostPort, List.length_append, List.length_cons, List.length_nil]
        at hlength
      omega

/-- **Host and port of a URL** are read each from its own part. -/
theorem Writes.parse_eq (hw : w.Writes text) (hkind : w.kind ≠ .file) :
    (parse text).map (fun u => (u.scheme, u.host, u.port)) =
      (readHost w.kind.isSpecial w.host).bind fun h =>
        (readPort w.schemeName w.port).map fun p => (w.schemeName, some h, p) := by
  have hlone : ¬(w.outline.authority = ['@'] ∧ w.outline.path ≠ []) := fun h =>
    hw.valid.authority_ne h.1
  have hparts (x : Except ParseError Authority) :
      x.map (fun a => (w.schemeName, a.host, a.port)) =
        (x.map fun a => (a.host, a.port)).map fun parts => (w.schemeName, parts.1, parts.2) := by
    cases x <;> rfl
  rw [hw.valid.outline.parse_eq hkind hw.text, if_neg hlone]
  change (parseAuthority w.kind w.schemeName w.authority).map
    (fun a => (w.schemeName, a.host, a.port)) = _
  rw [hparts, parseAuthority_eq hw.valid]
  cases readHost w.kind.isSpecial w.host with
  | error cause => rfl
  | ok h => cases readPort w.schemeName w.port <;> rfl

/-- All that stands where the authority of a `file` URL does is its host. -/
theorem Valid.file_parts (hw : w.Valid) (hauthority : IsHostText w.authority)
    (hat : '@' ∉ w.authority) : w.authority = w.host ∧ w.userinfo = none ∧ w.port = none := by
  cases hinfo : w.userinfo with
  | some info => simp [Written.authority, hinfo] at hat
  | none =>
      have hhostPort : w.authority = w.hostPort := by simp [Written.authority, hinfo]
      rw [hhostPort] at hauthority ⊢
      -- Both the host and all of it are cut as hosts, so nothing follows the host.
      have hwhole : cutHost false (w.hostPort ++ []) = (w.hostPort, []) :=
        cutHost_append hauthority (by simp)
      have hparts := cutHost_append hw.host w.head?_portText
      rw [List.append_nil] at hwhole
      rw [show w.host ++ w.portText = w.hostPort from rfl, hwhole] at hparts
      obtain ⟨hhost, hnone⟩ := Prod.mk.inj hparts
      refine ⟨hhost, rfl, ?_⟩
      cases hport : w.port with
      | none => rfl
      | some p => simp [portText, hport] at hnone

/-- **What is read of a URL with a host**: the scheme, the host and the port that are written. -/
theorem Writes.spec (hw : w.Writes text) {u : Url} {host : Host} (h : parse text = .ok u)
    (hhost : u.host = some host) : u.scheme = w.schemeName ∧
      readHost w.kind.isSpecial w.host = .ok host ∧ readPort w.schemeName w.port = .ok u.port := by
  by_cases hkind : w.kind = .file
  · obtain ⟨hscheme, hport, hne, hread⟩ := hw.valid.outline.file_spec hkind hw.text h hhost
    obtain ⟨hwritten, hat⟩ := isHostText_of_readHost hne hread
    obtain ⟨hauthority, -, hnone⟩ := hw.valid.file_parts hwritten hat
    have hspecial : w.kind.isSpecial = true := by
      rw [hkind]
      rfl
    rw [hspecial, hnone, hport, ← hauthority]
    exact ⟨hscheme, hread, rfl⟩
  · have hread := hw.parse_eq hkind
    rw [h] at hread
    obtain ⟨found, hfound, hread⟩ := bind_eq_ok_iff.mp hread.symm
    obtain ⟨port, hport, hform⟩ := map_eq_ok_iff.mp hread
    simp only [Prod.mk.injEq, hhost, Option.some.injEq] at hform
    obtain ⟨hscheme, rfl, rfl⟩ := hform
    exact ⟨hscheme.symm, hfound, hport⟩

end Written

/-- An authority is user info before its last `@`, and host and port. -/
theorem exists_userinfo (authority : List Char) : ∃ (userinfo : Option (List Char))
    (hostPort : List Char), authority = userinfo.elim hostPort (· ++ '@' :: hostPort) ∧
      '@' ∉ hostPort ∧ ∀ kind scheme a, parseAuthority kind scheme authority = .ok a →
        parseHostPort kind scheme hostPort = .ok (a.host, a.port) := by
  cases hcut : Text.cutAtLast? (· == '@') authority with
  | none =>
      refine ⟨none, authority, rfl, ?_, ?_⟩
      · exact fun hat => by simpa using Text.cutAtLast?_eq_none_iff.mp hcut '@' hat
      · exact fun _ _ _ h => (parseAuthority_of_none hcut h).2.2
  | some parts =>
      obtain ⟨info, hostPort⟩ := parts
      obtain ⟨c, rfl, hc, hlast⟩ := Text.cutAtLast?_eq_some_iff.mp hcut
      obtain rfl : c = '@' := by simpa using hc
      refine ⟨some info, hostPort, rfl, fun hat => by simpa using hlast '@' hat, ?_⟩
      exact fun _ _ _ h => (parseAuthority_of_some hcut h).2

/-- A host that is read stands before the first colon outside of brackets. -/
theorem parseHostPort_spec {kind : SchemeKind} {scheme : String} {s : List Char} {host : Host}
    {port : Option Nat} (h : parseHostPort kind scheme s = .ok (some host, port)) :
    (cutHost false s).1 ≠ [] ∧ readHost kind.isSpecial (cutHost false s).1 = .ok host := by
  unfold parseHostPort at h
  generalize cutHost false s = parts at *
  obtain ⟨hostText, portText⟩ := parts
  simp only at h ⊢
  split at h
  · split at h <;> cases h
  · next hne =>
    refine ⟨hne, ?_⟩
    have hfound (x : Except ParseError Host) (hx : (do
        let found ← x
        let port ← if portText = [] then pure none else parsePort scheme (portText.drop 1)
        return (some found, port)) = .ok (some host, port)) : x = .ok host := by
      obtain ⟨found, hread, hx⟩ := bind_eq_ok_iff.mp hx
      split at hx
      all_goals
        obtain ⟨_, -, hform⟩ := bind_eq_ok_iff.mp hx
        cases hform
        exact hread
    cases kind with
    | other => exact hfound (Host.parseOpaque hostText) h
    | hosted => exact hfound (Host.parse hostText) h
    | file => exact hfound (Host.parse hostText) h

/-- An outline is that of a written URL if its authority is cut into a host and what is around. -/
theorem Outline.Valid.writes {o : Outline} (ho : o.Valid) {text : String}
    (htext : cleaned text.toList = o.text) {w : Written} (houtline : w.outline = o)
    (hhost : IsHostText w.host) (hat : '@' ∉ w.hostPort) : w.Writes text := by
  subst houtline
  exact ⟨⟨ho.scheme, ho.slashes, ho.authority, hhost, hat, ho.tail⟩, htext⟩

/-- **A URL with a host is written in parts.** -/
theorem exists_written {text : String} {u : Url} {host : Host} (h : parse text = .ok u)
    (hhost : u.host = some host) : ∃ w : Written, w.Writes text := by
  obtain ⟨o, ho, htext⟩ := exists_outline h hhost
  by_cases hkind : o.kind = .file
  · obtain ⟨-, -, hne, hread⟩ := ho.file_spec hkind htext h hhost
    obtain ⟨hwritten, hat⟩ := isHostText_of_readHost hne hread
    refine ⟨⟨o.scheme, o.slashes, none, o.authority, none, o.tail⟩,
      ho.writes htext ?_ hwritten ?_⟩ <;>
      simp [Written.outline, Written.authority, Written.hostPort, Written.portText, hat]
  · obtain ⟨-, a, ha, hhostOf, -⟩ := ho.authority_spec hkind htext h
    obtain ⟨userinfo, hostPort, hparts, hat, hspec⟩ := exists_userinfo o.authority
    have hhostPort := hspec _ _ _ ha
    rw [← hhostOf, hhost] at hhostPort
    obtain ⟨hne, hfound⟩ := parseHostPort_spec hhostPort
    obtain ⟨hcut, hcolon⟩ := cutHost_spec hostPort false
    obtain ⟨port, hport⟩ : ∃ port : Option (List Char),
        port.elim [] (':' :: ·) = (cutHost false hostPort).2 := by
      cases hrest : (cutHost false hostPort).2 with
      | nil => exact ⟨none, rfl⟩
      | cons c p => exact ⟨some p, by rw [hcolon c (by simp [hrest])]; rfl⟩
    have hjoined : (cutHost false hostPort).1 ++ port.elim [] (':' :: ·) = hostPort := by
      rw [hport, hcut]
    refine ⟨⟨o.scheme, o.slashes, userinfo, (cutHost false hostPort).1, port, o.tail⟩,
      ho.writes htext ?_ (isHostText_of_readHost hne hfound).1 ?_⟩
    · simp only [Written.outline, Written.authority, Written.hostPort, Written.portText,
        hjoined, ← hparts]
    · simpa only [Written.hostPort, Written.portText, hjoined] using hat

end SignOn.Url
