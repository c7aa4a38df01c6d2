import SignOn.Proofs.Steps
import SignOn.Proofs.Text.Cutting
import SignOn.Proofs.Url.HostText
import SignOn.Url.Parser
/-!
# The outline of a URL

A URL with a host is a scheme, slashes, an authority and a rest.  The parser finds these parts: what
it reads in a text that is written in them is read from the scheme and the authority alone
(`Outline.Valid.parse_eq`, `Outline.Valid.parse_file`), and every text that it reads as a URL with a
host is written in such parts (`exists_outline`).

The rest is whatever begins where an authority ends.  Characters that the parser drops from a text
are in none of the parts.
-/

namespace SignOn.Url

/-- A URL in outline: the scheme without its colon, the slashes behind it, the authority and the
rest. -/
structure Outline where
  scheme : List Char
  slashes : List Char
  authority : List Char
  tail : List Char

namespace Outline

variable (o : Outline)

/-- The name of the scheme. -/
def schemeName : String :=
  String.ofList (o.scheme.map Char.toLower)

/-- The kind of the scheme. -/
def kind : SchemeKind :=
  .of o.schemeName

/-- What stands behind the colon. -/
def body : List Char :=
  o.slashes ++ (o.authority ++ o.tail)

/-- The text of all parts. -/
def text : List Char :=
  o.scheme ++ ':' :: o.body

end Outline

/-- The slashes that lead to an authority: any number in a hosted scheme, two in the others. -/
def SchemeKind.Opens : SchemeKind → List Char → Prop
  | .hosted, slashes => ∀ c ∈ slashes, isSlash true c = true
  | .file, slashes => slashes.length = 2 ∧ ∀ c ∈ slashes, isSlash true c = true
  | .other, slashes => slashes = ['/', '/']

instance : (kind : SchemeKind) → (slashes : List Char) → Decidable (kind.Opens slashes)
  | .hosted, slashes => inferInstanceAs (Decidable (∀ c ∈ slashes, isSlash true c = true))
  | .file, slashes =>
    inferInstanceAs (Decidable (slashes.length = 2 ∧ ∀ c ∈ slashes, isSlash true c = true))
  | .other, slashes => inferInstanceAs (Decidable (slashes = ['/', '/']))

/-- A scheme in letters of either case: it begins with a letter. -/
structure IsScheme (scheme : List Char) : Prop where
  nonempty : scheme ≠ []
  first : ∀ c ∈ scheme.head?, c.isAlpha = true
  chars : ∀ c ∈ scheme, isSchemeChar c = true

/-- The parts are what they are called: none goes on into the next. -/
structure Outline.Valid (o : Outline) : Prop where
  scheme : IsScheme o.scheme
  slashes : o.kind.Opens o.slashes
  starts : o.kind = .hosted → ∀ c ∈ (o.authority ++ o.tail).head?, isSlash true c = false
  authority : ∀ c ∈ o.authority, endsAuthority o.kind.isSpecial c = false
  tail : ∀ c ∈ o.tail.head?, endsAuthority o.kind.isSpecial c = true

/-- A character that begins the query or the fragment. -/
def isMark (c : Char) : Bool :=
  c == '?' || c == '#'

/-- What stands before the query and the fragment. -/
theorem fst_cutTail (s : List Char) : (cutTail s).1 = s.takeWhile (!isMark ·) := by
  have hmark : (fun c => !isMark c) = fun c => !(c == '?') && !(c == '#') := by
    funext c
    simp [isMark]
  have htwice : s.takeWhile (!isMark ·) = (s.takeWhile (! · == '#')).takeWhile (! · == '?') := by
    rw [hmark, List.takeWhile_takeWhile]
    congr 1
    funext c
    cases c == '?' <;> cases c == '#' <;> rfl
  rw [htwice, Text.takeWhile_eq_of_cutAt? (· == '#') s]
  unfold cutTail
  cases Text.cutAt? (· == '#') s with
  | none =>
      rw [Option.map_none, Option.getD_none, Text.takeWhile_eq_of_cutAt? (· == '?') s]
      cases hsecond : Text.cutAt? (· == '?') s <;> simp [hsecond]
  | some parts =>
      rw [Option.map_some, Option.getD_some, Text.takeWhile_eq_of_cutAt? (· == '?') parts.1]
      cases hsecond : Text.cutAt? (· == '?') parts.1 <;> simp [hsecond]

/-- The scheme is found up to its colon. -/
theorem Outline.Valid.scheme?_text {o : Outline} (ho : o.Valid) :
    scheme? o.text = some (o.schemeName, o.body) := by
  obtain ⟨c, name, hname⟩ := List.exists_cons_of_ne_nil ho.scheme.nonempty
  have hcolon : isSchemeChar ':' = false := by decide
  have htake : o.text.takeWhile isSchemeChar = o.scheme := by
    rw [Outline.text, List.takeWhile_append_of_pos ho.scheme.chars,
      List.takeWhile_cons_of_neg (by simp [hcolon]), List.append_nil]
  have hdrop : o.text.dropWhile isSchemeChar = ':' :: o.body :=
    Text.dropWhile_append ho.scheme.chars (by simp [hcolon])
  have hfirst := ho.scheme.first
  rw [hname] at hfirst
  unfold scheme?
  simp only [htake, hdrop, hname, if_pos (hfirst c rfl)]
  rw [Outline.schemeName, hname]

/-- The rest up to the query and the fragment. -/
def Outline.path (o : Outline) : List Char :=
  o.tail.takeWhile (!isMark ·)

theorem isSlash_of_isMark {special : Bool} {c : Char} (h : isMark c = true) :
    isSlash special c = false := by
  simp only [isMark, Bool.or_eq_true, beq_iff_eq] at h
  rcases h with rfl | rfl <;> cases special <;> decide

theorem endsAuthority_eq (special : Bool) (c : Char) :
    endsAuthority special c = (isSlash special c || isMark c) := by
  simp only [endsAuthority, isMark, Bool.or_assoc]

/-- Slashes of a kind lead to its authority. -/
theorem SchemeKind.Opens.isSlash {kind : SchemeKind} {slashes : List Char}
    (h : kind.Opens slashes) : ∀ c ∈ slashes, isSlash kind.isSpecial c = true := by
  cases kind with
  | hosted => exact h
  | file => exact h.2
  | other =>
      rw [show slashes = ['/', '/'] from h]
      decide

/-- Query and fragment begin in the rest. -/
theorem Outline.Valid.front {o : Outline} (ho : o.Valid) :
    (cutTail o.body).1 = o.slashes ++ (o.authority ++ o.path) := by
  have hslashes : ∀ c ∈ o.slashes, (!isMark c) = true := by
    intro c hc
    have hslash := ho.slashes.isSlash c hc
    by_contra hmark
    rw [Bool.not_eq_true, Bool.not_eq_false'] at hmark
    simp [isSlash_of_isMark hmark] at hslash
  have hauthority : ∀ c ∈ o.authority, (!isMark c) = true := by
    intro c hc
    have hin := ho.authority c hc
    rw [endsAuthority_eq, Bool.or_eq_false_iff] at hin
    simp [hin.2]
  rw [fst_cutTail, Outline.body, List.takeWhile_append_of_pos hslashes,
    List.takeWhile_append_of_pos hauthority, Outline.path]

/-- The rest before its query begins with a slash, if there is any. -/
theorem Outline.Valid.path {o : Outline} (ho : o.Valid) :
    ∀ c ∈ o.path.head?, endsAuthority o.kind.isSpecial c = true := by
  intro c hc
  cases htail : o.tail with
  | nil => simp [Outline.path, htail] at hc
  | cons d rest =>
      have hd := ho.tail d (by simp [htail])
      by_cases hmark : isMark d = true
      · simp [Outline.path, htail, hmark] at hc
      · rw [Outline.path, htail, List.takeWhile_cons_of_pos (by simpa using hmark)] at hc
        obtain rfl : d = c := by simpa using hc
        exact hd

/-- Slashes of a hosted scheme end where the authority begins. -/
theorem Outline.Valid.starts_path {o : Outline} (ho : o.Valid) (hkind : o.kind = .hosted) :
    ∀ c ∈ (o.authority ++ o.path).head?, Url.isSlash true c = false := by
  intro c hc
  refine ho.starts hkind c ?_
  cases hauthority : o.authority with
  | cons d rest => simpa [hauthority] using hc
  | nil =>
      cases htail : o.tail with
      | nil => simp [Outline.path, hauthority, htail] at hc
      | cons d rest =>
          by_cases hmark : isMark d = true
          · simp [Outline.path, hauthority, htail, hmark] at hc
          · simpa [Outline.path, hauthority, htail, hmark] using hc

/-- The authority ends where the rest begins; a lone `@` before a path is an error. -/
theorem Outline.Valid.read_authority {o : Outline} (ho : o.Valid) :
    parseWithAuthority o.kind o.schemeName (o.authority ++ o.path) =
      if o.authority = ['@'] ∧ o.path ≠ [] then .error .emptyHost
      else (parseAuthority o.kind o.schemeName o.authority).map fun a => (a, o.path) := by
  have htake : (o.authority ++ o.path).takeWhile
      (fun c => decide ¬endsAuthority o.kind.isSpecial c = true) = o.authority := by
    rw [List.takeWhile_append_of_pos fun c hc => by simp [ho.authority c hc]]
    cases hpath : o.path with
    | nil => simp
    | cons c rest => simp [ho.path c (by simp [hpath])]
  unfold parseWithAuthority
  simp only [htake, List.drop_left]
  split
  · rfl
  · cases parseAuthority o.kind o.schemeName o.authority <;> rfl

/-- What is kept of a URL of a scheme: what stands before the query is read by its kind. -/
theorem parse_map_eq {text : String} {scheme : String} {rest : List Char}
    (h : scheme? (cleaned text.toList) = some (scheme, rest)) :
    (parse text).map (fun u => (u.scheme, u.host, u.port)) =
      (parseBody (.of scheme) scheme (cutTail rest).1).map
        fun (_, a, _) => (scheme, a.host, a.port) := by
  unfold parse
  rw [h]
  cases hbody : parseBody (.of scheme) scheme (cutTail rest).1 <;> simp only [hbody] <;> rfl

/-- **Scheme and authority of a URL.**  Host and port are those of the authority. -/
theorem Outline.Valid.parse_eq {o : Outline} (ho : o.Valid) (hkind : o.kind ≠ .file)
    {text : String} (htext : cleaned text.toList = o.text) :
    (parse text).map (fun u => (u.scheme, u.host, u.port)) =
      if o.authority = ['@'] ∧ o.path ≠ [] then .error .emptyHost
      else (parseAuthority o.kind o.schemeName o.authority).map
        fun a => (o.schemeName, a.host, a.port) := by
  have hbody : parseBody o.kind o.schemeName (cutTail o.body).1 =
      (parseWithAuthority o.kind o.schemeName (o.authority ++ o.path)).map
        fun parts => (true, parts.1, parsePathStart o.kind parts.2) := by
    have hopens := ho.slashes
    rw [ho.front]
    unfold parseBody
    cases hk : o.kind with
    | file => exact (hkind hk).elim
    | hosted =>
        rw [hk] at hopens
        simp only [Text.dropWhile_append hopens (ho.starts_path hk)]
        cases parseWithAuthority .hosted o.schemeName (o.authority ++ o.path) <;> rfl
    | other =>
        rw [hk] at hopens
        rw [show o.slashes = ['/', '/'] from hopens]
        simp only [List.cons_append, List.nil_append]
        cases parseWithAuthority .other o.schemeName (o.authority ++ o.path) <;> rfl
  rw [parse_map_eq (htext ▸ ho.scheme?_text), show SchemeKind.of o.schemeName = o.kind from rfl,
    hbody, ho.read_authority]
  split
  · rfl
  · cases parseAuthority o.kind o.schemeName o.authority <;> rfl

/-- **The host of a `file` URL** is all that stands where an authority does. -/
theorem Outline.Valid.parse_file {o : Outline} (ho : o.Valid) (hkind : o.kind = .file)
    {text : String} (htext : cleaned text.toList = o.text) :
    (parse text).map (fun u => (u.scheme, u.host, u.port)) =
      (parseFileHost o.authority).map fun host => (o.schemeName, host, none) := by
  have hopens := ho.slashes
  rw [hkind] at hopens
  have hpath : ∀ c ∈ o.path.head?, isSlash true c = true := by
    intro c hc
    have hend := ho.path c hc
    rw [endsAuthority_eq, hkind, Bool.or_eq_true] at hend
    refine hend.resolve_right fun hmark => ?_
    have hnone := List.mem_takeWhile_imp (List.mem_of_mem_head? hc)
    simp [hmark] at hnone
  have hauthority : ∀ c ∈ o.authority, isSlash true c = false := by
    intro c hc
    have hin := ho.authority c hc
    rw [endsAuthority_eq, hkind, Bool.or_eq_false_iff] at hin
    exact hin.1
  have htake : (o.authority ++ o.path).takeWhile
      (fun c => decide ¬isSlash true c = true) = o.authority := by
    rw [List.takeWhile_append_of_pos fun c hc => by simp [hauthority c hc]]
    cases hp : o.path with
    | nil => simp
    | cons c rest => simp [hpath c (by simp [hp])]
  have htwo : 2 ≤ ((o.slashes ++ (o.authority ++ o.path)).takeWhile (isSlash true)).length := by
    rw [List.takeWhile_append_of_pos hopens.2, List.length_append, hopens.1]
    omega
  have hbody : parseBody o.kind o.schemeName (cutTail o.body).1 =
      (parseFileHost o.authority).map fun host =>
        (true, ⟨"", none, host, none⟩, parsePathStart .file o.path) := by
    rw [ho.front, hkind]
    have hdrop : (o.slashes ++ (o.authority ++ o.path)).drop 2 = o.authority ++ o.path := by
      rw [← hopens.1, List.drop_left]
    simp only [parseBody, if_pos htwo, hdrop, htake, List.drop_left]
    cases parseFileHost o.authority <;> rfl
  rw [parse_map_eq (htext ▸ ho.scheme?_text), show SchemeKind.of o.schemeName = o.kind from rfl,
    hbody]
  cases parseFileHost o.authority <;> rfl

/-- A host that stands in a `file` URL is read as that of a special scheme. -/
theorem parseFileHost_spec {s : List Char} {host : Host} (h : parseFileHost s = .ok (some host)) :
    s ≠ [] ∧ readHost true s = .ok host := by
  unfold parseFileHost at h
  split at h
  · cases h
  · next hne =>
    split at h
    · cases h
    · next found hread =>
      split at h
      · cases h
      · cases h
        exact ⟨hne, hread⟩

/-- **What is read of a URL with an authority**: the scheme, and host and port of the authority. -/
theorem Outline.Valid.authority_spec {o : Outline} (ho : o.Valid) (hkind : o.kind ≠ .file)
    {text : String} (htext : cleaned text.toList = o.text) {u : Url} (h : parse text = .ok u) :
    u.scheme = o.schemeName ∧
      ∃ a, parseAuthority o.kind o.schemeName o.authority = .ok a ∧ u.host = a.host ∧
        u.port = a.port := by
  have hread := ho.parse_eq hkind htext
  rw [h] at hread
  split at hread
  · cases hread
  · obtain ⟨a, ha, hform⟩ := map_eq_ok_iff.mp hread.symm
    simp only [Prod.mk.injEq] at hform
    obtain ⟨hscheme, hhost, hport⟩ := hform
    exact ⟨hscheme.symm, a, ha, hhost.symm, hport.symm⟩

/-- **What is read of a `file` URL with a host**: the scheme and the host, which has no port. -/
theorem Outline.Valid.file_spec {o : Outline} (ho : o.Valid) (hkind : o.kind = .file)
    {text : String} (htext : cleaned text.toList = o.text) {u : Url} {host : Host}
    (h : parse text = .ok u) (hhost : u.host = some host) :
    u.scheme = o.schemeName ∧ u.port = none ∧ o.authority ≠ [] ∧
      readHost true o.authority = .ok host := by
  have hread := ho.parse_file hkind htext
  rw [h] at hread
  obtain ⟨found, hfound, hform⟩ := map_eq_ok_iff.mp hread.symm
  simp only [Prod.mk.injEq, hhost] at hform
  obtain ⟨hscheme, rfl, hport⟩ := hform
  exact ⟨hscheme.symm, hport.symm, parseFileHost_spec hfound⟩

/-- An authority without an `@` is host and port. -/
theorem parseAuthority_of_none {kind : SchemeKind} {scheme : String} {s : List Char}
    {a : Authority} (hcut : Text.cutAtLast? (· == '@') s = none)
    (h : parseAuthority kind scheme s = .ok a) :
    a.username = "" ∧ a.password = none ∧ parseHostPort kind scheme s = .ok (a.host, a.port) := by
  unfold parseAuthority at h
  rw [hcut] at h
  obtain ⟨parts, hparts, h⟩ := bind_eq_ok_iff.mp h
  cases h
  exact ⟨rfl, rfl, hparts⟩

/-- What stands before the last `@` of an authority is the user info. -/
theorem parseAuthority_of_some {kind : SchemeKind} {scheme : String} {s info rest : List Char}
    {a : Authority} (hcut : Text.cutAtLast? (· == '@') s = some (info, rest))
    (h : parseAuthority kind scheme s = .ok a) : userinfo info = (a.username, a.password) ∧
      parseHostPort kind scheme rest = .ok (a.host, a.port) := by
  simp only [parseAuthority, hcut] at h
  generalize userinfo info = names at h
  obtain ⟨parts, hparts, h⟩ := bind_eq_ok_iff.mp h
  split at h
  · cases h
  · cases h
    exact ⟨rfl, hparts⟩

/-- The parts of a text with a scheme and slashes: the authority goes up to where it ends. -/
def Outline.cut (scheme slashes rest : List Char) : Outline :=
  let special := (SchemeKind.of (String.ofList (scheme.map Char.toLower))).isSpecial
  ⟨scheme, slashes, rest.takeWhile (!endsAuthority special ·),
    rest.dropWhile (!endsAuthority special ·)⟩

theorem Outline.text_cut (scheme slashes rest : List Char) :
    (Outline.cut scheme slashes rest).text = scheme ++ ':' :: (slashes ++ rest) := by
  simp only [text, body, cut, List.takeWhile_append_dropWhile]

theorem Outline.valid_cut {scheme slashes rest : List Char} {name : String}
    (hname : String.ofList (scheme.map Char.toLower) = name) (hscheme : IsScheme scheme)
    (hslashes : (SchemeKind.of name).Opens slashes)
    (hstarts : SchemeKind.of name = .hosted → ∀ c ∈ rest.head?, isSlash true c = false) :
    (Outline.cut scheme slashes rest).Valid := by
  subst hname
  refine ⟨hscheme, hslashes, ?_, ?_, ?_⟩
  · intro hkind
    simpa only [cut, List.takeWhile_append_dropWhile] using hstarts hkind
  · intro c hc
    exact (Bool.not_eq_true' _).mp (List.mem_takeWhile_imp (p := (!endsAuthority _ ·)) hc)
  · intro c hc
    exact (Bool.not_eq_false' _).mp (Text.head?_dropWhile _ rest c hc)

/-- A scheme stands before the first colon. -/
theorem scheme?_spec {s rest : List Char} {name : String} (h : scheme? s = some (name, rest)) :
    ∃ scheme, s = scheme ++ ':' :: rest ∧ String.ofList (scheme.map Char.toLower) = name ∧
      IsScheme scheme := by
  have hparts := List.takeWhile_append_dropWhile (p := isSchemeChar) (l := s)
  have hchars : ∀ c ∈ s.takeWhile isSchemeChar, isSchemeChar c = true := fun c hc =>
    List.mem_takeWhile_imp hc
  unfold scheme? at h
  simp only at h
  split at h
  · next c more _ htake hdrop =>
    split at h
    · next halpha =>
      obtain ⟨rfl, rfl⟩ := Prod.mk.inj (Option.some.inj h)
      rw [htake, hdrop] at hparts
      rw [htake] at hchars ⊢
      exact ⟨c :: more, hparts.symm, rfl, List.cons_ne_nil _ _, by simpa using halpha, hchars⟩
    · cases h
  · cases h

/-- **What a URL is read from**: its scheme stands before the first colon, its authority and path are
read from what stands before the query, and its query is the written one, encoded. -/
theorem exists_rest_of_parse {text : String} {u : Url} (h : parse text = .ok u) :
    ∃ rest, scheme? (cleaned text.toList) = some (u.scheme, rest) ∧
      parseBody (.of u.scheme) u.scheme (cutTail rest).1 =
        .ok (u.authority, ⟨u.username, u.password, u.host, u.port⟩, u.path) ∧
      u.query = (cutTail rest).2.1.map fun q => String.ofList
        ((if (SchemeKind.of u.scheme).isSpecial then EncodeSet.specialQuery
          else EncodeSet.query).encode q) := by
  unfold parse at h
  split at h
  · cases h
  · next scheme rest hscheme =>
    obtain ⟨⟨written, a, path⟩, hbody, hu⟩ := bind_eq_ok_iff.mp h
    cases hu
    exact ⟨rest, hscheme, hbody, rfl⟩

/-- Two slashes before the query are two slashes of the text. -/
theorem exists_two_slashes {rest : List Char}
    (h : 2 ≤ ((cutTail rest).1.takeWhile (isSlash true)).length) :
    ∃ a b body, rest = a :: b :: body ∧ isSlash true a = true ∧ isSlash true b = true := by
  rw [fst_cutTail] at h
  have hfront := List.takeWhile_append_dropWhile (p := (!isMark ·)) (l := rest)
  have hslashes := List.takeWhile_append_dropWhile (p := isSlash true)
    (l := rest.takeWhile (!isMark ·))
  have hall : ∀ c ∈ (rest.takeWhile (!isMark ·)).takeWhile (isSlash true),
      isSlash true c = true := fun c hc => List.mem_takeWhile_imp hc
  match hl : (rest.takeWhile (!isMark ·)).takeWhile (isSlash true) with
  | [] | [_] => simp [hl] at h
  | a :: b :: more =>
      rw [hl] at hslashes hall
      rw [← hslashes] at hfront
      exact ⟨a, b, _, hfront.symm, hall a (by simp), hall b (by simp)⟩

/-- **A URL with a host has an outline.** -/
theorem exists_outline {text : String} {u : Url} {host : Host} (h : parse text = .ok u)
    (hhost : u.host = some host) : ∃ o : Outline, o.Valid ∧ cleaned text.toList = o.text := by
  obtain ⟨rest, hread, hbody, -⟩ := exists_rest_of_parse h
  obtain ⟨scheme, htext, hname, hwritten⟩ := scheme?_spec hread
  rw [hhost] at hbody
  cases hkind : SchemeKind.of u.scheme with
  | hosted =>
      refine ⟨.cut scheme (rest.takeWhile (isSlash true)) (rest.dropWhile (isSlash true)),
        Outline.valid_cut hname hwritten ?_ fun _ => Text.head?_dropWhile _ rest, ?_⟩
      · rw [hkind]
        exact fun c hc => List.mem_takeWhile_imp hc
      · rw [Outline.text_cut, List.takeWhile_append_dropWhile, htext]
  | file =>
      rw [hkind] at hbody
      unfold parseBody at hbody
      simp only at hbody
      split at hbody
      · next htwo =>
        obtain ⟨a, b, body, rfl, ha, hb⟩ := exists_two_slashes htwo
        refine ⟨.cut scheme [a, b] body, Outline.valid_cut hname hwritten ?_ ?_, ?_⟩
        · rw [hkind]
          exact ⟨rfl, by simp [ha, hb]⟩
        · rw [hkind]
          exact fun hfile => nomatch hfile
        · rw [Outline.text_cut, htext]
          rfl
      · simp [pure, Except.pure] at hbody
  | other =>
      rw [hkind] at hbody
      unfold parseBody at hbody
      simp only at hbody
      split at hbody
      · next rest' hfront =>
        obtain ⟨body, rfl⟩ : ∃ body, rest = '/' :: '/' :: body := by
          have hparts := List.takeWhile_append_dropWhile (p := (!isMark ·)) (l := rest)
          rw [← fst_cutTail, hfront] at hparts
          exact ⟨_, hparts.symm⟩
        refine ⟨.cut scheme ['/', '/'] body, Outline.valid_cut hname hwritten ?_ ?_, ?_⟩
        · rw [hkind]
          rfl
        · rw [hkind]
          exact fun hother => nomatch hother
        · rw [Outline.text_cut, htext]
          rfl
      · simp [pure, Except.pure] at hbody
      · simp [pure, Except.pure] at hbody

end SignOn.Url
