import SignOn.Proofs.Text.Form
import SignOn.Proofs.Url.AuthorityForm
/-!
# The query in the text of a URL

The query of a URL that is read stands in its text between the first `?` and the first `#`
(`cutTail_write`).  Nothing in front of it holds such a mark, because every part that may hold one
is encoded (`unmarked_of_parse`), and so are pairs that are added (`Unmarked.appendPairs`).  Pairs
are added behind those that are there (`decode_appendPairs`).
-/

namespace SignOn.Url

/-- The text of a URL in front of the query. -/
def front (u : Url) : String :=
  u.scheme ++ ":" ++
    (if u.authority then "//" ++ u.writeUserinfo ++ u.writeHostPort else u.path.guard) ++
    u.path.write

/-- Neither a `?` nor a `#`. -/
def IsUnmarked (s : String) : Prop :=
  ∀ c ∈ s.toList, isMark c = false

instance (s : String) : Decidable (IsUnmarked s) :=
  inferInstanceAs (Decidable (∀ c ∈ s.toList, isMark c = false))

/-- No mark stands in front of the query of a URL, and none that ends it stands in it. -/
structure Unmarked (u : Url) : Prop where
  front : IsUnmarked u.front
  query : ∀ q ∈ u.query, '#' ∉ q.toList

theorem isUnmarked_empty : IsUnmarked "" := by
  decide

theorem isUnmarked_append {s t : String} :
    IsUnmarked (s ++ t) ↔ IsUnmarked s ∧ IsUnmarked t := by
  simp only [IsUnmarked, String.toList_append, List.forall_mem_append]

theorem IsUnmarked.append {s t : String} (hs : IsUnmarked s) (ht : IsUnmarked t) :
    IsUnmarked (s ++ t) :=
  isUnmarked_append.mpr ⟨hs, ht⟩

theorem isUnmarked_of_isVisible {s : String} (h : ∀ c ∈ s.toList, IsVisible c) :
    IsUnmarked s := by
  intro c hc
  have hinside := (h c hc).inside
  rw [endsAuthority_eq, Bool.or_eq_false_iff] at hinside
  exact hinside.2

/-! ### Encoded parts -/

/-- A character of the set that is not printed does not stand in an encoded part. -/
theorem EncodeSet.not_mem_encode {set : EncodeSet} {s : List Char} {c : Char}
    (hset : c ∈ set.chars) (hc : ¬IsPrinted c) : c ∉ set.encode s := by
  intro hmem
  rcases of_mem_encode hmem with hprinted | ⟨-, -, -, hother⟩
  · exact hc hprinted
  · exact hother hset

theorem isMark_eq_false_iff {c : Char} : isMark c = false ↔ c ≠ '?' ∧ c ≠ '#' := by
  simp [isMark]

/-- A part is unmarked if it was before it was encoded, or if its set holds the marks. -/
theorem isUnmarked_encode {set : EncodeSet} {s : List Char}
    (h : (∀ c ∈ s, isMark c = false) ∨ '?' ∈ set.chars ∧ '#' ∈ set.chars) :
    IsUnmarked (String.ofList (set.encode s)) := by
  intro c hc
  rw [String.toList_ofList] at hc
  rcases EncodeSet.of_mem_encode hc with hprinted | ⟨hmem, -, -, hset⟩
  · exact isUnmarked_of_isVisible (s := String.singleton c)
      (by simpa using isVisible_of_isPrinted hprinted) c (by simp)
  · rcases h with hs | ⟨hask, hhash⟩
    · exact hs c hmem
    · refine isMark_eq_false_iff.mpr ⟨?_, ?_⟩ <;> rintro rfl
      · exact hset hask
      · exact hset hhash

/-! ### The parts of an authority -/

/-- User name and password are encoded. -/
theorem userinfo_spec (s : List Char) : IsUnmarked (userinfo s).1 ∧
    ∀ password ∈ (userinfo s).2, IsUnmarked password := by
  have hpart (part : List Char) : IsUnmarked (String.ofList (EncodeSet.userinfo.encode part)) :=
    isUnmarked_encode (.inr (by decide))
  unfold userinfo
  split
  · exact ⟨hpart s, by simp⟩
  · next name password _ =>
    refine ⟨hpart name, ?_⟩
    split
    · simp
    · simpa using hpart password

/-- A host that is read is unmarked. -/
theorem isUnmarked_of_readHost {special : Bool} {s : List Char} {host : Host} (hne : s ≠ [])
    (h : readHost special s = .ok host) : IsUnmarked host.write :=
  isUnmarked_of_isVisible (isRead_of_readHost hne h).isVisible

/-- What is written of an authority is unmarked. -/
structure Authority.Unmarked (a : Authority) : Prop where
  username : IsUnmarked a.username
  password : ∀ password ∈ a.password, IsUnmarked password
  host : ∀ host ∈ a.host, IsUnmarked host.write

theorem isUnmarked_of_parseHostPort {kind : SchemeKind} {scheme : String} {s : List Char}
    {found : Option Host × Option Nat} (h : parseHostPort kind scheme s = .ok found) :
    ∀ host ∈ found.1, IsUnmarked host.write := by
  obtain ⟨found, port⟩ := found
  rintro host rfl
  obtain ⟨hne, hread⟩ := parseHostPort_spec h
  exact isUnmarked_of_readHost hne hread

theorem unmarked_of_parseAuthority {kind : SchemeKind} {scheme : String} {s : List Char}
    {a : Authority} (h : parseAuthority kind scheme s = .ok a) : a.Unmarked := by
  cases hcut : Text.cutAtLast? (· == '@') s with
  | none =>
      obtain ⟨husername, hpassword, hparts⟩ := parseAuthority_of_none hcut h
      refine ⟨?_, ?_, isUnmarked_of_parseHostPort hparts⟩
      · rw [husername]
        exact isUnmarked_empty
      · simp [hpassword]
  | some parts =>
      obtain ⟨info, rest⟩ := parts
      obtain ⟨hnames, hparts⟩ := parseAuthority_of_some hcut h
      obtain ⟨husername, hpassword⟩ := userinfo_spec info
      rw [hnames] at husername hpassword
      exact ⟨husername, hpassword, isUnmarked_of_parseHostPort hparts⟩

theorem unmarked_of_parseWithAuthority {kind : SchemeKind} {scheme : String} {s : List Char}
    {read : Authority × List Char} (h : parseWithAuthority kind scheme s = .ok read) :
    read.1.Unmarked ∧ read.2 <:+ s := by
  unfold parseWithAuthority at h
  simp only at h
  split at h
  · cases h
  · obtain ⟨a, ha, h⟩ := bind_eq_ok_iff.mp h
    cases h
    exact ⟨unmarked_of_parseAuthority ha, List.drop_suffix ..⟩

theorem isUnmarked_of_parseFileHost {s : List Char} {found : Option Host}
    (h : parseFileHost s = .ok found) : ∀ host ∈ found, IsUnmarked host.write := by
  rintro host rfl
  obtain ⟨hne, hread⟩ := parseFileHost_spec h
  exact isUnmarked_of_readHost hne hread

/-! ### The path -/

theorem isUnmarked_of_mem_pushSegment {reversed : List String} {segment : String} {isLast : Bool}
    (hreversed : ∀ part ∈ reversed, IsUnmarked part) (hsegment : IsUnmarked segment) :
    ∀ part ∈ pushSegment reversed segment isLast, IsUnmarked part := by
  have hup : ∀ part ∈ reversed.drop 1, IsUnmarked part := fun part hpart =>
    hreversed part (List.mem_of_mem_drop hpart)
  unfold pushSegment
  split
  · split
    · exact List.forall_mem_cons.mpr ⟨isUnmarked_empty, hup⟩
    · exact hup
  · split
    · split
      · exact List.forall_mem_cons.mpr ⟨isUnmarked_empty, hreversed⟩
      · exact hreversed
    · exact List.forall_mem_cons.mpr ⟨hsegment, hreversed⟩

/-- The segments of a path are encoded. -/
theorem isUnmarked_of_mem_readSegments {parts : List (List Char)} : ∀ {reversed : List String},
    (∀ part ∈ reversed, IsUnmarked part) →
    ∀ part ∈ readSegments reversed parts, IsUnmarked part := by
  have hpart (part : List Char) : IsUnmarked (String.ofList (EncodeSet.path.encode part)) :=
    isUnmarked_encode (.inr (by decide))
  induction parts with
  | nil =>
      intro reversed h part hmem
      exact h part (List.mem_reverse.mp hmem)
  | cons first more ih =>
      intro reversed h part hmem
      cases more with
      | nil =>
          exact isUnmarked_of_mem_pushSegment h (hpart first) part (List.mem_reverse.mp hmem)
      | cons next more => exact ih (isUnmarked_of_mem_pushSegment h (hpart first)) part hmem

theorem isUnmarked_write_segments {parts : List String} (h : ∀ part ∈ parts, IsUnmarked part) :
    IsUnmarked (Path.segments parts).write := by
  intro c hc
  simp only [Path.write, String.toList_join, List.mem_flatMap, List.mem_map] at hc
  obtain ⟨_, ⟨part, hpart, rfl⟩, hin⟩ := hc
  exact IsUnmarked.append (by decide) (h part hpart) c hin

theorem isUnmarked_of_parsePathStart (kind : SchemeKind) (s : List Char) :
    IsUnmarked (parsePathStart kind s).write := by
  unfold parsePathStart
  split
  · split
    · exact isUnmarked_write_segments (by simpa using isUnmarked_empty)
    · exact isUnmarked_write_segments (by simp)
  · exact isUnmarked_write_segments (isUnmarked_of_mem_readSegments (by simp))

/-! ### The whole URL -/

theorem unmarked_of_parseBody {kind : SchemeKind} {scheme : String} {s : List Char}
    (hs : ∀ c ∈ s, isMark c = false) {written : Bool} {a : Authority} {path : Path}
    (h : parseBody kind scheme s = .ok (written, a, path)) :
    a.Unmarked ∧ IsUnmarked path.write := by
  have hnone : (⟨"", none, none, none⟩ : Authority).Unmarked :=
    ⟨isUnmarked_empty, by simp, by simp⟩
  unfold parseBody at h
  cases kind with
  | hosted =>
      simp only at h
      obtain ⟨read, hread, h⟩ := bind_eq_ok_iff.mp h
      cases h
      exact ⟨(unmarked_of_parseWithAuthority hread).1, isUnmarked_of_parsePathStart _ _⟩
  | file =>
      simp only at h
      split at h
      · obtain ⟨host, hread, h⟩ := bind_eq_ok_iff.mp h
        cases h
        exact ⟨⟨isUnmarked_empty, by simp, isUnmarked_of_parseFileHost hread⟩,
          isUnmarked_of_parsePathStart _ _⟩
      · cases h
        exact ⟨hnone, isUnmarked_of_parsePathStart _ _⟩
  | other =>
      simp only at h
      split at h
      · next rest =>
        obtain ⟨read, hread, h⟩ := bind_eq_ok_iff.mp h
        cases h
        exact ⟨(unmarked_of_parseWithAuthority hread).1, isUnmarked_of_parsePathStart _ _⟩
      · cases h
        exact ⟨hnone, isUnmarked_of_parsePathStart _ _⟩
      · cases h
        exact ⟨hnone, isUnmarked_encode (.inl hs)⟩

theorem isUnmarked_front {u : Url} (hscheme : IsUnmarked u.scheme)
    (ha : Authority.Unmarked ⟨u.username, u.password, u.host, u.port⟩)
    (hpath : IsUnmarked u.path.write) : IsUnmarked u.front := by
  have huserinfo : IsUnmarked u.writeUserinfo := by
    unfold writeUserinfo
    split
    · next password hpassword =>
      exact ((ha.username.append (by decide)).append (ha.password password hpassword)).append
        (by decide)
    · split
      · decide
      · exact ha.username.append (by decide)
  have hport : IsUnmarked (writeAfter ":" (u.port.map toString)) := by
    cases u.port with
    | none => decide
    | some n =>
        exact IsUnmarked.append (by decide) (isUnmarked_of_isVisible fun c hc =>
          isVisible_of_isDigit (Text.isDigit_of_mem_toString hc))
  have hhost : IsUnmarked (u.hostText?.getD "") := by
    unfold hostText?
    cases hhost : u.host with
    | none => decide
    | some host => exact ha.host host hhost
  have hguard : IsUnmarked u.path.guard := by
    unfold Path.guard
    split <;> decide
  unfold front
  refine ((hscheme.append (by decide)).append ?_).append hpath
  split
  · exact (IsUnmarked.append (by decide) huserinfo).append (hhost.append hport)
  · exact hguard

theorem isMark_toLower {c : Char} (h : isSchemeChar c = true) : isMark c.toLower = false := by
  by_cases hascii : c.toNat < 128
  · exact Text.forall_ascii (P := fun c => isSchemeChar c = true → isMark c.toLower = false)
      (by decide) hascii h
  · rw [Text.toLower_eq_self (by omega), isMark_eq_false_iff]
    constructor <;> rintro rfl <;> exact hascii (by decide)

/-- **A URL that is read** has its marks in front of query and fragment only. -/
theorem unmarked_of_parse {text : String} {u : Url} (h : parse text = .ok u) : u.Unmarked := by
  obtain ⟨rest, hread, hbody, hquery⟩ := exists_rest_of_parse h
  have hscheme : IsUnmarked u.scheme := by
    obtain ⟨written, -, hname, hwritten⟩ := scheme?_spec hread
    rw [← hname]
    intro c hc
    obtain ⟨d, hd, rfl⟩ := List.mem_map.mp (String.toList_ofList ▸ hc)
    exact isMark_toLower (hwritten.chars d hd)
  have hclean : ∀ c ∈ (cutTail rest).1, isMark c = false := by
    intro c hc
    rw [fst_cutTail] at hc
    simpa using List.mem_takeWhile_imp hc
  obtain ⟨ha, hpath⟩ := unmarked_of_parseBody hclean hbody
  refine ⟨isUnmarked_front hscheme ha hpath, fun q hq => ?_⟩
  rw [hquery] at hq
  obtain ⟨written, -, rfl⟩ := Option.map_eq_some_iff.mp hq
  rw [String.toList_ofList]
  split <;> exact EncodeSet.not_mem_encode (by decide) (by decide)

theorem write_eq_front (u : Url) :
    u.write = u.front ++ writeAfter "?" u.query ++ writeAfter "#" u.fragment :=
  rfl

/-- Query and fragment are cut off at their marks. -/
theorem cutTail_append {front : List Char} {query : Option (List Char)}
    (hfront : ∀ c ∈ front, isMark c = false) (hquery : ∀ q ∈ query, '#' ∉ q)
    (fragment : Option (List Char)) :
    cutTail (front ++ query.elim [] ('?' :: ·) ++ fragment.elim [] ('#' :: ·)) =
      (front, query, fragment) := by
  have hask : ∀ c ∈ front, (c == '?') = false := fun c hc =>
    beq_eq_false_iff_ne.mpr (isMark_eq_false_iff.mp (hfront c hc)).1
  have hhash : ∀ c ∈ front ++ query.elim [] ('?' :: ·), (c == '#') = false := by
    intro c hc
    rw [beq_eq_false_iff_ne]
    rintro rfl
    rcases List.mem_append.mp hc with hc | hc
    · exact (isMark_eq_false_iff.mp (hfront _ hc)).2 rfl
    · cases query with
      | none => simp at hc
      | some q => exact hquery q rfl (by simpa using hc)
  have hfragment : Text.cutAt? (· == '#')
      (front ++ query.elim [] ('?' :: ·) ++ fragment.elim [] ('#' :: ·)) =
        fragment.map (front ++ query.elim [] ('?' :: ·), ·) := by
    cases fragment with
    | none => simpa using Text.cutAt?_eq_none_iff.mpr hhash
    | some f => exact Text.cutAt?_eq_some_iff.mpr ⟨'#', rfl, rfl, hhash⟩
  have hcut : Text.cutAt? (· == '?') (front ++ query.elim [] ('?' :: ·)) =
      query.map (front, ·) := by
    cases query with
    | none => simpa using Text.cutAt?_eq_none_iff.mpr hask
    | some q => exact Text.cutAt?_eq_some_iff.mpr ⟨'?', rfl, rfl, hask⟩
  unfold cutTail
  rw [hfragment]
  cases fragment <;> cases query <;> simp_all

/-- **The query stands between the marks**: a reader cuts the text of a URL into what is in front of
the query, the query and the fragment. -/
theorem Unmarked.cutTail_write {u : Url} (h : u.Unmarked) : cutTail u.write.toList =
    (u.front.toList, u.query.map String.toList, u.fragment.map String.toList) := by
  have hafter (mark : String) (m : Char) (hm : mark.toList = [m]) (s : Option String) :
      (writeAfter mark s).toList = (s.map String.toList).elim [] (m :: ·) := by
    cases s <;> simp [writeAfter, hm]
  have hquery : ∀ q ∈ u.query.map String.toList, '#' ∉ q := by
    simpa using h.query
  rw [write_eq_front, String.toList_append, String.toList_append, hafter "?" '?' rfl,
    hafter "#" '#' rfl, cutTail_append h.front hquery]

/-- A query begins with its mark. -/
theorem query_cutTail_eq_none {s : List Char} (h : '?' ∉ s) : (cutTail s).2.1 = none := by
  have hcut {front : List Char} (hfront : front ⊆ s) : Text.cutAt? (· == '?') front = none :=
    Text.cutAt?_eq_none_iff.mpr fun c hc =>
      beq_eq_false_iff_ne.mpr fun heq => h (heq ▸ hfront hc)
  unfold cutTail
  cases hfragment : Text.cutAt? (· == '#') s with
  | none => simp only [hcut (List.Subset.refl s)]
  | some parts =>
      obtain ⟨c, hs, -⟩ := Text.cutAt?_eq_some_iff.mp hfragment
      have hfront : parts.1 ⊆ s := hs ▸ List.subset_append_left ..
      simp only [hcut hfront]

/-- What counts of a text is in it. -/
theorem cleaned_subset (s : List Char) : cleaned s ⊆ s := by
  intro c hc
  have htrimmed := (List.mem_filter.mp hc).1
  rw [Text.trimWhile, Text.dropEndWhile, List.mem_reverse] at htrimmed
  exact (List.dropWhile_sublist _).subset
    (List.mem_reverse.mp ((List.dropWhile_sublist _).subset htrimmed))

/-- A URL without a `?` has no query. -/
theorem query_eq_none_of_parse {text : String} {u : Url} (h : parse text = .ok u)
    (hask : '?' ∉ text.toList) : u.query = none := by
  obtain ⟨rest, hread, -, hquery⟩ := exists_rest_of_parse h
  obtain ⟨written, hwritten, -⟩ := scheme?_spec hread
  have hrest : '?' ∉ rest := fun hmem =>
    hask (cleaned_subset _ (hwritten ▸ List.mem_append_right _ (List.mem_cons_of_mem _ hmem)))
  rw [hquery, query_cutTail_eq_none hrest, Option.map_none]

/-- Encoded pairs do not end a query. -/
theorem Unmarked.appendPairs {u : Url} (h : u.Unmarked) (pairs : List (String × String)) :
    (u.appendPairs pairs).Unmarked := by
  have hadded : '#' ∉ (Form.encode pairs).toList := by
    intro hmem
    rcases Form.of_mem_encode hmem with hform | heq | heq
    · exact absurd hform (by decide)
    · exact absurd heq (by decide)
    · exact absurd heq (by decide)
  refine ⟨h.front, ?_⟩
  rintro _ ⟨⟩
  cases hquery : u.query with
  | none => exact hadded
  | some q =>
      have hold := h.query q hquery
      dsimp only
      split
      · exact hadded
      · simp [hold, hadded]

/-- **Pairs are added behind those that are there**, and all are read back. -/
theorem decode_appendPairs (u : Url) (pairs : List (String × String)) :
    ∃ q, (u.appendPairs pairs).query = some q ∧
      Form.decode q = Form.decode (u.query.getD "") ++ pairs := by
  refine ⟨_, rfl, ?_⟩
  have hempty : Form.decode "" = [] := rfl
  cases hquery : u.query with
  | none => exact Form.decode_encode pairs
  | some q =>
      simp only [Option.getD_some]
      split
      · next h =>
        rw [String.isEmpty_iff.mp h, hempty, Form.decode_encode, List.nil_append]
      · rw [Form.decode_append, Form.decode_encode]

end SignOn.Url
