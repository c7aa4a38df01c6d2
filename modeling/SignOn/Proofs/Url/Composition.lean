import Mathlib.Data.List.Nodup
import SignOn.Proofs.Text.Cutting
import SignOn.Proofs.Url.MappedCharacters
/-!
# The composed form of a name

Composing takes all characters apart, brings the marks of each letter in order and joins them again.
What comes out is taken apart to the same list (`canonical_recompose`), so the composed form of a
composed form is itself (`composed_composed`).  The reason is that a mark joins its letter only past
marks of a lower class: it can be put back where it was without a change of order.

Characters that are in no composition, such as the dot between two labels, stay where they are, and
what stands before and after them is composed for itself (`composed_append_cons`).
-/

namespace SignOn.DomainName

/-! ### Taking characters apart -/

/-- A composed character has one entry. -/
theorem eq_of_whole_eq {e f : Nat × Nat × Nat} (he : e ∈ compositions) (hf : f ∈ compositions)
    (h : e.1 = f.1) : e = f := by
  have hincreasing := List.isChain_iff_pairwise.mp wholes_increasing
  exact List.inj_on_of_nodup_map (hincreasing.imp Nat.ne_of_lt) he hf h

/-- A character that is not composed stays whole. -/
theorem decompose_of_not_mem {c : Char} (h : c.toNat ∉ wholes) (k : Nat) : decompose k c = [c] := by
  cases k with
  | zero => rfl
  | succ k =>
      unfold decompose
      split
      · next whole base mark hfind =>
        have hwhole : whole = c.toNat := by simpa using List.find?_some hfind
        exact (h (List.mem_map.mpr ⟨_, List.mem_of_find?_eq_some hfind, hwhole⟩)).elim
      · rfl

/-- A composed character is taken apart as its entry says. -/
theorem decompose_of_mem {e : Nat × Nat × Nat} (he : e ∈ compositions) {c : Char}
    (hc : c.toNat = e.1) (k : Nat) :
    decompose (k + 1) c = decompose k (Char.ofNat e.2.1) ++ [Char.ofNat e.2.2] := by
  rw [decompose]
  split
  · next whole base mark hfind =>
    have hwhole : whole = c.toNat := by simpa using List.find?_some hfind
    rw [← eq_of_whole_eq (List.mem_of_find?_eq_some hfind) he (hwhole.trans hc)]
  · next hfind =>
    rw [List.find?_eq_none] at hfind
    exact absurd hc.symm (by simpa using hfind e he)

/-- The first part of a composition keeps its number. -/
theorem toNat_base {e : Nat × Nat × Nat} (he : e ∈ compositions) :
    (Char.ofNat e.2.1).toNat = e.2.1 :=
  Text.toNat_ofNat (isEntry_of_mem e he).base.2

/-- The second part of a composition keeps its number. -/
theorem toNat_mark {e : Nat × Nat × Nat} (he : e ∈ compositions) :
    (Char.ofNat e.2.2).toNat = e.2.2 :=
  Text.toNat_ofNat (isEntry_of_mem e he).mark.2

/-- A character that is not deep is taken apart in so many steps. -/
theorem decompose_succ {k : Nat} : ∀ {c : Char}, c.toNat ∉ deep k →
    decompose (k + 1) c = decompose k c := by
  induction k with
  | zero => exact fun h => decompose_of_not_mem h 1
  | succ k ih =>
      intro c h
      by_cases hc : c.toNat ∈ wholes
      · obtain ⟨e, he, hwhole⟩ := List.mem_map.mp hc
        have hbase : (Char.ofNat e.2.1).toNat ∉ deep k := by
          rw [toNat_base he]
          exact fun hmem => h (List.mem_map.mpr
            ⟨e, List.mem_filter.mpr ⟨he, (testBit_bits _ _).mpr hmem⟩, hwhole⟩)
        rw [decompose_of_mem he hwhole.symm, decompose_of_mem he hwhole.symm, ih hbase]
      · rw [decompose_of_not_mem hc, decompose_of_not_mem hc]

/-- What a character is taken apart to is in parts, which are not composed. -/
theorem not_mem_wholes_of_mem_decompose {k : Nat} : ∀ {c d : Char}, c.toNat ∉ deep k →
    d ∈ decompose k c → d.toNat ∉ wholes := by
  induction k with
  | zero =>
      intro c d h hd
      rw [decompose, List.mem_singleton] at hd
      exact hd ▸ h
  | succ k ih =>
      intro c d h hd
      by_cases hc : c.toNat ∈ wholes
      · obtain ⟨e, he, hwhole⟩ := List.mem_map.mp hc
        rw [decompose_of_mem he hwhole.symm, List.mem_append, List.mem_singleton] at hd
        rcases hd with hd | rfl
        · refine ih ?_ hd
          rw [toNat_base he]
          exact fun hmem => h (List.mem_map.mpr
            ⟨e, List.mem_filter.mpr ⟨he, (testBit_bits _ _).mpr hmem⟩, hwhole⟩)
        · rw [toNat_mark he]
          exact not_mem_of_bits marks_not_wholes (List.mem_map.mpr ⟨e, he, rfl⟩)
      · rw [decompose_of_not_mem hc, List.mem_singleton] at hd
        exact hd ▸ hc

/-- What a character is taken apart to is the character or a part of one. -/
theorem mem_decompose {k : Nat} : ∀ {c d : Char}, d ∈ decompose k c → d = c ∨ d.toNat ∈ parts := by
  induction k with
  | zero => exact fun hd => .inl (List.mem_singleton.mp hd)
  | succ k ih =>
      intro c d hd
      by_cases hc : c.toNat ∈ wholes
      · obtain ⟨e, he, hwhole⟩ := List.mem_map.mp hc
        rw [decompose_of_mem he hwhole.symm, List.mem_append, List.mem_singleton] at hd
        refine .inr (hd.elim (fun hd => (ih hd).elim ?_ id) ?_)
        · rintro rfl
          rw [toNat_base he]
          exact List.mem_flatMap.mpr ⟨e, he, by simp⟩
        · rintro rfl
          rw [toNat_mark he]
          exact List.mem_flatMap.mpr ⟨e, he, by simp⟩
      · rw [decompose_of_not_mem hc, List.mem_singleton] at hd
        exact .inl hd

/-- Three steps take every character apart. -/
theorem not_mem_deep (c : Char) : c.toNat ∉ deep 3 := by
  rw [deep_three]
  exact List.not_mem_nil

/-- A letter and a mark that compose are what the composed character is taken apart to. -/
theorem decompose_of_compose? {base mark whole : Char} (h : compose? base mark = some whole) :
    decompose 3 whole = decompose 3 base ++ [mark] := by
  obtain ⟨e, hfind, rfl⟩ := Option.map_eq_some_iff.mp h
  have he := List.mem_of_find?_eq_some hfind
  have hparts : e.2.1 = base.toNat ∧ e.2.2 = mark.toNat := by simpa using List.find?_some hfind
  have hwhole : (Char.ofNat e.1).toNat = e.1 :=
    Text.toNat_ofNat (isEntry_of_mem e he).whole.2
  rw [← decompose_succ (not_mem_deep _), decompose_of_mem he hwhole, hparts.1, hparts.2,
    Char.ofNat_toNat, Char.ofNat_toNat]

/-! ### The order of marks -/

/-- A character may follow another: a letter always, a mark unless it is one of a lower class. -/
def Follows (c d : Char) : Prop :=
  markClass d = 0 ∨ markClass c ≤ markClass d

/-- Put a character behind those that are placed, last one first. -/
def place (placed : List Char) (c : Char) : List Char :=
  if markClass c = 0 then c :: placed else insertMark c placed

theorem orderMarks_eq (s : List Char) : orderMarks s = (s.foldl place []).reverse :=
  rfl

/-- A mark stands behind the marks that do not come after it. -/
theorem insertMark_eq (c : Char) (placed : List Char) : insertMark c placed =
    placed.takeWhile (fun d => markClass c < markClass d) ++
      c :: placed.dropWhile (fun d => markClass c < markClass d) := by
  simp only [insertMark, Text.drop_length_takeWhile]

theorem mem_place {c d : Char} {placed : List Char} :
    d ∈ place placed c ↔ d = c ∨ d ∈ placed := by
  unfold place
  split
  · exact List.mem_cons
  · rw [insertMark_eq, List.mem_append, List.mem_cons, or_left_comm, ← List.mem_append,
      List.takeWhile_append_dropWhile]

theorem mem_foldl_place {d : Char} (s : List Char) : ∀ placed : List Char,
    d ∈ s.foldl place placed ↔ d ∈ s ∨ d ∈ placed := by
  induction s with
  | nil => simp
  | cons c s ih =>
      intro placed
      rw [List.foldl_cons, ih, mem_place, List.mem_cons, or_assoc, or_left_comm]

/-- Ordering the marks keeps the characters. -/
theorem mem_orderMarks {d : Char} {s : List Char} : d ∈ orderMarks s ↔ d ∈ s := by
  rw [orderMarks_eq, List.mem_reverse, mem_foldl_place, or_iff_left List.not_mem_nil]

/-- Placing a character keeps the order. -/
theorem isChain_place {placed : List Char} (h : placed.IsChain (flip Follows)) (c : Char) :
    (place placed c).IsChain (flip Follows) := by
  unfold place
  split
  · next hc => exact List.isChain_cons.mpr ⟨fun d _ => .inl hc, h⟩
  · rw [insertMark_eq]
    have hsplit := List.takeWhile_append_dropWhile
      (p := fun d => decide (markClass c < markClass d)) (l := placed)
    rw [← hsplit, List.isChain_append] at h
    refine List.isChain_append.mpr ⟨h.1, List.isChain_cons.mpr ⟨?_, h.2.1⟩, ?_⟩
    · -- The search has stopped before a character that is not of a higher class.
      intro d hd
      have hstop := Text.head?_dropWhile (fun d => decide (markClass c < markClass d)) placed d hd
      exact .inr (by simpa using hstop)
    · intro d hd e he
      obtain rfl : e = c := by simpa [eq_comm] using he
      have hhigher := List.mem_takeWhile_imp (List.mem_of_mem_getLast? hd)
      exact .inr (Nat.le_of_lt (by simpa using hhigher))

theorem isChain_foldl_place (s : List Char) : ∀ placed : List Char,
    placed.IsChain (flip Follows) → (s.foldl place placed).IsChain (flip Follows) := by
  induction s with
  | nil => exact fun _ h => h
  | cons c s ih => exact fun placed h => ih _ (isChain_place h c)

/-- Ordered marks are in order. -/
theorem isChain_orderMarks (s : List Char) : (orderMarks s).IsChain Follows := by
  rw [orderMarks_eq, List.isChain_reverse]
  exact isChain_foldl_place s [] .nil

/-- What is in order is placed as it stands. -/
theorem foldl_place_of_isChain (s : List Char) : ∀ placed : List Char,
    (placed.reverse ++ s).IsChain Follows → s.foldl place placed = s.reverse ++ placed := by
  induction s with
  | nil => exact fun _ _ => rfl
  | cons c s ih =>
      intro placed h
      have hplace : place placed c = c :: placed := by
        unfold place
        split
        · rfl
        · next hc =>
          cases placed with
          | nil => rfl
          | cons d placed =>
              have hfollows : Follows d c := by
                rw [List.isChain_append] at h
                exact h.2.2 d (by simp) c rfl
              have hle := hfollows.resolve_left hc
              simp [insertMark, Nat.not_lt.mpr hle]
      rw [List.foldl_cons, hplace, ih _ (by simpa using h)]
      simp

/-- Marks in order stay as they are. -/
theorem orderMarks_of_isChain {s : List Char} (h : s.IsChain Follows) : orderMarks s = s := by
  rw [orderMarks_eq, foldl_place_of_isChain s [] h]
  simp

/-- A mark is placed behind those of lower class, whichever comes first. -/
theorem place_comm {c d : Char} (hd : markClass d ≠ 0) (h : markClass d < markClass c)
    (placed : List Char) : place (place placed c) d = place (place placed d) c := by
  have hc : markClass c ≠ 0 := by omega
  simp only [place, if_neg hc, if_neg hd]
  induction placed with
  | nil => simp [insertMark, h, Nat.not_lt.mpr (Nat.le_of_lt h)]
  | cons e placed ih =>
      by_cases hhigh : markClass c < markClass e
      · have hhigh' : markClass d < markClass e := by omega
        simpa [insertMark, hhigh, hhigh'] using ih
      · by_cases hmid : markClass d < markClass e
        · simp [insertMark, hhigh, hmid, h]
        · simp [insertMark, hhigh, hmid, h, Nat.not_lt.mpr (Nat.le_of_lt h)]

theorem foldl_place_comm {c : Char} (marks : List Char)
    (h : ∀ d ∈ marks, markClass d ≠ 0 ∧ markClass d < markClass c) : ∀ placed : List Char,
    marks.foldl place (place placed c) = place (marks.foldl place placed) c := by
  induction marks with
  | nil => exact fun _ => rfl
  | cons d marks ih =>
      intro placed
      obtain ⟨⟨hd, hlower⟩, hmarks⟩ := List.forall_mem_cons.mp h
      rw [List.foldl_cons, place_comm hd hlower, ih hmarks, List.foldl_cons]

/-- A letter is a wall: what comes after it is placed without a look at what stands before. -/
theorem place_append {c : Char} (hc : markClass c = 0) (d : Char) (front placed : List Char) :
    place (front ++ c :: placed) d = place front d ++ c :: placed := by
  unfold place
  split
  · rfl
  · next hd =>
    induction front with
    | nil => simp [insertMark, hc]
    | cons e front ih =>
        by_cases hhigh : markClass d < markClass e
        · simpa [insertMark, hhigh] using ih
        · simp [insertMark, hhigh]

theorem foldl_place_append {c : Char} (hc : markClass c = 0) (placed s : List Char) :
    ∀ front : List Char,
      s.foldl place (front ++ c :: placed) = s.foldl place front ++ c :: placed := by
  induction s with
  | nil => exact fun _ => rfl
  | cons d s ih =>
      intro front
      rw [List.foldl_cons, place_append hc, ih, List.foldl_cons]

/-! ### Composing -/

/-- The characters taken apart, with the marks of each letter in order. -/
def canonical (s : List Char) : List Char :=
  orderMarks (s.flatMap (decompose 3))

/-- Letters joined with their marks. -/
def recompose : List Char → List Char
  | [] => []
  | c :: rest => composeFrom c [] rest

/-- A character that is in no composition, neither as a whole nor as a part. -/
def IsInert (c : Char) : Prop :=
  c.toNat < 97 ∨ 122 < c.toNat ∧ c.toNat < 128

theorem IsInert.not_mem {c : Char} (h : IsInert c) : c.toNat ∉ wholes ++ parts := by
  intro hmem
  rcases List.mem_append.mp hmem with hmem | hmem
  · obtain ⟨e, he, hwhole⟩ := List.mem_map.mp hmem
    have hrange := (isEntry_of_mem e he).whole
    rcases h with h | h <;> omega
  · obtain ⟨e, he, hpart⟩ := List.mem_flatMap.mp hmem
    have hletter := (isEntry_of_mem e he).letter
    have hmark := (isEntry_of_mem e he).mark
    simp only [List.mem_cons, List.not_mem_nil, or_false] at hpart
    rcases h with h | h <;> omega

theorem IsInert.decompose {c : Char} (h : IsInert c) (k : Nat) : decompose k c = [c] :=
  decompose_of_not_mem (fun hmem => h.not_mem (List.mem_append_left _ hmem)) k

/-- Characters of ASCII are letters, not marks. -/
theorem markClass_of_lt {c : Char} (h : c.toNat < 0x300) : markClass c = 0 := by
  simp [markClass, h]

theorem IsInert.markClass {c : Char} (h : IsInert c) : markClass c = 0 :=
  markClass_of_lt (by rcases h with h | h <;> omega)

/-- What composes is in the table. -/
theorem compose?_eq_none {base mark : Char} (h : ∀ e ∈ compositions,
    e.2.1 = base.toNat → e.2.2 ≠ mark.toNat) : compose? base mark = none := by
  unfold compose?
  rw [Option.map_eq_none_iff, List.find?_eq_none]
  intro e he hparts
  simp only [decide_eq_true_eq] at hparts
  exact h e he hparts.1 hparts.2

/-- A character that no mark joins. -/
def IsBare (c : Char) : Prop :=
  ∀ mark, compose? c mark = none

theorem IsInert.isBare {c : Char} (h : IsInert c) : IsBare c := fun _ =>
  compose?_eq_none fun e he hbase _ => h.not_mem <| List.mem_append_right _ <|
    List.mem_flatMap.mpr ⟨e, he, by simp [hbase]⟩

theorem isBare_of_mark {c : Char} (h : markClass c ≠ 0) : IsBare c := fun _ =>
  compose?_eq_none fun e he hbase _ => by
    have hrange := (isEntry_of_mem e he).base.1
    exact h (by simp [markClass, ← hbase, hrange])

/-- What becomes of the next character: it joins past the marks that wait, it is a letter on which
the next marks stand, or it is a mark that waits with the others. -/
theorem composeFrom_cons (base c : Char) (held rest : List Char) :
    (∃ whole, compose? base c = some whole ∧ (∀ l ∈ held.head?, markClass l < markClass c) ∧
      composeFrom base held (c :: rest) = composeFrom whole held rest) ∨
    (markClass c = 0 ∧
      composeFrom base held (c :: rest) = base :: (held.reverse ++ composeFrom c [] rest)) ∨
    (markClass c ≠ 0 ∧ composeFrom base held (c :: rest) = composeFrom base (c :: held) rest) := by
  by_cases hlast : ∀ l ∈ held.head?, markClass l < markClass c
  · cases hjoin : compose? base c with
    | some whole =>
        refine .inl ⟨whole, rfl, hlast, ?_⟩
        cases held with
        | nil => simp [composeFrom, hjoin]
        | cons l held =>
            have hfree : markClass l < markClass c := by simpa using hlast
            simp [composeFrom, hjoin, Nat.not_le.mpr hfree]
    | none =>
        by_cases hc : markClass c = 0
        · exact .inr (.inl ⟨hc, by simp [composeFrom, hjoin, hc]⟩)
        · exact .inr (.inr ⟨hc, by simp [composeFrom, hjoin, hc]⟩)
  · cases held with
    | nil => simp at hlast
    | cons l held =>
        have hblocked : markClass c ≤ markClass l := by simpa using hlast
        by_cases hc : markClass c = 0
        · exact .inr (.inl ⟨hc, by simp [composeFrom, hc]⟩)
        · exact .inr (.inr ⟨hc, by simp [composeFrom, hblocked, hc]⟩)

/-- Nothing joins a bare character, so what follows it is composed for itself. -/
theorem composeFrom_of_isBare (rest : List Char) : ∀ {c : Char}, IsBare c → ∀ held : List Char,
    composeFrom c held rest = c :: (held.reverse ++ recompose rest) := by
  induction rest with
  | nil => intro c _ held; simp [composeFrom, recompose]
  | cons d rest ih =>
      intro c hc held
      unfold composeFrom
      simp only [hc d, ite_self]
      by_cases hd : markClass d = 0
      · simp [hd, recompose]
      · simp [hd, recompose, ih hc, ih (isBare_of_mark hd) []]

/-- Composing is done between inert characters. -/
theorem recompose_append_cons {d : Char} (hd : IsInert d) (s t : List Char) :
    recompose (s ++ d :: t) = recompose s ++ d :: recompose t := by
  have hmark (c : Char) : compose? c d = none :=
    compose?_eq_none fun e he _ hmark => hd.not_mem <| List.mem_append_right _ <|
      List.mem_flatMap.mpr ⟨e, he, by simp [hmark]⟩
  have hfrom (rest : List Char) : ∀ (c : Char) (held : List Char),
      composeFrom c held (rest ++ d :: t) = composeFrom c held rest ++ d :: recompose t := by
    induction rest with
    | nil =>
        intro c held
        have hrest := composeFrom_of_isBare t hd.isBare []
        simp [composeFrom, hmark, hd.markClass, hrest]
    | cons e rest ih =>
        intro c held
        simp only [List.cons_append, composeFrom]
        split
        · exact ih _ _
        · split
          · simp [ih]
          · exact ih _ _
  cases s with
  | nil => simpa [recompose] using composeFrom_of_isBare t hd.isBare []
  | cons c s => exact hfrom s c []

/-- Marks are ordered between inert characters. -/
theorem canonical_append_cons {d : Char} (hd : IsInert d) (s t : List Char) :
    canonical (s ++ d :: t) = canonical s ++ d :: canonical t := by
  have hplace (placed : List Char) : place placed d = d :: placed := by
    simp [place, hd.markClass]
  have hwall (placed : List Char) := foldl_place_append hd.markClass placed
    (t.flatMap (decompose 3)) []
  simp only [List.nil_append] at hwall
  simp only [canonical, orderMarks_eq, List.flatMap_append, List.flatMap_cons, hd.decompose,
    List.foldl_append, List.singleton_append, List.foldl_cons, hplace, hwall]
  simp

/-- Marks that wait behind a letter, last one first, and the characters after them: all in order. -/
structure Waiting (held rest : List Char) : Prop where
  marks : ∀ m ∈ held, markClass m ≠ 0
  last : ∀ l ∈ held.head?, ∀ m ∈ held, markClass m ≤ markClass l
  next : ∀ l ∈ held.head?, ∀ c ∈ rest.head?, Follows l c
  rest : rest.IsChain Follows

/-- Nothing waits behind a letter that has just been read. -/
theorem Waiting.start {held rest : List Char} {c : Char} (h : Waiting held (c :: rest)) :
    Waiting [] rest :=
  ⟨by simp, by simp, by simp, h.rest.tail⟩

/-- A mark that does not join waits behind the others. -/
theorem Waiting.hold {held rest : List Char} {c : Char} (h : Waiting held (c :: rest))
    (hc : markClass c ≠ 0) : Waiting (c :: held) rest := by
  refine ⟨List.forall_mem_cons.mpr ⟨hc, h.marks⟩, ?_, ?_, h.rest.tail⟩
  · rintro l ⟨⟩
    refine List.forall_mem_cons.mpr ⟨Nat.le_refl _, fun m hm => ?_⟩
    cases hl : held.head? with
    | none => simp [List.head?_eq_none_iff.mp hl] at hm
    | some l =>
        have hbehind := (h.next l hl c rfl).resolve_left hc
        exact Nat.le_trans (h.last l hl m hm) hbehind
  · rintro l ⟨⟩ d hd
    exact (List.isChain_cons.mp h.rest).1 d hd

/-- A mark joins past those that wait if it is of a higher class than the last of them. -/
theorem Waiting.join {held rest : List Char} {c : Char} (h : Waiting held (c :: rest))
    (hlast : ∀ l ∈ held.head?, markClass l < markClass c) :
    Waiting held rest ∧ ∀ m ∈ held, markClass m ≠ 0 ∧ markClass m < markClass c := by
  refine ⟨⟨h.marks, h.last, ?_, h.rest.tail⟩, fun m hm => ⟨h.marks m hm, ?_⟩⟩
  · intro l hl d hd
    have hlower := hlast l hl
    rcases (List.isChain_cons.mp h.rest).1 d hd with hzero | hle
    · exact .inl hzero
    · exact .inr (by omega)
  · cases hl : held.head? with
    | none => simp [List.head?_eq_none_iff.mp hl] at hm
    | some l => exact Nat.lt_of_le_of_lt (h.last l hl m hm) (hlast l hl)

/-- What is composed is taken apart and placed as what it was composed of. -/
theorem foldl_place_composeFrom (rest : List Char) : ∀ (base : Char) (held placed : List Char),
    Waiting held rest → (∀ c ∈ held, decompose 3 c = [c]) → (∀ c ∈ rest, decompose 3 c = [c]) →
    ((composeFrom base held rest).flatMap (decompose 3)).foldl place placed =
      (decompose 3 base ++ (held.reverse ++ rest)).foldl place placed := by
  have hapart {s : List Char} (hs : ∀ c ∈ s, decompose 3 c = [c]) :
      s.flatMap (decompose 3) = s := by
    rw [List.flatMap_congr hs]
    exact List.flatMap_singleton' s
  induction rest with
  | nil =>
      intro base held placed _ hheld _
      have hreverse := hapart (s := held.reverse) (by simpa using hheld)
      simp [composeFrom, hreverse]
  | cons c rest ih =>
      intro base held placed hwait hheld hrest
      obtain ⟨hc, hrest⟩ := List.forall_mem_cons.mp hrest
      have hreverse := hapart (s := held.reverse) (by simpa using hheld)
      rcases composeFrom_cons base c held rest with ⟨whole, hjoin, hlast, heq⟩ | ⟨-, heq⟩ |
        ⟨hmark, heq⟩
      · -- The mark joins, so it stands behind the letter and not behind those that wait.
        obtain ⟨hwait, hlower⟩ := hwait.join hlast
        have hmarks := foldl_place_comm held.reverse (by simpa using hlower)
          ((decompose 3 base).foldl place placed)
        rw [heq, ih whole held placed hwait hheld hrest, decompose_of_compose? hjoin]
        simp only [List.foldl_append, List.foldl_cons, List.foldl_nil, hmarks]
      · rw [heq, List.flatMap_cons, List.flatMap_append, hreverse]
        simp only [List.foldl_append]
        rw [ih c [] _ hwait.start (by simp) hrest, hc]
        simp
      · rw [heq, ih base (c :: held) placed (hwait.hold hmark)
          (List.forall_mem_cons.mpr ⟨hc, hheld⟩) hrest]
        simp

/-- **Composing is undone** by taking apart. -/
theorem canonical_recompose {t : List Char} (h : t.IsChain Follows)
    (hapart : ∀ c ∈ t, decompose 3 c = [c]) : canonical (recompose t) = t := by
  cases t with
  | nil => rfl
  | cons c rest =>
      obtain ⟨hc, hrest⟩ := List.forall_mem_cons.mp hapart
      have hwait : Waiting [] rest := ⟨by simp, by simp, by simp, h.tail⟩
      calc canonical (recompose (c :: rest))
          = (((composeFrom c [] rest).flatMap (decompose 3)).foldl place []).reverse := rfl
        _ = ((c :: rest).foldl place []).reverse := by
            rw [foldl_place_composeFrom rest c [] [] hwait (by simp) hrest, hc]
            rfl
        _ = c :: rest := orderMarks_of_isChain h

/-- What is canonical is taken apart and in order. -/
theorem isChain_canonical (s : List Char) : (canonical s).IsChain Follows :=
  isChain_orderMarks _

theorem decompose_of_mem_canonical {s : List Char} {c : Char} (h : c ∈ canonical s) :
    decompose 3 c = [c] := by
  obtain ⟨d, -, hd⟩ := List.mem_flatMap.mp (mem_orderMarks.mp h)
  exact decompose_of_not_mem (not_mem_wholes_of_mem_decompose (not_mem_deep d) hd) 3

/-- Characters of ASCII are neither taken apart nor joined. -/
theorem recompose_canonical_of_ascii {s : List Char} (h : ∀ c ∈ s, c.toNat < 128) :
    recompose (canonical s) = s := by
  have hapart : s.flatMap (decompose 3) = s := by
    have hwhole (c : Char) (hc : c ∈ s) : decompose 3 c = [c] := by
      refine decompose_of_not_mem (fun hmem => ?_) 3
      obtain ⟨e, he, hwhole⟩ := List.mem_map.mp hmem
      have hrange := (isEntry_of_mem e he).whole
      have hascii := h c hc
      omega
    rw [List.flatMap_congr hwhole]
    exact List.flatMap_singleton' s
  have hordered : s.IsChain Follows := by
    refine (List.pairwise_of_forall_mem_list ?_).isChain
    exact fun c _ d hd => .inl (markClass_of_lt (Nat.lt_trans (h d hd) (by decide)))
  have hfrom : ∀ (rest : List Char) (c : Char), (∀ d ∈ rest, d.toNat < 128) →
      composeFrom c [] rest = c :: rest := by
    intro rest
    induction rest with
    | nil => simp [composeFrom]
    | cons d rest ih =>
        intro c hrest
        obtain ⟨hd, hrest⟩ := List.forall_mem_cons.mp hrest
        have hnone : compose? c d = none := compose?_eq_none fun e he _ hmark => by
          have hrange := (isEntry_of_mem e he).mark
          omega
        have hclass : markClass d = 0 := markClass_of_lt (by omega)
        simp [composeFrom, hnone, hclass, ih d hrest]
  rw [canonical, hapart, orderMarks_of_isChain hordered]
  cases s with
  | nil => rfl
  | cons c rest => exact hfrom rest c (List.forall_mem_cons.mp h).2

/-- The composed form of any list. -/
theorem composed_eq (s : List Char) : composed s = recompose (canonical s) := by
  unfold composed
  split
  · next hascii => exact (recompose_canonical_of_ascii (by simpa using hascii)).symm
  · rfl

/-- **The composed form of a composed form is itself.** -/
theorem composed_composed (s : List Char) : composed (composed s) = composed s := by
  rw [composed_eq, composed_eq s, canonical_recompose (isChain_canonical s)
    fun c hc => decompose_of_mem_canonical hc]

/-- What stands between inert characters is composed for itself. -/
theorem composed_append_cons {d : Char} (hd : IsInert d) (s t : List Char) :
    composed (s ++ d :: t) = composed s ++ d :: composed t := by
  simp only [composed_eq, canonical_append_cons hd, recompose_append_cons hd]

/-! ### The characters of a composed form -/

theorem mem_composeFrom {c : Char} (rest : List Char) : ∀ {base : Char} {held : List Char},
    c ∈ composeFrom base held rest → c = base ∨ c ∈ held ∨ c ∈ rest ∨ c.toNat ∈ wholes := by
  induction rest with
  | nil =>
      intro base held h
      simp only [composeFrom, List.mem_cons, List.mem_reverse] at h
      exact h.imp_right .inl
  | cons d rest ih =>
      intro base held h
      rcases composeFrom_cons base d held rest with ⟨whole, hjoin, -, heq⟩ | ⟨-, heq⟩ | ⟨-, heq⟩
      · rw [heq] at h
        rcases ih h with rfl | h | h | h
        · obtain ⟨e, hfind, rfl⟩ := Option.map_eq_some_iff.mp hjoin
          have he := List.mem_of_find?_eq_some hfind
          rw [Text.toNat_ofNat (isEntry_of_mem e he).whole.2]
          exact .inr (.inr (.inr (List.mem_map.mpr ⟨e, he, rfl⟩)))
        · exact .inr (.inl h)
        · exact .inr (.inr (.inl (List.mem_cons_of_mem _ h)))
        · exact .inr (.inr (.inr h))
      · rw [heq, List.mem_cons, List.mem_append, List.mem_reverse] at h
        rcases h with h | h | h
        · exact .inl h
        · exact .inr (.inl h)
        · have hlater := ih h
          simp only [List.not_mem_nil, false_or] at hlater
          rw [List.mem_cons, or_assoc]
          exact .inr (.inr hlater)
      · rw [heq] at h
        have hlater := ih h
        rw [List.mem_cons] at hlater ⊢
        tauto

/-- A character of a composed form was there before, or is in a composition. -/
theorem mem_composed {c : Char} {s : List Char} (h : c ∈ composed s) :
    c ∈ s ∨ c.toNat ∈ wholes ++ parts := by
  have hcanonical {c : Char} (hc : c ∈ canonical s) : c ∈ s ∨ c.toNat ∈ wholes ++ parts := by
    obtain ⟨d, hd, hmem⟩ := List.mem_flatMap.mp (mem_orderMarks.mp hc)
    rcases mem_decompose hmem with rfl | hpart
    · exact .inl hd
    · exact .inr (List.mem_append_right _ hpart)
  rw [composed_eq] at h
  cases ht : canonical s with
  | nil => simp [ht, recompose] at h
  | cons b rest =>
      rw [ht] at h hcanonical
      rcases mem_composeFrom rest h with rfl | h | h | h
      · exact hcanonical (List.mem_cons_self ..)
      · cases h
      · exact hcanonical (List.mem_cons_of_mem _ h)
      · exact .inr (List.mem_append_left _ h)

/-- Inert characters stay. -/
theorem mem_composed_iff {d : Char} (hd : IsInert d) {s : List Char} :
    d ∈ composed s ↔ d ∈ s := by
  constructor
  · exact fun h => (mem_composed h).resolve_right hd.not_mem
  · intro h
    obtain ⟨front, rest, rfl⟩ := List.append_of_mem h
    rw [composed_append_cons hd]
    exact List.mem_append_right _ (List.mem_cons_self ..)

end SignOn.DomainName
