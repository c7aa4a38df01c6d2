import Mathlib.Data.List.TakeWhile
import SignOn.Text.Split
/-!
# Pieces and prefixes

A text that is cut into pieces is those pieces with the separator between them, and no piece holds
a separator (`splitWhere_eq_cons_cons`, `splitOn_eq_three`).  So a piece is what stands without a
separator between two of them or the ends of the text (`mem_splitWhere_iff`), and what is left of it
after trimming is what stands between its marks (`trimWhile_eq_iff`).  The last separator cuts a
text in one way (`append_cons_inj`).  What follows a prefix is the rest of the text
(`dropPrefix?_eq_some_iff`).
-/

namespace SignOn.Text

/-- There is always a first piece. -/
theorem splitWhere_ne_nil (p : Char → Bool) (s : List Char) : splitWhere p s ≠ [] := by
  cases s with
  | nil => exact List.cons_ne_nil _ _
  | cons c rest =>
      unfold splitWhere
      split
      · exact List.cons_ne_nil _ _
      · split <;> exact List.cons_ne_nil _ _

/-- A character that is not marked is put in front of the first piece. -/
theorem exists_splitWhere_cons {p : Char → Bool} {c : Char} (hc : ¬p c = true) (s : List Char) :
    ∃ first pieces, splitWhere p s = first :: pieces ∧
      splitWhere p (c :: s) = (c :: first) :: pieces := by
  obtain ⟨first, pieces, hs⟩ := List.exists_cons_of_ne_nil (splitWhere_ne_nil p s)
  exact ⟨first, pieces, hs, by rw [splitWhere, if_neg hc, hs]⟩

/-- A text is its only piece when no character of it is marked. -/
theorem splitWhere_eq_singleton (p : Char → Bool) (s piece : List Char) :
    splitWhere p s = [piece] ↔ s = piece ∧ ∀ c ∈ piece, p c = false := by
  induction s generalizing piece with
  | nil => cases piece <;> simp [splitWhere]
  | cons c rest ih =>
      by_cases hc : p c = true
      · rw [splitWhere, if_pos hc]
        constructor
        · intro h
          exact (splitWhere_ne_nil p rest (List.cons.inj h).2).elim
        · intro hparts
          obtain ⟨rfl, hnone⟩ := hparts
          simp [hnone c List.mem_cons_self] at hc
      · obtain ⟨first, pieces, hrest, hsplit⟩ := exists_splitWhere_cons hc rest
        rw [hsplit]
        rw [hrest] at ih
        constructor
        · intro h
          obtain ⟨rfl, rfl⟩ := List.cons.inj h
          obtain ⟨rfl, hnone⟩ := (ih first).mp rfl
          exact ⟨rfl, List.forall_mem_cons.mpr ⟨by simpa using hc, hnone⟩⟩
        · intro hparts
          obtain ⟨rfl, hnone⟩ := hparts
          have h := (ih rest).mpr ⟨rfl, (List.forall_mem_cons.mp hnone).2⟩
          obtain ⟨rfl, rfl⟩ := List.cons.inj h
          rfl

/-- A text of several pieces has its first marked character after the first piece. -/
theorem splitWhere_eq_cons_cons (p : Char → Bool) (s piece next : List Char)
    (more : List (List Char)) :
    splitWhere p s = piece :: next :: more ↔
      ∃ c rest, s = piece ++ c :: rest ∧ p c = true ∧ (∀ d ∈ piece, p d = false) ∧
        splitWhere p rest = next :: more := by
  induction s generalizing piece with
  | nil => cases piece <;> simp [splitWhere]
  | cons c rest ih =>
      by_cases hc : p c = true
      · rw [splitWhere, if_pos hc]
        constructor
        · intro h
          obtain ⟨rfl, hmore⟩ := List.cons.inj h
          exact ⟨c, rest, rfl, hc, by simp, hmore⟩
        · intro hparts
          obtain ⟨d, rest', hs, hd, hnone, hmore⟩ := hparts
          cases piece with
          | nil =>
              obtain ⟨rfl, rfl⟩ := List.cons.inj hs
              rw [hmore]
          | cons e piece =>
              obtain ⟨rfl, -⟩ := List.cons.inj hs
              simp [hnone c List.mem_cons_self] at hc
      · obtain ⟨first, pieces, hrest, hsplit⟩ := exists_splitWhere_cons hc rest
        rw [hsplit]
        rw [hrest] at ih
        constructor
        · intro h
          obtain ⟨rfl, rfl⟩ := List.cons.inj h
          obtain ⟨d, rest', rfl, hd, hnone, hmore⟩ := (ih first).mp rfl
          exact ⟨d, rest', rfl, hd, List.forall_mem_cons.mpr ⟨by simpa using hc, hnone⟩, hmore⟩
        · intro hparts
          obtain ⟨d, rest', hs, hd, hnone, hmore⟩ := hparts
          cases piece with
          | nil =>
              obtain ⟨rfl, -⟩ := List.cons.inj hs
              exact (hc hd).elim
          | cons e piece =>
              obtain ⟨rfl, rfl⟩ := List.cons.inj hs
              have h := (ih piece).mpr ⟨d, rest', rfl, hd,
                (List.forall_mem_cons.mp hnone).2, hmore⟩
              obtain ⟨rfl, rfl⟩ := List.cons.inj h
              rfl

/-- A marked character cuts a text into pieces on either side. -/
theorem splitWhere_append_cons {p : Char → Bool} {c : Char} (hc : p c = true) (s t : List Char) :
    splitWhere p (s ++ c :: t) = splitWhere p s ++ splitWhere p t := by
  induction s with
  | nil => simp [splitWhere, hc]
  | cons d s ih =>
      by_cases hd : p d = true
      · simp [splitWhere, hd, ih]
      · obtain ⟨first, pieces, hs, hsplit⟩ := exists_splitWhere_cons hd s
        rw [hsplit, List.cons_append, splitWhere, if_neg hd, ih, hs]
        rfl

/-- There is one piece more than marked characters. -/
theorem length_splitWhere (p : Char → Bool) (s : List Char) :
    (splitWhere p s).length = s.countP p + 1 := by
  induction s with
  | nil => rfl
  | cons c rest ih =>
      by_cases hc : p c = true
      · rw [splitWhere, if_pos hc, List.length_cons, ih, List.countP_cons_of_pos hc]
      · obtain ⟨first, pieces, hrest, hsplit⟩ := exists_splitWhere_cons hc rest
        rw [hsplit, List.countP_cons_of_neg hc, ← ih, hrest]
        rfl

/-- The first piece goes up to the first marked character. -/
theorem head?_splitWhere (p : Char → Bool) (s : List Char) :
    (splitWhere p s).head? = some (s.takeWhile (!p ·)) := by
  induction s with
  | nil => rfl
  | cons c rest ih =>
      by_cases hc : p c = true
      · simp [splitWhere, hc]
      · obtain ⟨first, pieces, hrest, hsplit⟩ := exists_splitWhere_cons hc rest
        rw [hrest] at ih
        obtain rfl : first = rest.takeWhile (!p ·) := by simpa using ih
        simp [hsplit, hc]

/-- **A piece** has no marked character in it, and beside it nothing else: it ends where the text
does or at a marked character. -/
theorem mem_splitWhere_iff {p : Char → Bool} {s piece : List Char} : piece ∈ splitWhere p s ↔
    ∃ before after, s = before ++ (piece ++ after) ∧ (∀ c ∈ piece, p c = false) ∧
      (∀ c ∈ before.getLast?, p c = true) ∧ ∀ c ∈ after.head?, p c = true := by
  constructor
  · generalize hpieces : splitWhere p s = pieces
    intro hmem
    induction pieces generalizing s with
    | nil => cases hmem
    | cons first more ih =>
        cases more with
        | nil =>
            obtain ⟨rfl, hnone⟩ := (splitWhere_eq_singleton p s first).mp hpieces
            obtain rfl : piece = s := by simpa using hmem
            exact ⟨[], [], by simp, hnone, by simp, by simp⟩
        | cons next more =>
            obtain ⟨c, rest, rfl, hc, hnone, hrest⟩ :=
              (splitWhere_eq_cons_cons p s first next more).mp hpieces
            rcases List.mem_cons.mp hmem with rfl | hlater
            · exact ⟨[], c :: rest, by simp, hnone, by simp, by simpa using hc⟩
            · obtain ⟨before, after, rfl, hpiece, hbefore, hafter⟩ := ih hrest hlater
              refine ⟨first ++ c :: before, after, by simp, hpiece, ?_, hafter⟩
              cases before with
              | nil => simpa using hc
              | cons d before => simpa [List.getLast?_cons_cons] using hbefore
  · rintro ⟨before, after, rfl, hnone, hbefore, hafter⟩
    have hpiece : piece ∈ splitWhere p (piece ++ after) := by
      have hone : splitWhere p piece = [piece] :=
        (splitWhere_eq_singleton p piece piece).mpr ⟨rfl, hnone⟩
      cases after with
      | nil => simp [hone]
      | cons c after => simp [splitWhere_append_cons (hafter c rfl), hone]
    rcases List.eq_nil_or_concat before with rfl | ⟨front, c, rfl⟩
    · simpa using hpiece
    · have hc : p c = true := hbefore c (by simp)
      have hcut : front ++ [c] ++ (piece ++ after) = front ++ c :: (piece ++ after) := by simp
      rw [List.concat_eq_append, hcut, splitWhere_append_cons hc]
      exact List.mem_append_right _ hpiece

/-- A character that is not marked is in a piece. -/
theorem exists_mem_splitWhere {p : Char → Bool} {c : Char} {s : List Char} (hmem : c ∈ s)
    (hc : p c = false) : ∃ piece ∈ splitWhere p s, c ∈ piece := by
  induction s with
  | nil => cases hmem
  | cons d s ih =>
      by_cases hd : p d = true
      · have hlater : c ∈ s := (List.mem_cons.mp hmem).resolve_left (by rintro rfl; simp [hc] at hd)
        obtain ⟨piece, hpiece, hin⟩ := ih hlater
        exact ⟨piece, by simp [splitWhere, hd, hpiece], hin⟩
      · obtain ⟨first, pieces, hs, hsplit⟩ := exists_splitWhere_cons hd s
        rw [hsplit]
        rw [hs] at ih
        rcases List.mem_cons.mp hmem with rfl | hlater
        · exact ⟨_, List.mem_cons_self .., List.mem_cons_self ..⟩
        · obtain ⟨piece, hpiece, hin⟩ := ih hlater
          rcases List.mem_cons.mp hpiece with rfl | hpiece
          · exact ⟨_, List.mem_cons_self .., List.mem_cons_of_mem _ hin⟩
          · exact ⟨piece, List.mem_cons_of_mem _ hpiece, hin⟩

/-- **Pieces that are joined** are cut apart again. -/
theorem splitWhere_intercalate {mark : Char} {pieces : List (List Char)} (hne : pieces ≠ [])
    (h : ∀ piece ∈ pieces, mark ∉ piece) :
    splitWhere (· == mark) ([mark].intercalate pieces) = pieces := by
  induction pieces with
  | nil => exact (hne rfl).elim
  | cons piece more ih =>
      obtain ⟨hpiece, hmore⟩ := List.forall_mem_cons.mp h
      have hone : splitWhere (· == mark) piece = [piece] := by
        refine (splitWhere_eq_singleton _ _ _).mpr ⟨rfl, fun c hc => ?_⟩
        rw [beq_eq_false_iff_ne]
        rintro rfl
        exact hpiece hc
      cases more with
      | nil => rw [List.intercalate_singleton, hone]
      | cons next more =>
          rw [List.intercalate_cons_cons, List.append_assoc, List.singleton_append,
            splitWhere_append_cons (by simp), hone, ih (List.cons_ne_nil _ _) hmore,
            List.singleton_append]

/-- What is joined holds the characters of its pieces, and the mark. -/
theorem mem_intercalate {c mark : Char} {pieces : List (List Char)}
    (h : c ∈ [mark].intercalate pieces) : c = mark ∨ ∃ piece ∈ pieces, c ∈ piece := by
  induction pieces with
  | nil => simp at h
  | cons piece more ih =>
      cases more with
      | nil => exact .inr ⟨piece, by simpa using h⟩
      | cons next more =>
          rw [List.intercalate_cons_cons, List.mem_append, List.mem_append,
            List.mem_singleton] at h
          rcases h with (h | h) | h
          · exact .inr ⟨piece, List.mem_cons_self .., h⟩
          · exact .inl h
          · exact (ih h).imp_right fun ⟨p, hp, hc⟩ => ⟨p, List.mem_cons_of_mem _ hp, hc⟩

/-- What is left after dropping starts with nothing to drop. -/
theorem head?_dropWhile (p : Char → Bool) (s : List Char) :
    ∀ c ∈ (s.dropWhile p).head?, p c = false := by
  intro c hc
  have hstart := List.head?_dropWhile_not p s
  rwa [hc] at hstart

/-- What is left after the characters at the start that are marked. -/
theorem drop_length_takeWhile {α : Type} (p : α → Bool) (s : List α) :
    s.drop (s.takeWhile p).length = s.dropWhile p := by
  induction s with
  | nil => rfl
  | cons c s ih => by_cases hc : p c <;> simp [hc, ih]

/-- Nothing is dropped from what starts with nothing to drop. -/
theorem dropWhile_eq_self {p : Char → Bool} {s : List Char} (h : ∀ c ∈ s.head?, p c = false) :
    s.dropWhile p = s := by
  cases s with
  | nil => rfl
  | cons c rest => exact List.dropWhile_cons_of_neg (by simp [h c rfl])

/-- What starts with nothing to drop is left. -/
theorem dropWhile_append {p : Char → Bool} {lead rest : List Char} (hlead : ∀ c ∈ lead, p c = true)
    (hrest : ∀ c ∈ rest.head?, p c = false) : (lead ++ rest).dropWhile p = rest := by
  rw [List.dropWhile_append_of_pos hlead, dropWhile_eq_self hrest]

/-- A nonempty text with no marked character at its ends. -/
structure IsTrimmed (p : Char → Bool) (word : List Char) : Prop where
  nonempty : word ≠ []
  first : ∀ c ∈ word.head?, p c = false
  last : ∀ c ∈ word.getLast?, p c = false

/-- **What is left after trimming** stands between marked characters. -/
theorem trimWhile_eq_iff {p : Char → Bool} {s word : List Char} :
    trimWhile p s = word ∧ word ≠ [] ↔ ∃ left right, s = left ++ (word ++ right) ∧
      (∀ c ∈ left, p c = true) ∧ (∀ c ∈ right, p c = true) ∧ IsTrimmed p word := by
  unfold trimWhile dropEndWhile
  constructor
  · rintro ⟨rfl, hne⟩
    have hs : s.takeWhile p ++ s.dropWhile p = s := List.takeWhile_append_dropWhile
    have hfirst := head?_dropWhile p s
    generalize s.dropWhile p = body at hs hne hfirst
    have hbody : (body.reverse.dropWhile p).reverse ++ (body.reverse.takeWhile p).reverse =
        body := by
      rw [← List.reverse_append, List.takeWhile_append_dropWhile, List.reverse_reverse]
    refine ⟨s.takeWhile p, (body.reverse.takeWhile p).reverse, by rw [hbody, hs],
      fun c hc => List.mem_takeWhile_imp hc,
      fun c hc => List.mem_takeWhile_imp (List.mem_reverse.mp hc), hne, fun c hc => ?_,
      fun c hc => head?_dropWhile p body.reverse c (by simpa using hc)⟩
    -- The word is not empty, so it starts as what it is cut from.
    refine hfirst c ?_
    rw [← hbody, List.head?_append, hc, Option.some_or]
    rfl
  · rintro ⟨left, right, rfl, hleft, hright, hword⟩
    refine ⟨?_, hword.nonempty⟩
    have hstart : ∀ c ∈ (word ++ right).head?, p c = false := by
      cases word with
      | nil => exact (hword.nonempty rfl).elim
      | cons first word => exact hword.first
    have hend : ∀ c ∈ word.reverse.head?, p c = false := by simpa using hword.last
    rw [dropWhile_append hleft hstart, List.reverse_append,
      dropWhile_append (by simpa using hright) hend, List.reverse_reverse]

/-- What stands before a character that is kept is kept. -/
theorem dropEndWhile_append {p : Char → Bool} {front : List Char} (rest : List Char)
    (h : ∀ c ∈ front.getLast?, p c = false) :
    dropEndWhile p (front ++ rest) = front ++ dropEndWhile p rest := by
  have hfront : front.reverse.dropWhile p = front.reverse := by
    have hhead : ∀ c ∈ front.reverse.head?, p c = false := by simpa using h
    exact dropWhile_eq_self hhead
  unfold dropEndWhile
  rw [List.reverse_append, List.dropWhile_append]
  split
  · next hempty => simp [hfront, List.isEmpty_iff.mp hempty]
  · simp

/-- The texts with these characters are the pieces of a text exactly when the characters are those
of its pieces. -/
theorem splitOn_eq_iff (c : Char) (s : String) (pieces : List String) :
    splitOn c s = pieces ↔ splitWhere (· == c) s.toList = pieces.map String.toList := by
  unfold splitOn
  constructor
  · intro heq
    subst heq
    simp [Function.comp_def]
  · intro h
    simp [h, Function.comp_def]

/-- **A text of three pieces** is these with separators between them. -/
theorem splitOn_eq_three (c : Char) (s first second third : String) :
    splitOn c s = [first, second, third] ↔
      s = first ++ String.singleton c ++ second ++ String.singleton c ++ third ∧
        c ∉ first.toList ∧ c ∉ second.toList ∧ c ∉ third.toList := by
  have hnone : ∀ t : List Char, (∀ d ∈ t, (d == c) = false) ↔ c ∉ t := by
    intro t
    simp only [beq_eq_false_iff_ne]
    exact ⟨fun h hc => h c hc rfl, fun h d hd hdc => h (hdc ▸ hd)⟩
  have htext : s = first ++ String.singleton c ++ second ++ String.singleton c ++ third ↔
      s.toList = first.toList ++ c :: (second.toList ++ c :: third.toList) := by
    rw [← String.toList_inj]
    simp
  rw [splitOn_eq_iff, htext]
  simp only [List.map_cons, List.map_nil, splitWhere_eq_cons_cons, splitWhere_eq_singleton, hnone,
    beq_iff_eq]
  constructor
  · intro hparts
    obtain ⟨d, rest, hs, rfl, hfirst, e, rest', rfl, rfl, hsecond, rfl, hthird⟩ := hparts
    exact ⟨hs, hfirst, hsecond, hthird⟩
  · intro hparts
    obtain ⟨hs, hfirst, hsecond, hthird⟩ := hparts
    exact ⟨c, _, hs, rfl, hfirst, c, _, rfl, rfl, hsecond, rfl, hthird⟩

/-- A text is cut in one way at the last of its marks. -/
theorem append_cons_inj {α : Type} {mark : α} {a b c d : List α} (hb : mark ∉ b)
    (hd : mark ∉ d) : a ++ mark :: b = c ++ mark :: d ↔ a = c ∧ b = d := by
  constructor
  · intro heq
    -- If the parts in front differed, one cut would lie in what stands behind the other.
    rcases List.append_eq_append_iff.mp heq with ⟨between, rfl, hcut⟩ | ⟨between, rfl, hcut⟩
    · cases between with
      | nil => simpa using hcut
      | cons x between =>
          obtain ⟨rfl, rfl⟩ := List.cons.inj hcut
          simp at hb
    · cases between with
      | nil => simpa using hcut.symm
      | cons x between =>
          obtain ⟨rfl, rfl⟩ := List.cons.inj hcut
          simp at hd
  · rintro ⟨rfl, rfl⟩
    rfl

/-- A text is cut at the first marked character. -/
theorem cutAt?_eq_some_iff {p : Char → Bool} {s front rest : List Char} :
    cutAt? p s = some (front, rest) ↔
      ∃ c, s = front ++ c :: rest ∧ p c = true ∧ ∀ d ∈ front, p d = false := by
  induction s generalizing front with
  | nil => simp [cutAt?]
  | cons c s ih =>
      by_cases hc : p c = true
      · rw [cutAt?, if_pos hc]
        constructor
        · intro h
          obtain ⟨rfl, rfl⟩ := Prod.mk.inj (Option.some.inj h)
          exact ⟨c, rfl, hc, by simp⟩
        · rintro ⟨d, hs, hd, hfront⟩
          cases front with
          | nil =>
              obtain ⟨rfl, rfl⟩ := List.cons.inj hs
              rfl
          | cons e front =>
              obtain ⟨rfl, -⟩ := List.cons.inj hs
              simp [hfront c List.mem_cons_self] at hc
      · rw [cutAt?, if_neg hc, Option.map_eq_some_iff]
        constructor
        · rintro ⟨⟨first, last⟩, hcut, heq⟩
          obtain ⟨rfl, rfl⟩ := Prod.mk.inj heq
          obtain ⟨d, rfl, hd, hfirst⟩ := ih.mp hcut
          exact ⟨d, rfl, hd, List.forall_mem_cons.mpr ⟨by simpa using hc, hfirst⟩⟩
        · rintro ⟨d, hs, hd, hfront⟩
          cases front with
          | nil =>
              obtain ⟨rfl, -⟩ := List.cons.inj hs
              exact (hc hd).elim
          | cons e front =>
              obtain ⟨rfl, rfl⟩ := List.cons.inj hs
              exact ⟨(front, rest), ih.mpr ⟨d, rfl, hd, (List.forall_mem_cons.mp hfront).2⟩, rfl⟩

/-- A text that is not cut has no marked character. -/
theorem cutAt?_eq_none_iff {p : Char → Bool} {s : List Char} :
    cutAt? p s = none ↔ ∀ c ∈ s, p c = false := by
  induction s with
  | nil => simp [cutAt?]
  | cons c s ih => by_cases hc : p c = true <;> simp [cutAt?, hc, ih]

/-- What stands before the first marked character. -/
theorem takeWhile_eq_of_cutAt? (p : Char → Bool) (s : List Char) :
    s.takeWhile (!p ·) = ((cutAt? p s).map Prod.fst).getD s := by
  induction s with
  | nil => rfl
  | cons c s ih =>
      by_cases hc : p c = true
      · simp [cutAt?, hc]
      · cases hcut : cutAt? p s with
        | none => simpa [cutAt?, hc, hcut] using ih
        | some parts => simpa [cutAt?, hc, hcut] using ih

/-- A text without a marked character has no last one. -/
theorem cutAtLast?_eq_none_iff {p : Char → Bool} {s : List Char} :
    cutAtLast? p s = none ↔ ∀ c ∈ s, p c = false := by
  induction s with
  | nil => simp [cutAtLast?]
  | cons c s ih =>
      cases hcut : cutAtLast? p s with
      | some parts => simp [cutAtLast?, hcut, ← ih]
      | none => by_cases hc : p c = true <;> simp [cutAtLast?, hcut, hc, ← ih]

/-- A text is cut at the last marked character. -/
theorem cutAtLast?_eq_some_iff {p : Char → Bool} {s front rest : List Char} :
    cutAtLast? p s = some (front, rest) ↔
      ∃ c, s = front ++ c :: rest ∧ p c = true ∧ ∀ d ∈ rest, p d = false := by
  induction s generalizing front rest with
  | nil => simp [cutAtLast?]
  | cons c s ih =>
      cases hcut : cutAtLast? p s with
      | some parts =>
          obtain ⟨first, last⟩ := parts
          obtain ⟨d, rfl, hd, hlast⟩ := ih.mp hcut
          simp only [cutAtLast?, hcut, Option.some.injEq, Prod.mk.injEq]
          constructor
          · rintro ⟨rfl, rfl⟩
            exact ⟨d, rfl, hd, hlast⟩
          · rintro ⟨e, hs, he, hrest⟩
            cases front with
            | nil =>
                -- The cut would be before a marked character.
                obtain ⟨rfl, rfl⟩ := List.cons.inj hs
                simp [hrest d (by simp)] at hd
            | cons g front =>
                obtain ⟨rfl, htail⟩ := List.cons.inj hs
                have hcut' := ih.mpr ⟨e, htail, he, hrest⟩
                rw [hcut] at hcut'
                obtain ⟨rfl, rfl⟩ := Prod.mk.inj (Option.some.inj hcut')
                exact ⟨rfl, rfl⟩
      | none =>
          have hnone := cutAtLast?_eq_none_iff.mp hcut
          by_cases hc : p c = true
          · simp only [cutAtLast?, hcut, hc, if_true, Option.some.injEq, Prod.mk.injEq]
            constructor
            · rintro ⟨rfl, rfl⟩
              exact ⟨c, rfl, hc, hnone⟩
            · rintro ⟨e, hs, he, hrest⟩
              cases front with
              | nil => exact ⟨rfl, (List.cons.inj hs).2⟩
              | cons g front =>
                  obtain ⟨rfl, rfl⟩ := List.cons.inj hs
                  simp [hnone e (by simp)] at he
          · simp only [cutAtLast?, hcut, hc, if_false, reduceCtorEq, false_iff]
            rintro ⟨e, hs, he, -⟩
            have hmem : e ∈ c :: s := by simp [hs]
            rcases List.mem_cons.mp hmem with rfl | hmem
            · exact hc he
            · simp [hnone e hmem] at he

/-- What is left after dropping at the end ends with nothing to drop. -/
theorem getLast?_dropEndWhile (p : Char → Bool) (s : List Char) :
    ∀ c ∈ (dropEndWhile p s).getLast?, p c = false := by
  intro c hc
  rw [dropEndWhile, List.getLast?_reverse] at hc
  exact head?_dropWhile p s.reverse c hc

theorem getLast?_dropEnd (c : Char) (s : String) : (dropEnd c s).toList.getLast? ≠ some c := by
  intro hlast
  rw [dropEnd, String.toList_ofList] at hlast
  simpa using getLast?_dropEndWhile (· == c) s.toList c hlast

/-- Nothing is dropped from the end of a text exactly if that is another character. -/
theorem dropEnd_eq_self_iff (c : Char) (s : String) :
    dropEnd c s = s ↔ s.toList.getLast? ≠ some c := by
  constructor
  · intro heq
    rw [← heq]
    exact getLast?_dropEnd c s
  · intro hlast
    have hkept : s.toList.reverse.dropWhile (· == c) = s.toList.reverse := by
      refine dropWhile_eq_self fun d hd => beq_eq_false_iff_ne.mpr ?_
      rintro rfl
      exact hlast (by simpa using hd)
    rw [dropEnd, dropEndWhile, hkept, List.reverse_reverse, String.ofList_toList]

/-- What is dropped at the end of a text is that character again and again. -/
theorem exists_dropEnd (c : Char) (s : String) :
    ∃ k, s = dropEnd c s ++ String.ofList (List.replicate k c) := by
  obtain ⟨k, hk⟩ : ∃ k, s.toList.reverse.takeWhile (· == c) = List.replicate k c :=
    ⟨_, List.eq_replicate_iff.mpr ⟨rfl, fun d hd => by simpa using List.mem_takeWhile_imp hd⟩⟩
  refine ⟨k, String.toList_inj.mp ?_⟩
  rw [String.toList_append, dropEnd, dropEndWhile, String.toList_ofList, String.toList_ofList,
    ← List.reverse_replicate, ← hk, ← List.reverse_append, List.takeWhile_append_dropWhile,
    List.reverse_reverse]

/-- A character that is written again and again behind another one is dropped. -/
theorem dropEnd_append_replicate {c : Char} {s : String} (h : s.toList.getLast? ≠ some c)
    (k : Nat) : dropEnd c (s ++ String.ofList (List.replicate k c)) = s := by
  have hlast : ∀ d ∈ s.toList.getLast?, (d == c) = false := fun d hd =>
    beq_eq_false_iff_ne.mpr fun heq => h (heq ▸ hd)
  rw [dropEnd, String.toList_append, String.toList_ofList, dropEndWhile_append _ hlast]
  simp [dropEndWhile]

theorem dropEnd_of_not_mem {c : Char} {s : String} (h : c ∉ s.toList) : dropEnd c s = s :=
  (dropEnd_eq_self_iff c s).mpr fun hlast => h (List.mem_of_getLast? hlast)

/-- What follows a prefix is the rest. -/
theorem afterPrefix?_eq_some_iff {α : Type} [DecidableEq α] (lead s rest : List α) :
    afterPrefix? lead s = some rest ↔ s = lead ++ rest := by
  induction lead generalizing s with
  | nil => simp [afterPrefix?]
  | cons p lead ih =>
      cases s with
      | nil => simp [afterPrefix?]
      | cons c s =>
          by_cases h : p = c
          · simp [afterPrefix?, h, ih]
          · simp [afterPrefix?, h, Ne.symm h]

/-- What ends with a text is something in front of it and the text. -/
theorem endsWith_iff (tail s : String) : endsWith tail s = true ↔ ∃ front, s = front ++ tail := by
  simp only [endsWith, Option.isSome_iff_exists, afterPrefix?_eq_some_iff]
  constructor
  · rintro ⟨rest, hs⟩
    refine ⟨String.ofList rest.reverse, String.toList_inj.mp ?_⟩
    rw [String.toList_append, String.toList_ofList, ← List.reverse_reverse s.toList, hs,
      List.reverse_append, List.reverse_reverse]
  · rintro ⟨front, rfl⟩
    exact ⟨front.toList.reverse, by simp⟩

/-- In front of a common end, the ends of two texts are compared. -/
theorem endsWith_append_append (tail s rest : String) :
    endsWith (tail ++ rest) (s ++ rest) = endsWith tail s := by
  rw [Bool.eq_iff_iff, endsWith_iff, endsWith_iff]
  constructor
  · rintro ⟨front, h⟩
    exact ⟨front, by rwa [← String.append_assoc, String.append_left_inj] at h⟩
  · rintro ⟨front, rfl⟩
    exact ⟨front, String.append_assoc ..⟩

/-- A text ends with a character if that is its last one. -/
theorem endsWith_singleton_iff (c : Char) (s : String) :
    endsWith (String.singleton c) s = true ↔ s.toList.getLast? = some c := by
  rw [endsWith_iff, List.getLast?_eq_some_iff]
  constructor
  · rintro ⟨front, rfl⟩
    exact ⟨front.toList, by simp⟩
  · rintro ⟨front, hs⟩
    exact ⟨String.ofList front, String.toList_inj.mp (by simpa using hs)⟩

/-- A text is cut at a stand of the mark. -/
theorem cutAtText?_eq_some {mark s before after : List Char}
    (h : cutAtText? mark s = some (before, after)) : s = before ++ (mark ++ after) := by
  induction s generalizing before with
  | nil =>
      unfold cutAtText? at h
      obtain ⟨rest, hrest, heq⟩ := Option.map_eq_some_iff.mp h
      obtain ⟨rfl, rfl⟩ := Prod.mk.inj heq
      exact (afterPrefix?_eq_some_iff mark [] rest).mp hrest
  | cons c s ih =>
      unfold cutAtText? at h
      split at h
      · next rest hrest =>
          obtain ⟨rfl, rfl⟩ := Prod.mk.inj (Option.some.inj h)
          exact (afterPrefix?_eq_some_iff mark (c :: s) rest).mp hrest
      · obtain ⟨⟨front, back⟩, hcut, heq⟩ := Option.map_eq_some_iff.mp h
        obtain ⟨rfl, rfl⟩ := Prod.mk.inj heq
        rw [ih hcut, List.cons_append]

/-- No mark begins before its first character. -/
theorem cutAtText?_append_of_not_mem {m : Char} {mark front : List Char} (rest : List Char)
    (h : m ∉ front) :
    cutAtText? (m :: mark) (front ++ rest) =
      (cutAtText? (m :: mark) rest).map fun (a, b) => (front ++ a, b) := by
  induction front with
  | nil => simp
  | cons c front ih =>
      obtain ⟨hc, hfront⟩ := List.ne_and_not_mem_of_not_mem_cons h
      simp [cutAtText?, afterPrefix?, hc, ih hfront, Function.comp_def]

/-- A text that starts with a mark is cut there. -/
theorem cutAtText?_mark (m : Char) (mark rest : List Char) :
    cutAtText? (m :: mark) (m :: mark ++ rest) = some ([], rest) := by
  have hcut := (afterPrefix?_eq_some_iff (m :: mark) (m :: mark ++ rest) rest).mpr rfl
  simp only [List.cons_append] at hcut ⊢
  simp only [cutAtText?, hcut]

/-- A text is cut at a mark if its first character does not stand before it. -/
theorem cutAtText?_append {m : Char} {mark front : List Char} (rest : List Char)
    (h : m ∉ front) :
    cutAtText? (m :: mark) (front ++ (m :: mark ++ rest)) = some (front, rest) := by
  rw [cutAtText?_append_of_not_mem _ h, cutAtText?_mark]
  simp

/-- What follows a prefix of a text is the rest of the text. -/
theorem dropPrefix?_eq_some_iff (lead s rest : String) :
    dropPrefix? lead s = some rest ↔ s = lead ++ rest := by
  rw [← String.toList_inj, String.toList_append]
  simp only [dropPrefix?, Option.map_eq_some_iff, afterPrefix?_eq_some_iff]
  constructor
  · intro hparts
    obtain ⟨chars, hs, rfl⟩ := hparts
    simpa using hs
  · intro hs
    exact ⟨rest.toList, hs, by simp⟩

end SignOn.Text
