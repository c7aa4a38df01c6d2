import Mathlib.Data.List.TakeWhile
import SignOn.Proofs.Text.Utf8
import SignOn.Proofs.Text.Cutting
/-!
# Lines and words

A line feed is one byte, and no byte of a longer character looks like it.  So the text of a byte
string up to its first line feed is the text of the bytes up to there, also where they are no UTF-8
(`decodeLossy_takeWhile`).

The words of a text are what stands between blanks.  A blank cuts the words before it from those
behind it (`words_append_cons`), from which follows where the first word stands
(`words_eq_cons_iff`) and where the second one does (`words_second_iff`).
-/

namespace SignOn

namespace Utf8

/-- The character that has begun is not one of ASCII, whatever its further bytes are. -/
structure Pending.Wide (p : Pending) : Prop where
  low : 0x80 ≤ p.low.toNat
  last : p.due ≤ 1 → 2 ≤ p.value
  more : 1 < p.due → 2 ≤ p.value * 0x40 + (p.low.toNat - 0x80)

/-- The line feed is the character with the number 10. -/
theorem eq_of_ofNat_eq_lineFeed {n : Nat} (h : Char.ofNat n = '\n') : n = 10 := by
  unfold Char.ofNat at h
  by_cases hvalid : n.isValidChar
  · rw [dif_pos hvalid] at h
    exact congrArg Char.toNat h
  · rw [dif_neg hvalid] at h
    exact absurd h (by decide)

/-- A first byte that is a character is a line feed only if it is the byte of one. -/
theorem lineFeed_iff_of_lead {b : UInt8} {c : Char} (h : lead b = .complete c) :
    c = '\n' ↔ b = 10 := by
  have hbyte : b = 10 ↔ b.toNat = 10 := by rw [← UInt8.toNat_inj]; rfl
  unfold lead at h
  simp only at h
  split at h
  · cases h
    rw [hbyte]
    exact ⟨eq_of_ofNat_eq_lineFeed, fun heq => by rw [heq]⟩
  · repeat' split at h
    all_goals cases h

/-- A longer character is wide after its first byte. -/
theorem wide_of_lead {b : UInt8} {p : Pending} (h : lead b = .opens p) : p.Wide := by
  unfold lead at h
  simp only at h
  repeat' split at h
  all_goals cases h
  all_goals constructor <;> simp <;> omega

/-- The last byte of a wide character does not make it a line feed. -/
theorem Pending.Wide.ne_lineFeed {p : Pending} (h : p.Wide) (hdue : p.due ≤ 1) (more : Nat) :
    Char.ofNat (p.value * 0x40 + more) ≠ '\n' := by
  intro heq
  have hvalue := eq_of_ofNat_eq_lineFeed heq
  have hlast := h.last hdue
  omega

/-- A wide character is still wide after a byte that belongs to it. -/
theorem Pending.Wide.next {p : Pending} (h : p.Wide) (hdue : ¬p.due ≤ 1) {b : UInt8}
    (hlow : p.low ≤ b) :
    (⟨p.due - 1, 0x80, 0xBF, p.value * 0x40 + (b.toNat - 0x80)⟩ : Pending).Wide := by
  have hmore := h.more (by omega)
  rw [UInt8.le_iff_toNat_le] at hlow
  constructor <;> simp <;> omega

/-- A byte that does not belong to the character that has begun is read as if none had. -/
theorem decodeFrom_broken {p : Pending} {b : UInt8} (h : ¬(p.low ≤ b ∧ b ≤ p.high))
    (rest : Bytes) : decodeFrom (some p) (b :: rest) = none :: decodeFrom none (b :: rest) := by
  simp only [decodeFrom, if_neg h]

/-- A line feed belongs to no character that has begun. -/
theorem Pending.Wide.breaks_lineFeed {p : Pending} (h : p.Wide) :
    ¬(p.low ≤ 10 ∧ (10 : UInt8) ≤ p.high) := by
  intro hrange
  have hlow := UInt8.le_iff_toNat_le.mp hrange.1
  have hwide := h.low
  simp at hlow
  omega

/-- The characters up to the first line feed are those of the bytes up to it. -/
theorem decodeFrom_takeWhile (bytes : Bytes) : ∀ pending : Option Pending,
    (∀ p ∈ pending, p.Wide) →
    (decodeFrom pending bytes).takeWhile (· ≠ some '\n') =
      decodeFrom pending (bytes.takeWhile (· ≠ 10)) := by
  induction bytes with
  | nil => intro pending _; cases pending <;> simp [decodeFrom]
  | cons b rest ih =>
      have hrest := ih none (by simp)
      by_cases hb : b = 10
      · subst hb
        have hfeed : decodeFrom none (10 :: rest) = some '\n' :: decodeFrom none rest := rfl
        rintro (_ | p) hwide
        · rw [hfeed]
          simp [decodeFrom]
        · rw [decodeFrom_broken (hwide p rfl).breaks_lineFeed, hfeed]
          simp [decodeFrom]
      · rw [List.takeWhile_cons_of_pos (by simpa using hb)]
        -- A byte where a character may begin does the same with all of the rest and with its line.
        have hfirst : (decodeFrom none (b :: rest)).takeWhile (· ≠ some '\n') =
            decodeFrom none (b :: rest.takeWhile (· ≠ 10)) := by
          cases hlead : lead b with
          | complete c =>
              have hc : c ≠ '\n' := mt (lineFeed_iff_of_lead hlead).mp hb
              simp only [decodeFrom, hlead]
              rw [List.takeWhile_cons_of_pos (by simpa using hc), hrest]
          | opens p =>
              simp only [decodeFrom, hlead]
              exact ih (some p) (by simpa using wide_of_lead hlead)
          | stray =>
              simp only [decodeFrom, hlead]
              rw [List.takeWhile_cons_of_pos (by simp), hrest]
        rintro (_ | p) hpending
        · exact hfirst
        · have hwide : p.Wide := hpending p rfl
          by_cases hrange : p.low ≤ b ∧ b ≤ p.high
          · by_cases hdue : p.due ≤ 1
            · simp only [decodeFrom, if_pos hrange, if_pos hdue]
              rw [List.takeWhile_cons_of_pos (by simpa using hwide.ne_lineFeed hdue _), hrest]
            · simp only [decodeFrom, if_pos hrange, if_neg hdue]
              exact ih (some _) (by simpa using hwide.next hdue hrange.1)
          · rw [decodeFrom_broken hrange, decodeFrom_broken hrange,
              List.takeWhile_cons_of_pos (by simp), hfirst]

/-- **The first line of bytes.**  The text of a byte string up to its first line feed is the text of
the bytes up to it. -/
theorem decodeLossy_takeWhile (bytes : Bytes) :
    (decodeLossy bytes).toList.takeWhile (· ≠ '\n') =
      (decodeLossy (bytes.takeWhile (· ≠ 10))).toList := by
  have hchar : (fun c : Char => decide (c ≠ '\n')) ∘ (fun o : Option Char => o.getD '\uFFFD') =
      fun o => decide (o ≠ some '\n') := by
    funext o
    cases o <;> simp
  simp only [decodeLossy, decode, String.toList_ofList]
  rw [List.takeWhile_map, hchar, decodeFrom_takeWhile bytes none (by simp)]

end Utf8

namespace Text

/-- The words before a blank come before those behind it. -/
theorem words_append_cons {c : Char} (hc : isBlank c = true) (s t : List Char) :
    words (s ++ c :: t) = words s ++ words t := by
  rw [words, splitWhere_append_cons hc, List.filter_append, words, words]

/-- A blank at the end is no word. -/
theorem words_concat {c : Char} (hc : isBlank c = true) (s : List Char) :
    words (s ++ [c]) = words s := by
  rw [words_append_cons hc]
  simp [words, splitWhere]

/-- A blank at the start is no word. -/
theorem words_cons_of_blank {c : Char} (hc : isBlank c = true) (s : List Char) :
    words (c :: s) = words s := by
  rw [← List.nil_append (c :: s), words_append_cons hc]
  simp [words, splitWhere]

/-- Blanks at the start are no words. -/
theorem words_append_of_blank {blanks : List Char} (h : ∀ c ∈ blanks, isBlank c = true)
    (s : List Char) : words (blanks ++ s) = words s := by
  induction blanks with
  | nil => rfl
  | cons c blanks ih =>
      obtain ⟨hc, hblanks⟩ := List.forall_mem_cons.mp h
      rw [List.cons_append, words_cons_of_blank hc, ih hblanks]

/-- A word: characters, none of which is a blank. -/
def IsWord (w : List Char) : Prop :=
  w ≠ [] ∧ ∀ c ∈ w, isBlank c = false

/-- A text does not go on with a character of a word. -/
def WordEnds (rest : List Char) : Prop :=
  ∀ c ∈ rest.head?, isBlank c = true

/-- The first word of a text that starts with one. -/
theorem words_append_of_isWord {w rest : List Char} (hw : IsWord w) (hend : WordEnds rest) :
    words (w ++ rest) = w :: words rest := by
  have hone : words w = [w] := by
    have hpieces : splitWhere isBlank w = [w] :=
      (splitWhere_eq_singleton isBlank w w).mpr ⟨rfl, hw.2⟩
    simp [words, hpieces, hw.1]
  cases rest with
  | nil => rw [List.append_nil, hone]; rfl
  | cons c rest =>
      have hc : isBlank c = true := hend c rfl
      rw [words_append_cons hc, hone, words_cons_of_blank hc]
      rfl

/-- **The first word** stands behind blanks and before a blank or the end. -/
theorem words_eq_cons_iff {s w : List Char} {ws : List (List Char)} : words s = w :: ws ↔
    ∃ blanks rest, s = blanks ++ (w ++ rest) ∧ (∀ c ∈ blanks, isBlank c = true) ∧ IsWord w ∧
      WordEnds rest ∧ words rest = ws := by
  constructor
  · intro hwords
    -- The text is cut where its first word starts and where that ends.
    have hblanks : ∀ c ∈ s.takeWhile isBlank, isBlank c = true :=
      fun c hc => List.mem_takeWhile_imp hc
    have hs : s.takeWhile isBlank ++ s.dropWhile isBlank = s := List.takeWhile_append_dropWhile
    have hstart : ∀ c ∈ (s.dropWhile isBlank).head?, isBlank c = false := head?_dropWhile isBlank s
    rw [← hs, words_append_of_blank hblanks] at hwords
    generalize s.dropWhile isBlank = body at hs hstart hwords
    have hbody : body.takeWhile (!isBlank ·) ++ body.dropWhile (!isBlank ·) = body :=
      List.takeWhile_append_dropWhile
    have hword : IsWord (body.takeWhile (!isBlank ·)) := by
      refine ⟨fun hnil => ?_, fun c hc => by simpa using List.mem_takeWhile_imp hc⟩
      cases body with
      | nil => simp [words, splitWhere] at hwords
      | cons c body => simp [hstart c rfl] at hnil
    have hend : WordEnds (body.dropWhile (!isBlank ·)) := fun c hc => by
      simpa using head?_dropWhile (!isBlank ·) body c hc
    rw [← hbody, words_append_of_isWord hword hend] at hwords
    obtain ⟨rfl, rfl⟩ := List.cons.inj hwords
    exact ⟨s.takeWhile isBlank, _, by rw [hbody, hs], hblanks, hword, hend, rfl⟩
  · rintro ⟨blanks, rest, rfl, hblanks, hw, hend, rfl⟩
    rw [words_append_of_blank hblanks, words_append_of_isWord hw hend]

/-- A text has a second word: behind the first one, with blanks between them. -/
def HasSecondWord (s w : List Char) : Prop :=
  ∃ before first between rest, s = before ++ (first ++ (between ++ (w ++ rest))) ∧
    (∀ c ∈ before, isBlank c = true) ∧ IsWord first ∧ between ≠ [] ∧
    (∀ c ∈ between, isBlank c = true) ∧ IsWord w ∧ WordEnds rest

/-- **The second word** of a text is the second of its words. -/
theorem words_second_iff {s w : List Char} : (words s)[1]? = some w ↔ HasSecondWord s w := by
  constructor
  · intro hsecond
    match hwords : words s, hsecond with
    | first :: second :: more, hsecond =>
        obtain rfl : second = w := by simpa [hwords] using hsecond
        obtain ⟨before, rest, rfl, hbefore, hfirst, hend, hlater⟩ := words_eq_cons_iff.mp hwords
        obtain ⟨between, after, rfl, hbetween, hw, hend', -⟩ := words_eq_cons_iff.mp hlater
        refine ⟨before, first, between, after, rfl, hbefore, hfirst, ?_, hbetween, hw, hend'⟩
        rintro rfl
        -- Without blanks between them the two would be one word.
        cases second with
        | nil => exact hw.1 rfl
        | cons c second => exact nomatch (hend c rfl).symm.trans (hw.2 c List.mem_cons_self)
  · rintro ⟨before, first, between, rest, rfl, hbefore, hfirst, hne, hbetween, hw, hend⟩
    have hstops : WordEnds (between ++ (w ++ rest)) := by
      cases between with
      | nil => exact (hne rfl).elim
      | cons c between =>
          intro d hd
          obtain rfl : c = d := by simpa using hd
          exact hbetween c List.mem_cons_self
    rw [words_append_of_blank hbefore, words_append_of_isWord hfirst hstops,
      words_append_of_blank hbetween, words_append_of_isWord hw hend]
    rfl

end Text

end SignOn
