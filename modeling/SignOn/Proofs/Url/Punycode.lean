import SignOn.Proofs.Text.Cutting
import SignOn.Proofs.Text.Utf8
import SignOn.Url.Punycode
/-!
# Punycode is read back

The writer goes through the label once for each character outside of ASCII, smallest first, and
counts in `delta` the places between the last character that it has written and the next one.  The
reader holds the characters that are written so far.  What ties the two together is that the count
is the distance between where the reader stands and where the writer stands (`Tracks`); it holds at
each character of a pass (`Tracks.step`) and from each pass to the next, so the reader ends with the
label (`decode?_encode`).
-/

namespace SignOn.Punycode

/-! ### Gaps -/

theorem digitValue?_digit : ∀ n < 36, digitValue? (digit n) = some n := by
  decide

/-- A character is a digit. -/
def IsDigit (c : Char) : Prop :=
  ∃ n < 36, digit n = c

/-- What holds of thirty-six digits holds of each. -/
theorem IsDigit.elim {P : Char → Prop} (h : ∀ n < 36, P (digit n)) {c : Char} (hc : IsDigit c) :
    P c := by
  obtain ⟨n, hn, rfl⟩ := hc
  exact h n hn

/-- No digit is the mark between the characters of ASCII and the gaps. -/
theorem IsDigit.ne_mark {c : Char} (hc : IsDigit c) : (c == '-') = false :=
  hc.elim (P := fun c => (c == '-') = false) (by decide)

theorem threshold_range (k bias : Nat) : 1 ≤ threshold k bias ∧ threshold k bias ≤ 26 := by
  unfold threshold
  split
  · omega
  · split <;> omega

/-- A gap is one digit below the threshold, or a digit from there on and a smaller gap. -/
theorem writeGap_cases (bias k : Nat) {fuel q : Nat} (hq : q ≤ fuel + 1) :
    (q < threshold k bias ∧ writeGap bias (fuel + 1) k q = [digit q]) ∨
      ∃ d quotient, threshold k bias ≤ d ∧ d < 36 ∧ quotient ≤ fuel ∧
        q = d + quotient * (36 - threshold k bias) ∧
        writeGap bias (fuel + 1) k q = digit d :: writeGap bias fuel (k + 36) quotient := by
  obtain ⟨hlow, hhigh⟩ := threshold_range k bias
  by_cases hlast : q < threshold k bias
  · exact .inl ⟨hlast, by simp [writeGap, hlast]⟩
  · have hrem := Nat.mod_lt (q - threshold k bias) (show 0 < 36 - threshold k bias by omega)
    have hle := Nat.div_le_self (q - threshold k bias) (36 - threshold k bias)
    have hdiv := Nat.mod_add_div' (q - threshold k bias) (36 - threshold k bias)
    exact .inr ⟨threshold k bias + (q - threshold k bias) % (36 - threshold k bias),
      (q - threshold k bias) / (36 - threshold k bias), by omega, by omega, by omega, by omega,
      by simp [writeGap, hlast]⟩

/-- **A gap is read back**, up to where the next one begins. -/
theorem readGap?_writeGap (bias : Nat) (rest : List Char) (fuel : Nat) :
    ∀ k weight i q : Nat, q ≤ fuel →
      readGap? bias k weight i (writeGap bias fuel k q ++ rest) = some (i + q * weight, rest) := by
  induction fuel with
  | zero =>
      intro k weight i q hq
      obtain rfl : q = 0 := by omega
      have ht := (threshold_range k bias).1
      simp [writeGap, readGap?, digitValue?_digit, Nat.pos_iff_ne_zero.mp ht]
  | succ fuel ih =>
      intro k weight i q hq
      rcases writeGap_cases bias k hq with
        ⟨hlast, hgap⟩ | ⟨d, quotient, hd, hdigit, hfuel, hsum, hgap⟩
      · have hdigit : q < 36 := Nat.lt_of_lt_of_le hlast (by have := threshold_range k bias; omega)
        simp [hgap, readGap?, digitValue?_digit q hdigit, hlast]
      · have hmore : ¬d < threshold k bias := Nat.not_lt.mpr hd
        simp only [hgap, List.cons_append, readGap?, digitValue?_digit d hdigit, bind, Option.bind,
          if_neg hmore, ih (k + 36) _ _ _ hfuel]
        have hvalue : i + d * weight + quotient * (weight * (36 - threshold k bias)) =
            i + q * weight := by
          calc i + d * weight + quotient * (weight * (36 - threshold k bias))
              = i + (d * weight + quotient * (36 - threshold k bias) * weight) := by
                rw [Nat.mul_comm weight, ← Nat.mul_assoc, Nat.add_assoc]
            _ = i + q * weight := by rw [← Nat.add_mul, ← hsum]
        rw [hvalue]

theorem writeGap_ne_nil (bias fuel k q : Nat) : writeGap bias fuel k q ≠ [] := by
  cases fuel with
  | zero => exact List.cons_ne_nil _ _
  | succ fuel => by_cases hlast : q < threshold k bias <;> simp [writeGap, hlast]

/-- Gaps are written in digits. -/
theorem isDigit_of_mem_writeGap {c : Char} (bias : Nat) (fuel : Nat) : ∀ k q : Nat, q ≤ fuel →
    c ∈ writeGap bias fuel k q → IsDigit c := by
  induction fuel with
  | zero =>
      intro k q hq hc
      obtain rfl : q = 0 := by omega
      exact ⟨0, by decide, (List.mem_singleton.mp hc).symm⟩
  | succ fuel ih =>
      intro k q hq hc
      rcases writeGap_cases bias k hq with
        ⟨hlast, hgap⟩ | ⟨d, quotient, -, hdigit, hfuel, -, hgap⟩
      · have hrange := threshold_range k bias
        rw [hgap, List.mem_singleton] at hc
        exact ⟨q, by omega, hc.symm⟩
      · rw [hgap, List.mem_cons] at hc
        rcases hc with rfl | hc
        · exact ⟨d, hdigit, rfl⟩
        · exact ih _ _ hfuel hc

/-! ### The reader -/

/-- A reader at the character `n` and the place `i` that holds `out` reads the rest of a form to a
label. -/
def Reads (label : List Char) (n i bias : Nat) (form out : List Char) : Prop :=
  ∀ fuel, form.length ≤ fuel → readFrom? fuel n i bias form out = some label

/-- A reader puts a character where its gap says. -/
theorem Reads.gap {label out rest : List Char} {n i bias q place : Nat} {c : Char}
    (hn : n ≤ c.toNat) (hplace : place ≤ out.length)
    (hq : q + (n * (out.length + 1) + i) = c.toNat * (out.length + 1) + place)
    (h : Reads label c.toNat (place + 1) (adapt q (out.length + 1) (i = 0)) rest
      (out.take place ++ c :: out.drop place)) :
    Reads label n i bias (writeGap bias q 36 q ++ rest) out := by
  intro fuel hfuel
  obtain ⟨g, gs, hg⟩ := List.exists_cons_of_ne_nil (writeGap_ne_nil bias q 36 q)
  have hread := readGap?_writeGap bias rest q 36 1 i q (Nat.le_refl q)
  rw [hg, List.cons_append] at hread hfuel ⊢
  obtain ⟨fuel, rfl⟩ : ∃ k, fuel = k + 1 := ⟨fuel - 1, by simp at hfuel; omega⟩
  -- The quotient is how far the character is, the remainder its place.
  have hnext : i + q * 1 = place + (out.length + 1) * (c.toNat - n) := by
    rw [Nat.mul_sub, Nat.mul_comm _ n, Nat.mul_comm _ c.toNat]
    have hle := Nat.mul_le_mul_right (out.length + 1) hn
    omega
  have hquotient : (i + q * 1) / (out.length + 1) = c.toNat - n := by
    rw [hnext, Nat.add_mul_div_left _ _ (Nat.succ_pos _), Nat.div_eq_of_lt (by omega), Nat.zero_add]
  have hremainder : (i + q * 1) % (out.length + 1) = place := by
    rw [hnext, Nat.add_mul_mod_self_left, Nat.mod_eq_of_lt (by omega)]
  have hvalid : ¬(0x110000 ≤ c.toNat ∨ 0xD800 ≤ c.toNat ∧ c.toNat < 0xE000) := by
    have hc := Utf8.toNat_valid c
    omega
  have hsum : n + (c.toNat - n) = c.toNat := by omega
  have hdelta : i + q * 1 - i = q := by omega
  simp only [readFrom?, hread, bind, Option.bind, hquotient, hremainder, hsum, if_neg hvalid,
    hdelta, Char.ofNat_toNat]
  refine h fuel ?_
  simp only [List.length_cons, List.length_append] at hfuel
  omega

/-! ### The writer -/

/-- The characters that are written in a pass for `m` that stands between two parts of a label. -/
def written (m : Nat) (before after : List Char) : List Char :=
  before.filter (·.toNat ≤ m) ++ after.filter (·.toNat < m)

/-- What one character of the label does in a pass. -/
def visit (m basic : Nat) (w : Writer) (c : Char) : Writer :=
  if c.toNat < m then { w with delta := w.delta + 1 }
  else if c.toNat = m then
    { delta := 0
      bias := adapt w.delta (w.handled + 1) (w.handled = basic)
      handled := w.handled + 1
      reversed := (writeGap w.bias w.delta 36 w.delta).reverse ++ w.reversed }
  else w

theorem writePass_eq (m basic : Nat) (w : Writer) (label : List Char) :
    writePass m basic w label = label.foldl (visit m basic) w :=
  rfl

/-- Where a reader at the character `n` and the place `i` stands when the writer is in a pass for
`m` between two parts of the label: it holds what is written, and `delta` is what it has to pass. -/
structure At (basic m n i : Nat) (before after : List Char) (w : Writer) : Prop where
  le : n ≤ m
  handled : w.handled = (written m before after).length
  delta : w.delta + (n * (w.handled + 1) + i) =
    m * (w.handled + 1) + (before.filter (·.toNat ≤ m)).length
  first : i = 0 ↔ w.handled = basic
  basic : basic ≤ w.handled

/-- What is written so far leads a reader to where it can be given all that comes. -/
def Tracks (label start : List Char) (m : Nat) (before after : List Char) (w : Writer) : Prop :=
  ∃ n i, At start.length m n i before after w ∧ (∀ c ∈ w.reversed, IsDigit c) ∧
    ∀ rest, Reads label n i w.bias rest (written m before after) →
      Reads label 128 0 72 (w.reversed.reverse ++ rest) start

variable {label start before after : List Char} {m : Nat} {w : Writer}

/-- A character that was written in an earlier pass is a place to go by. -/
theorem Tracks.step_of_lt {c : Char} (hc : c.toNat < m)
    (h : Tracks label start m before (c :: after) w) :
    Tracks label start m (before ++ [c]) after (visit m start.length w c) := by
  obtain ⟨n, i, ⟨hle, hhandled, hdelta, hfirst, hbasic⟩, hdigits, hreads⟩ := h
  have hw : visit m start.length w c = { w with delta := w.delta + 1 } := if_pos hc
  have hbefore : (before ++ [c]).filter (·.toNat ≤ m) = before.filter (·.toNat ≤ m) ++ [c] := by
    simp [List.filter_append, Nat.le_of_lt hc]
  have hwritten : written m (before ++ [c]) after = written m before (c :: after) := by
    simp [written, hbefore, hc]
  rw [hw]
  refine ⟨n, i, ⟨hle, ?_, ?_, hfirst, hbasic⟩, hdigits, ?_⟩
  · rw [hwritten]
    exact hhandled
  · rw [hbefore, List.length_append, List.length_singleton]
    simp only
    omega
  · rw [hwritten]
    exact hreads

/-- The character of the pass is written, and the reader puts it in its place. -/
theorem Tracks.step_of_eq {c : Char} (hc : c.toNat = m)
    (h : Tracks label start m before (c :: after) w) :
    Tracks label start m (before ++ [c]) after (visit m start.length w c) := by
  obtain ⟨n, i, ⟨hle, hhandled, hdelta, hfirst, hbasic⟩, hdigits, hreads⟩ := h
  have hw : visit m start.length w c =
      ⟨0, adapt w.delta (w.handled + 1) (w.handled = start.length), w.handled + 1,
        (writeGap w.bias w.delta 36 w.delta).reverse ++ w.reversed⟩ := by
    simp [visit, hc]
  have hbefore : (before ++ [c]).filter (·.toNat ≤ m) = before.filter (·.toNat ≤ m) ++ [c] := by
    simp [List.filter_append, hc]
  have hold : written m before (c :: after) =
      before.filter (·.toNat ≤ m) ++ after.filter (·.toNat < m) := by
    simp [written, hc]
  have hnew : written m (before ++ [c]) after =
      before.filter (·.toNat ≤ m) ++ c :: after.filter (·.toNat < m) := by
    simp [written, hbefore]
  have hlength : (written m (before ++ [c]) after).length = w.handled + 1 := by
    rw [hhandled, hold, hnew]
    simp only [List.length_append, List.length_cons]
    omega
  rw [hw]
  refine ⟨m, (before.filter (·.toNat ≤ m)).length + 1, ⟨Nat.le_refl m, hlength.symm, ?_, ?_, ?_⟩,
    ?_, ?_⟩
  · rw [hbefore, List.length_append, List.length_singleton]
    simp only
    omega
  · simp only
    omega
  · simp only
    omega
  · intro d hd
    rcases List.mem_append.mp hd with hd | hd
    · exact isDigit_of_mem_writeGap _ _ _ _ (Nat.le_refl _) (List.mem_reverse.mp hd)
    · exact hdigits d hd
  · intro rest hrest
    simp only [List.reverse_append, List.reverse_reverse, List.append_assoc]
    refine hreads _ ?_
    rw [hhandled] at hdelta hrest hfirst
    subst hc
    refine Reads.gap hle ?_ hdelta ?_
    · rw [hold]
      simp
    · have hput : (written c.toNat before (c :: after)).take
            (before.filter (·.toNat ≤ c.toNat)).length ++
          c :: (written c.toNat before (c :: after)).drop
            (before.filter (·.toNat ≤ c.toNat)).length =
          written c.toNat (before ++ [c]) after := by
        rw [hold, hnew, List.take_left, List.drop_left]
      rw [hput]
      simpa only [hfirst] using hrest

/-- A character that comes in a later pass is not there yet. -/
theorem Tracks.step_of_gt {c : Char} (hc : m < c.toNat)
    (h : Tracks label start m before (c :: after) w) :
    Tracks label start m (before ++ [c]) after (visit m start.length w c) := by
  have hlt : ¬c.toNat < m := Nat.not_lt.mpr (Nat.le_of_lt hc)
  have hw : visit m start.length w c = w := by simp [visit, hlt, Nat.ne_of_gt hc]
  have hbefore : (before ++ [c]).filter (·.toNat ≤ m) = before.filter (·.toNat ≤ m) := by
    simp [List.filter_append, Nat.not_le.mpr hc]
  have hwritten : written m (before ++ [c]) after = written m before (c :: after) := by
    simp [written, hbefore, hlt]
  obtain ⟨n, i, ⟨hle, hhandled, hdelta, hfirst, hbasic⟩, hdigits, hreads⟩ := h
  rw [← hwritten] at hhandled hreads
  rw [← hbefore] at hdelta
  rw [hw]
  exact ⟨n, i, ⟨hle, hhandled, hdelta, hfirst, hbasic⟩, hdigits, hreads⟩

/-- **One character of a pass.** -/
theorem Tracks.step {c : Char} (h : Tracks label start m before (c :: after) w) :
    Tracks label start m (before ++ [c]) after (visit m start.length w c) := by
  rcases Nat.lt_trichotomy c.toNat m with hc | hc | hc
  · exact h.step_of_lt hc
  · exact h.step_of_eq hc
  · exact h.step_of_gt hc

/-- A pass goes through the label. -/
theorem Tracks.pass (after : List Char) : ∀ {before : List Char} {w : Writer},
    Tracks label start m before after w →
    Tracks label start m (before ++ after) [] (after.foldl (visit m start.length) w) := by
  induction after with
  | nil => exact fun h => by simpa using h
  | cons c after ih =>
      intro before w h
      have hstep := ih h.step
      simpa using hstep

/-- Between two passes the count goes on past characters that the label does not have. -/
theorem Tracks.skip {n : Nat} (h : Tracks label start n [] label w) (hle : n ≤ m)
    (hnone : ∀ c ∈ label, n ≤ c.toNat → m ≤ c.toNat) :
    Tracks label start m [] label { w with delta := w.delta + (m - n) * (w.handled + 1) } := by
  obtain ⟨k, i, hat, hdigits, hreads⟩ := h
  have hwritten : written m [] label = written n [] label := by
    simp only [written, List.filter_nil, List.nil_append]
    refine List.filter_congr fun c hc => ?_
    have hmiss := hnone c hc
    simp only [decide_eq_decide]
    omega
  refine ⟨k, i, ⟨Nat.le_trans hat.le hle, ?_, ?_, hat.first, hat.basic⟩, hdigits, ?_⟩
  · rw [hwritten]
    exact hat.handled
  · have hdelta := hat.delta
    have hmul : (m - n) * (w.handled + 1) + n * (w.handled + 1) = m * (w.handled + 1) := by
      rw [← Nat.add_mul]
      congr 1
      omega
    simp only [List.filter_nil, List.length_nil] at hdelta ⊢
    omega
  · rw [hwritten]
    exact hreads

/-- The end of a pass is the start of the next. -/
theorem Tracks.next (h : Tracks label start m label [] w) :
    Tracks label start (m + 1) [] label { w with delta := w.delta + 1 } := by
  obtain ⟨k, i, hat, hdigits, hreads⟩ := h
  have hold : written m label [] = label.filter (·.toNat ≤ m) := by simp [written]
  have hwritten : written (m + 1) [] label = written m label [] := by
    rw [hold]
    simp only [written, List.filter_nil, List.nil_append, Nat.lt_succ_iff]
  refine ⟨k, i, ⟨Nat.le_succ_of_le hat.le, ?_, ?_, hat.first, hat.basic⟩, hdigits, ?_⟩
  · rw [hwritten]
    exact hat.handled
  · have hdelta := hat.delta
    rw [← hold, ← hat.handled] at hdelta
    simp only [List.filter_nil, List.length_nil, Nat.add_mul]
    omega
  · rw [hwritten]
    exact hreads

/-- The least number of a nonempty list of characters. -/
theorem foldl_min (cs : List Char) : ∀ m : Nat,
    (∀ c ∈ cs, cs.foldl (fun m c => min m c.toNat) m ≤ c.toNat) ∧
      cs.foldl (fun m c => min m c.toNat) m ≤ m ∧
      (cs.foldl (fun m c => min m c.toNat) m = m ∨
        ∃ c ∈ cs, cs.foldl (fun m c => min m c.toNat) m = c.toNat) := by
  induction cs with
  | nil => simp
  | cons c cs ih =>
      intro m
      obtain ⟨hall, hle, hsome⟩ := ih (min m c.toNat)
      simp only [List.foldl_cons]
      refine ⟨List.forall_mem_cons.mpr ⟨by omega, hall⟩, by omega, ?_⟩
      rcases hsome with heq | ⟨d, hd, heq⟩
      · rcases Nat.le_total m c.toNat with hm | hm
        · exact .inl (by omega)
        · exact .inr ⟨c, List.mem_cons_self .., by omega⟩
      · exact .inr ⟨d, List.mem_cons_of_mem _ hd, heq⟩

/-- **All passes.**  A reader that is given what is written reads the label. -/
theorem Tracks.write (fuel : Nat) : ∀ {n : Nat} {w : Writer}, Tracks label start n [] label w →
    (label.filter (n ≤ ·.toNat)).length ≤ fuel →
    (∀ c ∈ (writeFrom label start.length fuel n w).reversed, IsDigit c) ∧
      Reads label 128 0 72 (writeFrom label start.length fuel n w).reversed.reverse start := by
  have hend {n : Nat} {w : Writer} (h : Tracks label start n [] label w)
      (hnone : label.filter (n ≤ ·.toNat) = []) :
      (∀ c ∈ w.reversed, IsDigit c) ∧ Reads label 128 0 72 w.reversed.reverse start := by
    obtain ⟨k, i, -, hdigits, hreads⟩ := h
    have hall : written n [] label = label := by
      simp only [List.filter_eq_nil_iff, decide_eq_true_eq] at hnone
      simpa [written, List.filter_eq_self] using hnone
    have hdone := hreads [] fun fuel _ => by cases fuel <;> simp [readFrom?, hall]
    rw [List.append_nil] at hdone
    exact ⟨hdigits, hdone⟩
  induction fuel with
  | zero =>
      intro n w h hfuel
      exact hend h (List.eq_nil_of_length_eq_zero (Nat.le_zero.mp hfuel))
  | succ fuel ih =>
      intro n w h hfuel
      cases hleft : label.filter (n ≤ ·.toNat) with
      | nil =>
          simp only [writeFrom, hleft]
          exact hend h hleft
      | cons c cs =>
          simp only [writeFrom, hleft, writePass_eq]
          obtain ⟨hall, hle, hsome⟩ := foldl_min cs c.toNat
          generalize cs.foldl (fun m c => min m c.toNat) c.toNat = m at *
          have hmem (d : Char) : d ∈ c :: cs ↔ d ∈ label ∧ n ≤ d.toNat := by
            rw [← hleft, List.mem_filter, decide_eq_true_eq]
          have hleast : ∀ d ∈ label, n ≤ d.toNat → m ≤ d.toNat := fun d hd hn =>
            (List.mem_cons.mp ((hmem d).mpr ⟨hd, hn⟩)).elim (fun heq => heq ▸ hle) (hall d)
          obtain ⟨d, hd, hdm⟩ : ∃ d ∈ c :: cs, d.toNat = m := by
            rcases hsome with heq | ⟨d, hd, heq⟩
            · exact ⟨c, List.mem_cons_self .., heq.symm⟩
            · exact ⟨d, List.mem_cons_of_mem _ hd, heq.symm⟩
          have hdn := ((hmem d).mp hd).2
          refine ih ((h.skip (by omega) hleast).pass label).next ?_
          -- The characters of this pass are not left.
          have hfewer : (label.filter (m + 1 ≤ ·.toNat)).length <
              (label.filter (n ≤ ·.toNat)).length := by
            have hsub : label.filter (m + 1 ≤ ·.toNat) =
                (label.filter (n ≤ ·.toNat)).filter (m + 1 ≤ ·.toNat) := by
              rw [List.filter_filter]
              refine List.filter_congr fun e _ => ?_
              simp only [← Bool.decide_and, decide_eq_decide]
              omega
            rw [hsub, List.length_filter_lt_length_iff_exists]
            exact ⟨d, hleft ▸ hd, by simp [hdm]⟩
          omega

/-- What is written behind the characters of ASCII. -/
def gaps (label : List Char) : List Char :=
  (writeFrom label (label.filter (·.toNat < 128)).length label.length 128
    ⟨0, 72, (label.filter (·.toNat < 128)).length, []⟩).reversed.reverse

theorem encode_eq (label : List Char) : encode label =
    (if label.filter (·.toNat < 128) = [] then [] else label.filter (·.toNat < 128) ++ ['-']) ++
      gaps label :=
  rfl

theorem gaps_spec (label : List Char) : (∀ c ∈ gaps label, IsDigit c) ∧
    Reads label 128 0 72 (gaps label) (label.filter (·.toNat < 128)) := by
  have hstart : Tracks label (label.filter (·.toNat < 128)) 128 [] label
      ⟨0, 72, (label.filter (·.toNat < 128)).length, []⟩ := by
    refine ⟨128, 0, ⟨Nat.le_refl _, ?_, ?_, ?_, Nat.le_refl _⟩, by simp, ?_⟩
    · simp [written]
    · simp
    · simp
    · intro rest hrest
      simpa [written] using hrest
  obtain ⟨hdigits, hreads⟩ := hstart.write label.length (List.length_filter_le _ _)
  exact ⟨fun c hc => hdigits c (List.mem_reverse.mp hc), hreads⟩

/-- **A label is read back** from its Punycode form. -/
theorem decode?_encode (label : List Char) : decode? (encode label) = some label := by
  obtain ⟨hdigits, hreads⟩ := gaps_spec label
  have hlast : ∀ c ∈ gaps label, (c == '-') = false := fun c hc => (hdigits c hc).ne_mark
  rw [encode_eq]
  by_cases hbasic : label.filter (·.toNat < 128) = []
  · rw [hbasic] at hreads
    simp only [decode?, hbasic, if_true, List.nil_append, Text.cutAtLast?_eq_none_iff.mpr hlast]
    exact hreads _ (Nat.le_refl _)
  · have hcut : Text.cutAtLast? (· == '-') (label.filter (·.toNat < 128) ++ ['-'] ++ gaps label) =
        some (label.filter (·.toNat < 128), gaps label) :=
      Text.cutAtLast?_eq_some_iff.mpr ⟨'-', by simp, by simp, hlast⟩
    simp only [decode?, if_neg hbasic, hcut]
    exact hreads _ (by simp; omega)

/-- The characters of a Punycode form are those of ASCII in the label, the mark and digits. -/
theorem mem_encode {label : List Char} {c : Char} (h : c ∈ encode label) :
    (c ∈ label ∧ c.toNat < 128) ∨ c = '-' ∨ IsDigit c := by
  rw [encode_eq, List.mem_append] at h
  rcases h with h | h
  · split at h
    · cases h
    · rcases List.mem_append.mp h with h | h
      · exact .inl (by simpa using List.mem_filter.mp h)
      · exact .inr (.inl (List.mem_singleton.mp h))
  · exact .inr (.inr ((gaps_spec label).1 c h))

end SignOn.Punycode
