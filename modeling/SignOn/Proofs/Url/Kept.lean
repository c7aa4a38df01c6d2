import SignOn.Proofs.Url.Written
/-!
# What the parser drops

Tabs and line breaks anywhere in a text and blanks and controls around it are no part of a URL.  In
a URL that is written in plain parts only the user info and the rest can hold any of them, and what
is read are the same parts without them (`Written.Plain.writes_kept`).
-/

namespace SignOn.Url

/-- A character that the parser does not drop from within a text. -/
def isKept (c : Char) : Bool :=
  c ≠ '\t' ∧ c ≠ '\n' ∧ c ≠ '\r'

theorem isKept_of_lt {c : Char} (h : 32 < c.toNat) : isKept c = true := by
  have hne (d : Char) (hd : d.toNat ≤ 32) : c ≠ d := by
    rintro rfl
    omega
  simp [isKept, hne '\t' (by decide), hne '\n' (by decide), hne '\r' (by decide)]

/-- The parts as they are after the parser has dropped what it drops. -/
def Written.kept (w : Written) : Written :=
  { w with
    userinfo := w.userinfo.map (·.filter isKept)
    tail := (Text.dropEndWhile (·.toNat ≤ 32) w.tail).filter isKept }

/-- A URL of which only user info and rest may hold what the parser drops. -/
structure Written.Plain (w : Written) : Prop where
  slashes : w.slashes = ['/', '/']
  host : ∀ c ∈ w.host, 32 < c.toNat
  port : ∀ s ∈ w.port, ∀ c ∈ s, c.isDigit = true
  tail : ∀ c ∈ w.tail.head?, c = '/' ∨ c = '?' ∨ c = '#'

theorem lt_of_isDigit {c : Char} (h : c.isDigit = true) : 32 < c.toNat := by
  have hlow : 48 ≤ c.toNat := of_decide_eq_true (Bool.and_eq_true_iff.mp h).1
  omega

theorem lt_of_isSchemeChar {c : Char} (h : isSchemeChar c = true) : 32 < c.toNat := by
  by_contra hle
  have hascii : c.toNat < 128 := by omega
  have hnone := Text.forall_ascii (P := fun c => isSchemeChar c = true → 32 < c.toNat)
    (by decide) hascii h
  exact hle hnone

namespace Written

variable {w : Written}

theorem Plain.hostPort (hw : w.Plain) : ∀ c ∈ w.hostPort, 32 < c.toNat := by
  intro c hc
  rcases List.mem_append.mp hc with hc | hc
  · exact hw.host c hc
  · cases hport : w.port with
    | none => simp [portText, hport] at hc
    | some s =>
        simp only [portText, hport, Option.elim, List.mem_cons] at hc
        rcases hc with rfl | hc
        · decide
        · exact lt_of_isDigit (hw.port s hport c hc)

/-- Of the authority only the user info loses something. -/
theorem Plain.authority_kept (hw : w.Plain) : w.kept.authority = w.authority.filter isKept := by
  have hhostPort : w.hostPort.filter isKept = w.hostPort :=
    List.filter_eq_self.mpr fun c hc => isKept_of_lt (hw.hostPort c hc)
  have hkept : w.kept.authority =
      (w.userinfo.map (·.filter isKept)).elim w.hostPort (· ++ '@' :: w.hostPort) := rfl
  have hat : isKept '@' = true := by decide
  rw [hkept, authority]
  cases w.userinfo with
  | none => exact hhostPort.symm
  | some info => simp [hat, hhostPort]

/-- The rest still begins where the authority ends. -/
theorem Plain.head_kept (hw : w.Plain) : ∀ c ∈ w.kept.tail.head?, c ∈ w.tail.head? := by
  intro c hc
  cases htail : w.tail with
  | nil => simp [kept, htail, Text.dropEndWhile] at hc
  | cons d rest =>
      have hd : 32 < d.toNat := by
        rcases hw.tail d (by simp [htail]) with rfl | rfl | rfl <;> decide
      have hdrop : Text.dropEndWhile (·.toNat ≤ 32) ([d] ++ rest) =
          [d] ++ Text.dropEndWhile (·.toNat ≤ 32) rest :=
        Text.dropEndWhile_append rest (by simpa using hd)
      rw [List.singleton_append, List.singleton_append] at hdrop
      simpa [kept, htail, hdrop, isKept_of_lt hd] using hc

/-- **What the parser reads** of a text are the parts that it keeps. -/
theorem Plain.writes_kept (hw : w.Plain) (hvalid : w.Valid) :
    w.kept.Writes (String.ofList w.text) := by
  have hsub : ∀ c ∈ w.kept.authority, c ∈ w.authority := by
    rw [hw.authority_kept]
    exact fun c hc => (List.mem_filter.mp hc).1
  refine ⟨⟨hvalid.scheme, hvalid.slashes, fun c hc => hvalid.authority c (hsub c hc),
    hvalid.host, hvalid.hostPort, fun c hc => hvalid.tail c (hw.head_kept c hc)⟩, ?_⟩
  have htext : w.text = w.scheme ++ ':' :: (w.slashes ++ w.authority) ++ w.tail := by
    simp [text, outline, Outline.text, Outline.body]
  have hkept : w.kept.text =
      w.scheme ++ ':' :: (w.slashes ++ w.kept.authority) ++ w.kept.tail := by
    simp [text, outline, Outline.text, Outline.body, kept]
  -- The text begins with a letter, and the authority ends in the host or the port.
  have hfirst : ∀ c ∈ w.text.head?, decide (c.toNat ≤ 32) = false := by
    obtain ⟨d, rest, hscheme⟩ := List.exists_cons_of_ne_nil hvalid.scheme.nonempty
    have hd := lt_of_isSchemeChar (hvalid.scheme.chars d (by simp [hscheme]))
    simpa [htext, hscheme] using hd
  have hlast : ∀ c ∈ (w.scheme ++ ':' :: (w.slashes ++ w.authority)).getLast?,
      decide (c.toNat ≤ 32) = false := by
    intro c hc
    obtain ⟨front, hfront⟩ : ∃ front, w.scheme ++ ':' :: (w.slashes ++ w.authority) =
        front ++ w.hostPort := by
      unfold authority
      cases w.userinfo with
      | none => exact ⟨w.scheme ++ ':' :: w.slashes, by simp⟩
      | some info => exact ⟨w.scheme ++ ':' :: (w.slashes ++ (info ++ ['@'])), by simp⟩
    rw [hfront, List.getLast?_append_of_ne_nil _ (hostPort_ne_nil hvalid)] at hc
    simpa using hw.hostPort c (List.mem_of_mem_getLast? hc)
  have hscheme : w.scheme.filter isKept = w.scheme :=
    List.filter_eq_self.mpr fun c hc => isKept_of_lt (lt_of_isSchemeChar (hvalid.scheme.chars c hc))
  have hslashes : w.slashes.filter isKept = w.slashes := by
    rw [hw.slashes]
    decide
  have hcolon : isKept ':' = true := by decide
  calc cleaned (String.ofList w.text).toList
      = (Text.dropEndWhile (·.toNat ≤ 32) (w.text.dropWhile (·.toNat ≤ 32))).filter isKept := by
        rw [String.toList_ofList]
        rfl
    _ = (Text.dropEndWhile (·.toNat ≤ 32) w.text).filter isKept := by
        rw [Text.dropWhile_eq_self hfirst]
    _ = w.kept.text := by
        rw [htext, Text.dropEndWhile_append _ hlast, hkept, hw.authority_kept]
        simp [hscheme, hslashes, hcolon, kept]

end Written

end SignOn.Url
