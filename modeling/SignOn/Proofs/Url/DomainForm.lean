import SignOn.Proofs.Steps
import SignOn.Proofs.Url.Composition
import SignOn.Proofs.Url.Punycode
/-!
# The form of a name is its own form

A name is mapped, composed and cut into labels, and each label is written in characters of ASCII.
Mapping and composing change nothing in a label that has gone through them (`Ready`), so a label
that was written in Punycode is read back, is found to be as it should, and stands for itself
(`labelForm?_spec`).  Hence the form of a name is its own form (`form?_spec`), and it is written
in characters that no later reader takes for anything else.

A character of ASCII that no host holds is not mapped or composed, so a name with one has no form
(`form?_eq_none`).
-/

namespace SignOn.DomainName

/-! ### Characters -/

/-- Characters of ASCII that no host holds stand for themselves and are in no composition. -/
theorem isInert_of_isForbidden {c : Char} (hc : c.toNat < 128) (h : isForbidden c = true) :
    IsFixed c ∧ IsInert c :=
  Text.forall_ascii (P := fun c => isForbidden c = true → mapChar c = [c] ∧
    (c.toNat < 97 ∨ 122 < c.toNat ∧ c.toNat < 128)) (by decide) hc h

theorem isRefused_of_ascii {c : Char} (hc : c.toNat < 128) : isRefused c = false :=
  Text.forall_ascii (P := fun c => isRefused c = false) (by decide) hc

/-- A character that is written in a label of a form. -/
structure IsPlain (c : Char) : Prop where
  ascii : c.toNat < 128
  fixed : IsFixed c
  allowed : isForbidden c = false
  undotted : c ≠ '.'

/-- Digits of Punycode are plain. -/
theorem isPlain_of_isDigit {c : Char} (h : Punycode.IsDigit c) : IsPlain c := by
  have hdigit := h.elim (P := fun c => c.toNat < 128 ∧ mapChar c = [c] ∧ isForbidden c = false ∧
    c ≠ '.') (by decide)
  exact ⟨hdigit.1, hdigit.2.1, hdigit.2.2.1, hdigit.2.2.2⟩

/-- Decimal digits are plain. -/
theorem isPlain_of_decimal {c : Char} (h : c.isDigit = true) : IsPlain c := by
  have hhigh : c.toNat ≤ 57 := of_decide_eq_true (Bool.and_eq_true_iff.mp h).2
  have hascii : c.toNat < 128 := by omega
  have hplain := Text.forall_ascii (P := fun c => c.isDigit = true → mapChar c = [c] ∧
    isForbidden c = false ∧ c ≠ '.') (by decide) hascii h
  exact ⟨hascii, hplain.1, hplain.2.1, hplain.2.2⟩

theorem isPlain_of_mem_prefix : ∀ c ∈ ['x', 'n', '-'], IsPlain c := by
  have hall : ∀ c ∈ ['x', 'n', '-'], c.toNat < 128 ∧ mapChar c = [c] ∧ isForbidden c = false ∧
      c ≠ '.' := by decide
  exact fun c hc => ⟨(hall c hc).1, (hall c hc).2.1, (hall c hc).2.2.1, (hall c hc).2.2.2⟩

theorem isInert_dot : IsInert '.' :=
  .inl (by decide)

/-- What stands for itself is not changed by mapping. -/
theorem flatMap_mapChar {s : List Char} (h : ∀ c ∈ s, IsFixed c) : s.flatMap mapChar = s := by
  rw [List.flatMap_congr h]
  exact List.flatMap_singleton' s

/-- Characters of ASCII are composed of nothing. -/
theorem composed_of_ascii {s : List Char} (h : ∀ c ∈ s, c.toNat < 128) : composed s = s := by
  unfold composed
  rw [if_pos (by simpa using h)]

/-! ### Labels -/

/-- The labels of a composed form are composed each for itself. -/
theorem splitWhere_composed (s : List Char) :
    Text.splitWhere (· == '.') (composed s) = (Text.splitWhere (· == '.') s).map composed := by
  generalize hlabels : Text.splitWhere (· == '.') s = labels
  induction labels generalizing s with
  | nil => exact (Text.splitWhere_ne_nil _ _ hlabels).elim
  | cons label more ih =>
      have hone (h : ∀ c ∈ label, (c == '.') = false) :
          Text.splitWhere (· == '.') (composed label) = [composed label] := by
        refine (Text.splitWhere_eq_singleton _ _ _).mpr ⟨rfl, fun c hc => ?_⟩
        rw [beq_eq_false_iff_ne]
        rintro rfl
        simpa using h '.' ((mem_composed_iff isInert_dot).mp hc)
      cases more with
      | nil =>
          obtain ⟨rfl, hnone⟩ := (Text.splitWhere_eq_singleton _ _ _).mp hlabels
          exact hone hnone
      | cons next more =>
          obtain ⟨c, rest, rfl, hc, hnone, hrest⟩ :=
            (Text.splitWhere_eq_cons_cons _ _ _ _ _).mp hlabels
          obtain rfl : c = '.' := by simpa using hc
          rw [composed_append_cons isInert_dot,
            Text.splitWhere_append_cons (p := fun d => d == '.') hc, hone hnone, ih rest hrest]
          rfl

/-- A label that mapping and composing do not change. -/
structure Ready (label : List Char) : Prop where
  fixed : ∀ c ∈ label, IsFixed c
  composed : composed label = label
  undotted : '.' ∉ label

/-- A composed form of images is of characters that stand for themselves. -/
theorem isFixed_of_mem_composed (name : List Char) {c : Char}
    (h : c ∈ composed (name.flatMap mapChar)) : IsFixed c := by
  rcases mem_composed h with hmem | htable
  · obtain ⟨d, -, hd⟩ := List.mem_flatMap.mp hmem
    exact isFixed_of_mem_mapChar hd
  · refine isFixed_of_not_mem ?_ (not_mem_of_bits compositions_not_mapped htable)
    rcases List.mem_append.mp htable with hwhole | hpart
    · obtain ⟨e, he, heq⟩ := List.mem_map.mp hwhole
      have hrange := (isEntry_of_mem e he).whole
      omega
    · obtain ⟨e, he, heq⟩ := List.mem_flatMap.mp hpart
      have hletter := (isEntry_of_mem e he).letter
      have hmark := (isEntry_of_mem e he).mark
      simp only [List.mem_cons, List.not_mem_nil, or_false] at heq
      omega

/-- The labels of a name are ready. -/
theorem ready_of_mem {name label : List Char}
    (h : label ∈ Text.splitWhere (· == '.') (composed (name.flatMap mapChar))) : Ready label := by
  obtain ⟨before, after, hname, hnone, -, -⟩ := Text.mem_splitWhere_iff.mp h
  refine ⟨fun c hc => isFixed_of_mem_composed name ?_, ?_, ?_⟩
  · rw [hname]
    simp [hc]
  · rw [splitWhere_composed] at h
    obtain ⟨part, -, rfl⟩ := List.mem_map.mp h
    exact composed_composed part
  · intro hdot
    simpa using hnone '.' hdot

/-- What no host holds is looked for character by character. -/
theorem not_barred_iff {label : List Char} :
    ¬(label.any isForbidden = true ∨ label.any isRefused = true) ↔
      ∀ c ∈ label, isForbidden c = false ∧ isRefused c = false := by
  simp only [List.any_eq_true, not_or, not_exists, not_and, Bool.not_eq_true]
  exact ⟨fun h c hc => ⟨h.1 c hc, h.2 c hc⟩,
    fun h => ⟨fun c hc => (h c hc).1, fun c hc => (h c hc).2⟩⟩

/-- A label with a form holds nothing that no host holds. -/
theorem allowed_of_labelForm? {label form : List Char} (h : labelForm? label = some form) :
    ∀ c ∈ label, isForbidden c = false ∧ isRefused c = false := by
  unfold labelForm? at h
  split at h
  · cases h
  · next hallowed => exact not_barred_iff.mp hallowed

/-- A label of ASCII has no form but itself. -/
theorem eq_of_labelForm? {label form : List Char} (hascii : label.all (·.toNat < 128) = true)
    (h : labelForm? label = some form) : form = label := by
  have hopen := not_barred_iff.mpr (allowed_of_labelForm? h)
  unfold labelForm? at h
  rw [if_neg hopen, if_pos hascii] at h
  split at h
  · exact (Option.some.inj h).symm
  · obtain ⟨plain, -, h⟩ := Option.bind_eq_some_iff.mp h
    split at h
    · cases h
    · exact (Option.some.inj h).symm

/-- The form of any other label is its Punycode. -/
theorem eq_encode_of_labelForm? {label form : List Char}
    (hascii : ¬label.all (·.toNat < 128) = true) (h : labelForm? label = some form) :
    form = ['x', 'n', '-', '-'] ++ Punycode.encode label := by
  have hopen := not_barred_iff.mpr (allowed_of_labelForm? h)
  unfold labelForm? at h
  rw [if_neg hopen, if_neg hascii] at h
  split at h
  · cases h
  · exact (Option.some.inj h).symm

section

variable {label : List Char} (hplain : ∀ c ∈ label, IsPlain c)

include hplain

theorem not_barred_of_isPlain :
    ¬(label.any isForbidden = true ∨ label.any isRefused = true) :=
  not_barred_iff.mpr fun c hc => ⟨(hplain c hc).allowed, isRefused_of_ascii (hplain c hc).ascii⟩

theorem all_ascii_of_isPlain : label.all (·.toNat < 128) = true := by
  simpa using fun c hc => (hplain c hc).ascii

/-- A plain label that is not marked as Punycode is its own form. -/
theorem labelForm?_of_unmarked (hmark : Text.afterPrefix? ['x', 'n', '-', '-'] label = none) :
    labelForm? label = some label := by
  rw [labelForm?, if_neg (not_barred_of_isPlain hplain), if_pos (all_ascii_of_isPlain hplain),
    hmark]

/-- A plain label that is marked as Punycode is its own form if it stands for one that has to be
written so. -/
theorem labelForm?_of_marked {encoded found : List Char}
    (hmark : label = ['x', 'n', '-', '-'] ++ encoded)
    (hdecode : Punycode.decode? encoded = some found)
    (hascii : ¬found.all (·.toNat < 128) = true) (hrefused : ¬found.any isRefused = true)
    (hsame : composed (found.flatMap mapChar) = found) : labelForm? label = some label := by
  have hprefix := (Text.afterPrefix?_eq_some_iff ['x', 'n', '-', '-'] label encoded).mpr hmark
  have hfound : ¬(found.all (·.toNat < 128) = true ∨ found.any isRefused = true ∨
      composed (found.flatMap mapChar) ≠ found) := by
    simp only [not_or, ne_eq, not_not]
    exact ⟨hascii, hrefused, hsame⟩
  rw [labelForm?, if_neg (not_barred_of_isPlain hplain), if_pos (all_ascii_of_isPlain hplain),
    hprefix]
  simp only [hdecode, bind, Option.bind, if_neg hfound]

end

/-- **The form of a label is plain**, and it is its own form. -/
theorem labelForm?_spec {label form : List Char} (hready : Ready label)
    (h : labelForm? label = some form) :
    (∀ c ∈ form, IsPlain c) ∧ labelForm? form = some form := by
  have hallowed := allowed_of_labelForm? h
  have hplain (c : Char) (hc : c ∈ label) (hascii : c.toNat < 128) : IsPlain c :=
    ⟨hascii, hready.fixed c hc, (hallowed c hc).1, fun hdot => hready.undotted (hdot ▸ hc)⟩
  by_cases hascii : (label.all (·.toNat < 128)) = true
  · -- A label of ASCII is its own form, so the same is found again.
    obtain rfl := eq_of_labelForm? hascii h
    exact ⟨fun c hc => hplain c hc (by simpa using List.all_eq_true.mp hascii c hc), h⟩
  · have hform := eq_encode_of_labelForm? hascii h
    have hforms : ∀ c ∈ form, IsPlain c := by
      intro c hc
      rw [hform, List.mem_append] at hc
      rcases hc with hc | hc
      · exact isPlain_of_mem_prefix c (by simpa using hc)
      · rcases Punycode.mem_encode hc with ⟨hmem, hlow⟩ | rfl | hdigit
        · exact hplain c hmem hlow
        · exact isPlain_of_mem_prefix '-' (by simp)
        · exact isPlain_of_isDigit hdigit
    have hrefused : ¬label.any isRefused = true := by
      simpa using fun c hc => (hallowed c hc).2
    have hsame : composed (label.flatMap mapChar) = label := by
      rw [flatMap_mapChar hready.fixed, hready.composed]
    exact ⟨hforms,
      labelForm?_of_marked hforms hform (Punycode.decode?_encode label) hascii hrefused hsame⟩

/-- A label in decimal digits is its own form. -/
theorem labelForm?_of_decimal {label : List Char} (h : ∀ c ∈ label, c.isDigit = true) :
    labelForm? label = some label := by
  refine labelForm?_of_unmarked (fun c hc => isPlain_of_decimal (h c hc)) ?_
  rw [Option.eq_none_iff_forall_ne_some]
  intro rest hrest
  rw [Text.afterPrefix?_eq_some_iff] at hrest
  exact absurd (h 'x' (by simp [hrest])) (by decide)

/-! ### Names -/

/-- Labels are joined as pieces are. -/
theorem joinLabels_eq (labels : List (List Char)) :
    joinLabels labels = ['.'].intercalate labels := by
  induction labels with
  | nil => rfl
  | cons label more ih =>
      cases more with
      | nil => exact List.intercalate_singleton.symm
      | cons next more =>
          rw [List.intercalate_cons_cons, ← ih, joinLabels]
          · simp
          · exact fun hnil => nomatch hnil

/-- A name with a form is one of which each label has one. -/
theorem form?_eq_some_iff {name form : List Char} : form? name = some form ↔
    ∃ forms, (Text.splitWhere (· == '.') (composed (name.flatMap mapChar))).mapM labelForm? =
      some forms ∧ form = joinLabels forms := by
  simp only [form?, bind, Option.bind_eq_some_iff, pure, Option.some.injEq]
  simp only [eq_comm]

/-- Labels that are their own forms make a name that is its own form. -/
theorem form?_intercalate {labels : List (List Char)} (hne : labels ≠ [])
    (hlabel : ∀ label ∈ labels, (∀ c ∈ label, IsPlain c) ∧ labelForm? label = some label) :
    (∀ c ∈ ['.'].intercalate labels, c = '.' ∨ IsPlain c) ∧
      form? (['.'].intercalate labels) = some (['.'].intercalate labels) := by
  have hplain : ∀ c ∈ ['.'].intercalate labels, c = '.' ∨ IsPlain c := fun c hc =>
    (Text.mem_intercalate hc).imp_right fun ⟨label, hmem, hin⟩ => (hlabel label hmem).1 c hin
  refine ⟨hplain, form?_eq_some_iff.mpr ⟨labels, ?_, (joinLabels_eq labels).symm⟩⟩
  have hmapped : (['.'].intercalate labels).flatMap mapChar = ['.'].intercalate labels :=
    flatMap_mapChar fun c hc => (hplain c hc).elim (fun hdot => hdot ▸ rfl) IsPlain.fixed
  have hcomposed : composed (['.'].intercalate labels) = ['.'].intercalate labels :=
    composed_of_ascii fun c hc =>
      (hplain c hc).elim (fun hdot => by rw [hdot]; decide) IsPlain.ascii
  rw [hmapped, hcomposed, Text.splitWhere_intercalate hne fun label hmem hdot =>
    ((hlabel label hmem).1 '.' hdot).undotted rfl, mapM_eq_some_iff]
  exact List.map_congr_left fun label hmem => (hlabel label hmem).2

/-- **The form of a name is its own form**, and but for dots it is plain. -/
theorem form?_spec {name form : List Char} (h : form? name = some form) :
    (∀ c ∈ form, c = '.' ∨ IsPlain c) ∧ form? form = some form := by
  obtain ⟨forms, hforms, rfl⟩ := form?_eq_some_iff.mp h
  rw [joinLabels_eq]
  refine form?_intercalate ?_ fun f hf => ?_
  · rintro rfl
    exact Text.splitWhere_ne_nil _ _ (List.map_eq_nil_iff.mp (mapM_eq_some_iff.mp hforms))
  · have hmem : some f ∈ forms.map some := List.mem_map.mpr ⟨f, hf, rfl⟩
    rw [← mapM_eq_some_iff.mp hforms] at hmem
    obtain ⟨label, hlabel, hform⟩ := List.mem_map.mp hmem
    exact labelForm?_spec (ready_of_mem hlabel) hform

/-- A name with a character of ASCII that no host holds has no form. -/
theorem form?_eq_none {name : List Char} {c : Char} (hmem : c ∈ name) (hc : c.toNat < 128)
    (h : isForbidden c = true) : form? name = none := by
  obtain ⟨hfixed, hinert⟩ := isInert_of_isForbidden hc h
  have hcomposed : c ∈ composed (name.flatMap mapChar) :=
    (mem_composed_iff hinert).mpr (List.mem_flatMap.mpr ⟨c, hmem, by
      rw [show mapChar c = [c] from hfixed]
      exact List.mem_singleton_self c⟩)
  have hdot : (c == '.') = false := by
    rw [beq_eq_false_iff_ne]
    rintro rfl
    exact absurd h (by decide)
  obtain ⟨label, hlabel, hin⟩ := Text.exists_mem_splitWhere (p := fun d => d == '.') hcomposed hdot
  rw [Option.eq_none_iff_forall_ne_some]
  intro form hform
  obtain ⟨forms, hforms, -⟩ := form?_eq_some_iff.mp hform
  obtain ⟨f, -, hf⟩ := exists_of_mem_of_mapM hforms hlabel
  simp [(allowed_of_labelForm? hf c hin).1] at h

end SignOn.DomainName
