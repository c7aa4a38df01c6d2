import SignOn.Proofs.Token.TransparentCache
/-!
# Checking a token again

A check may leave another validator than it found, because a key that it fetches takes the place of
the kept one.  While the provider answers in one way, this does not show when the same token is
checked again at the same moment (`validate_again`): either the validator is what it was, and then
what has arrived in the meantime makes no difference (`validate_congr`), or it keeps the key that a
search would find now (`sound_keep`).

The first check needs no sound validator.  It may keep a wrong key and accept a token under it; then
that key settles the second check too.
-/

namespace SignOn

/-- A steady provider stays so, whatever arrives. -/
theorem Network.Steady.seen {net : Network} {issuer : String} {provider : String → Http.Answer}
    (h : net.Steady issuer provider) (seen : List Arrival) :
    ({ net with seen } : Network).Steady issuer provider :=
  ⟨h.discovery, h.keys⟩

namespace Validator

open Token

section

variable {v : Validator} {provider : String → Http.Answer} {net net' : Network}

/-- The verdict of a fetched key is the same at a steady provider. -/
theorem freshVerdict_congr {issuer : String} (h : net.Steady issuer provider)
    (h' : net'.Steady issuer provider) (now : Moment) (jwt : String) :
    freshVerdict issuer now jwt net = freshVerdict issuer now jwt net' := by
  unfold freshVerdict
  rw [PublicKey.resolve_congr h h']

/-- **A check has one result at a steady provider**, whatever key is kept. -/
theorem validate_congr (h : net.Steady v.issuer provider) (h' : net'.Steady v.issuer provider)
    (now : Moment) (jwt : String) :
    (v.validate now jwt net).1 = (v.validate now jwt net').1 := by
  unfold validate
  split
  · next hjwt =>
    have hfresh := freshVerdict_congr h h' now jwt
    rw [← validateFresh_fst hjwt, ← validateFresh_fst hjwt] at hfresh
    split
    · exact hfresh
    · split
      · exact hfresh
      · rfl
  · rfl

/-- A check that the kept key does not settle gives the verdict of a fetched key. -/
theorem NeedsKey.validate_fst {now : Moment} {jwt : String} (h : v.NeedsKey now jwt) :
    (v.validate now jwt net).1 = freshVerdict v.issuer now jwt net := by
  obtain ⟨header, payload, signature, hjwt, hmismatch⟩ := h
  cases hkept : v.kept? now with
  | none => exact validate_of_kept?_eq_none hkept jwt net
  | some key =>
      have hcheck := (check_eq_mismatch_iff now.unix key header payload signature).mpr
        (hmismatch key hkept)
      unfold validate
      simp only [hjwt, hkept, hcheck]
      exact validateFresh_fst hjwt v now net

/-- A key that was found at a steady provider is a sound one to keep, if keys are kept. -/
theorem sound_keep {now : Moment} {key : PublicKey} {after : Network} (hkeeps : v.lifetime ≠ 0)
    (h : net.Steady v.issuer provider) (hfetched : PublicKey.Fetched v.issuer net key after) :
    (v.keep now key).Sound provider := by
  have hresolve : (PublicKey.resolve v.issuer net).1 = .ok key := by
    rw [(PublicKey.resolve_eq_ok_iff v.issuer net after key).mpr hfetched]
  rw [keep_eq, if_neg hkeeps]
  intro k hk net' h'
  cases hk
  exact (PublicKey.resolve_congr h' h).trans hresolve

/-- **Checking a token again gives the same result** at a steady provider, with whatever key the
first check found and left. -/
theorem validate_again (h : net.Steady v.issuer provider) (h' : net'.Steady v.issuer provider)
    (now : Moment) (jwt : String) :
    ((v.validate now jwt net).2.1.validate now jwt net').1 = (v.validate now jwt net).1 := by
  have hcongr := validate_congr h' h now jwt
  have hcourse := course_validate v now jwt net
  generalize hcheck : v.validate now jwt net = outcome at hcourse hcongr ⊢
  cases hcourse with
  | malformed | kept | starved => exact hcongr
  | @fetched key _ _ hneeds hfetched =>
      by_cases hkeeps : v.lifetime = 0
      · rwa [keep_eq, if_pos hkeeps]
      · have hissuer : (v.keep now key).issuer = v.issuer := by rw [keep_eq]
        have hagain := validate_of_sound (sound_keep hkeeps h hfetched) (hissuer ▸ h') now jwt
        have hfirst : (v.validate now jwt net).1 = _ := hneeds.validate_fst
        rw [hcheck] at hfirst
        calc ((v.keep now key).validate now jwt net').1
            = freshVerdict v.issuer now jwt net' := by rw [hagain, hissuer]
          _ = freshVerdict v.issuer now jwt net := freshVerdict_congr h' h now jwt
          _ = _ := hfirst.symm

/-- A check leaves its traces on the network and nothing else. -/
theorem validate_seen (v : Validator) (now : Moment) (jwt : String) (net : Network) :
    ∃ seen, (v.validate now jwt net).2.2 = { net with seen } := by
  rcases v.validate_traffic now jwt net with hnone | ⟨-, hresolve⟩
  · exact ⟨net.seen, hnone⟩
  · rw [hresolve]
    obtain ⟨seen, hseen⟩ := net.afterGet_eq (PublicKey.discoveryUrlOf v.issuer)
    rcases PublicKey.resolve_traffic v.issuer net with hafter | ⟨url, hafter⟩
    · exact ⟨seen, hafter.trans hseen⟩
    · obtain ⟨seen', hseen'⟩ := (net.afterGet (PublicKey.discoveryUrlOf v.issuer)).afterGet_eq url
      rw [hseen] at hseen' hafter
      exact ⟨seen', hafter.trans hseen'⟩

end

end Validator

end SignOn
