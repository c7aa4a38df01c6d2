import SignOn.Proofs.Service.LoginCredential
import SignOn.Proofs.Token.StatedClaims
/-!
# A token that would be accepted counts as fresh

The service asks nobody when it reports a status: it looks at the expiry that the stored bearer
token states, without checking its signature.  For a token that a check would accept at the same
moment this look is right.  It reads the same claims (`Claims.ofToken?_of_states`), so it sees the
expiry that the check sees, and that is still to come.

The main statement is `accepted_token_is_fresh`: both readers give the same claims, the stored token
is not removed, and no service that uses it is reported as undetermined.
-/

namespace SignOn

namespace Service

/-- **A check that accepts a token reads what the token states.**  The payload has been read and
the expiry is still to come. -/
theorem stated_of_accepted {v : Validator} {now : Moment} {jwt : String} {net : Network}
    {claims : Verified} (h : (v.validate now jwt net).1 = .ok claims) :
    now.unix < claims.expiry ∧
      ∃ stated, Claims.ofToken? jwt = some stated ∧ stated.expiry? = some claims.expiry ∧
        ∀ name, claims.text? name = (stated.text? name).filter fun s => ¬s.isEmpty := by
  obtain ⟨key, hgenuine, -⟩ := (v.validate_eq_ok_iff now jwt net claims).mp h
  obtain ⟨header, payload, signature, htext, hheader, hpayload, hsignature, -, -, hstates, -,
    hlater⟩ := hgenuine
  have hjwt := (Token.segments_eq_iff jwt header payload signature).mpr
    ⟨htext, hheader, hpayload, hsignature⟩
  exact ⟨hlater, Claims.ofToken?_of_states hjwt hstates⟩

/-- A token that is accepted is fresh. -/
theorem isFresh_of_accepted {v : Validator} {now : Moment} {jwt : String} {net : Network}
    {claims : Verified} (h : (v.validate now jwt net).1 = .ok claims) (idToken : Option String) :
    isFresh now ⟨jwt, idToken⟩ = true := by
  obtain ⟨hlater, stated, hstated, hexpiry, -⟩ := stated_of_accepted h
  have hread : (BearerToken.mk jwt idToken).statedExpiry? = some claims.expiry := by
    simp [BearerToken.statedExpiry?, hstated, hexpiry]
  simp [isFresh, hread, hlater]

/-- A service that uses a fresh token is reported as usable. -/
theorem cached_of_isFresh {s : Service} {now : Moment} {token : BearerToken}
    (htoken : s.store.contents.bearer? = some token) (hfresh : isFresh now token = true)
    {p : Provider} (hp : p.isBearer = true) : (s.cached now p).1 = .cached := by
  have hkept : (s.store.contents.bearer?.filter fun t => p.isBearer && isFresh now t) =
      some token := by
    rw [htoken, Option.filter_some, if_pos (by rw [hp, hfresh]; rfl)]
  cases hown : s.store.contents.token? p.scope.id with
  | some own => simp only [cached, hown]
  | none => simp only [cached, hown, hkept]

/-- **A token that would be accepted counts as fresh.**  Whatever validator accepts a token, the
reader that does not check it reads the same token: it gives the same text of every claim, if one
takes an empty text as absent, and the same expiry.  So a service with this token in its store does
not remove it at the same moment, and reports no service that uses it as undetermined. -/
theorem accepted_token_is_fresh {v : Validator} {now : Moment} {jwt : String} {net : Network}
    {claims : Verified} (h : (v.validate now jwt net).1 = .ok claims) :
    (∃ stated, Claims.ofToken? jwt = some stated ∧ stated.expiry? = some claims.expiry ∧
      ∀ name, claims.text? name = (stated.text? name).filter fun s => ¬s.isEmpty) ∧
    ∀ (s : Service) (idToken : Option String),
      s.store.contents.bearer? = some ⟨jwt, idToken⟩ →
        s.checkStoredBearer now = (true, s) ∧
        (∀ id p, s.provider? id = some p → p.isBearer = true → s.status now id = .cached) ∧
        ∀ p ∈ s.providers, p.isBearer = true →
          ∃ row ∈ s.overview now, row.scope = p.scope ∧ row.status = .cached := by
  refine ⟨(stated_of_accepted h).2, ?_⟩
  intro s idToken htoken
  have hfresh := isFresh_of_accepted h idToken
  refine ⟨?_, ?_, ?_⟩
  · simp only [checkStoredBearer, htoken, hfresh, if_true]
  · intro id p hprovider hp
    simp only [status, hprovider]
    exact cached_of_isFresh htoken hfresh hp
  · intro p hmem hp
    have hrow : (⟨p.scope, (s.cached now p).1, (s.cached now p).2⟩ : ServiceRow) ∈
        s.overview now := by
      unfold overview
      exact List.mem_mergeSort.mpr (List.mem_map.mpr ⟨p, hmem, rfl⟩)
    exact ⟨_, hrow, rfl, cached_of_isFresh htoken hfresh hp⟩

/-- A token that is good until the year 2100 is accepted in 2025: its stated expiry is read, and it
stays in the store. -/
theorem accepted_token_is_fresh_fitted :
    (Claims.ofToken? Token.fittedJwt).isSome = true ∧
      (alarms (holding Token.fittedJwt)).checkStoredBearer ⟨1750000000, 0⟩ =
        (true, alarms (holding Token.fittedJwt)) ∧
      (alarms (holding Token.fittedJwt)).status ⟨1750000000, 0⟩ "alarms" = .cached := by
  obtain ⟨claims, hverdict⟩ := @Validator.freshVerdict_fittedJwt ⟨1750000000, 0⟩ (by decide)
  have hnone : (Validator.new "http://idp" 0 "sub").kept? ⟨1750000000, 0⟩ = none := rfl
  have haccepted := (Validator.validate_of_kept?_eq_none hnone Token.fittedJwt
    (Token.fittedNetwork [])).trans hverdict
  obtain ⟨⟨stated, hstated, -⟩, hservice⟩ := accepted_token_is_fresh haccepted
  obtain ⟨hkept, hstatus, -⟩ :=
    hservice (alarms (holding Token.fittedJwt)) none (contents_holding Token.fittedJwt).1
  have hprovider : (alarms (holding Token.fittedJwt)).provider? "alarms" =
      some (.bearer ⟨"alarms", "alarms"⟩) := rfl
  exact ⟨by rw [hstated]; rfl, hkept, hstatus _ _ hprovider rfl⟩

end Service

end SignOn
