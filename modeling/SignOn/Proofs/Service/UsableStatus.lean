import SignOn.Service
/-!
# What a usable status is worth

The status of a service and the credential for its clients are computed apart from each other.  The
status looks for a token of the scope, whatever that holds, and for a bearer token that has not
expired (`cached_cases`); the credential needs a user name with a password, or the marker that the
scope was last authenticated with the bearer token (`credential?_isSome_iff`).

So a usable status alone does not give a credential.  The main statement, `usable_credential_iff`,
says for every service and store what has to be there besides; `usable_without_credential` shows two
stores in which it is missing.
-/

namespace SignOn

namespace Contents

/-- A scope has a credential when its token holds a user name and a password, or when it was last
authenticated with the bearer token and there is one. -/
theorem credential?_isSome_iff (c : Contents) (id : String) :
    (c.credential? id).isSome = true ↔
      (∃ name username password, c.token? id = some ⟨⟨id, name⟩, some username, some password⟩) ∨
        (c.authMode? id = some .oauth2 ∧ c.bearer?.isSome = true) := by
  unfold credential? token?
  rcases c.scopes.get? id with _ | ⟨name, _ | username, _ | password⟩ <;>
    by_cases hmode : c.authMode? id = some .oauth2 <;> simp [tokenOf, hmode]

end Contents

namespace Service

/-- A service is reported as usable: by its status, or by a row of the overview. -/
def ReportsUsable (s : Service) (now : Moment) (id : String) : Prop :=
  (s.status now id).isUsable = true ∨
    ∃ row ∈ s.overview now, row.scope.id = id ∧ row.status.isUsable = true

/-- A look at the stored credentials finds a token of the scope, or, for a service that needs it, a
bearer token that is still to expire, or nothing. -/
theorem cached_cases (s : Service) (now : Moment) (p : Provider) :
    (∃ t, s.store.contents.token? p.scope.id = some t ∧ s.cached now p = (.cached, t.username)) ∨
      (∃ b, p.isBearer = true ∧ s.store.contents.bearer? = some b ∧ isFresh now b = true ∧
        s.cached now p = (.cached, some (Claims.usernameOf b.accessToken))) ∨
      s.cached now p = (.undetermined, none) := by
  unfold cached
  cases htoken : s.store.contents.token? p.scope.id with
  | some t => exact .inl ⟨t, rfl, rfl⟩
  | none =>
      refine .inr ?_
      cases hbearer : s.store.contents.bearer?.filter fun b => p.isBearer && isFresh now b with
      | none => exact .inr rfl
      | some b =>
          obtain ⟨hb, hfresh⟩ := Option.filter_eq_some_iff.mp hbearer
          simp only [Bool.and_eq_true] at hfresh
          exact .inl ⟨b, hfresh.1, hb, hfresh.2, rfl⟩

/-- A report is a look at the stored credentials for one of the providers. -/
theorem exists_provider_of_reportsUsable {s : Service} {now : Moment} {id : String}
    (h : s.ReportsUsable now id) :
    ∃ p ∈ s.providers, p.scope.id = id ∧ (s.cached now p).1.isUsable = true := by
  rcases h with hstatus | ⟨row, hrow, hid, husable⟩
  · unfold status at hstatus
    split at hstatus
    · next p hp =>
      exact ⟨p, List.mem_of_find?_eq_some hp, by simpa using List.find?_some hp, hstatus⟩
    · cases hstatus
  · unfold overview at hrow
    obtain ⟨p, hp, rfl⟩ := List.mem_map.mp (List.mem_mergeSort.mp hrow)
    exact ⟨p, hp, hid, husable⟩

/-- A service that is reported as usable has a token of its scope, or there is a bearer token. -/
theorem stored_of_reportsUsable {s : Service} {now : Moment} {id : String}
    (h : s.ReportsUsable now id) :
    s.store.contents.token? id ≠ none ∨ s.store.contents.bearer?.isSome = true := by
  obtain ⟨p, -, rfl, husable⟩ := exists_provider_of_reportsUsable h
  rcases s.cached_cases now p with ⟨t, htoken, -⟩ | ⟨b, -, hbearer, -⟩ | hnothing
  · exact .inl (by simp [htoken])
  · exact .inr (by simp [hbearer])
  · rw [hnothing] at husable
    cases husable

/-- **A usable status is worth a credential** exactly when the token of the scope holds a user name
and a password, or the scope was last authenticated with the bearer token and, if it has a token of
its own, there is a bearer token besides. -/
theorem usable_credential_iff {s : Service} {now : Moment} {id : String}
    (h : s.ReportsUsable now id) :
    (s.store.contents.credential? id).isSome = true ↔
      (∃ name username password,
        s.store.contents.token? id = some ⟨⟨id, name⟩, some username, some password⟩) ∨
        (s.store.contents.authMode? id = some .oauth2 ∧
          (s.store.contents.token? id = none ∨ s.store.contents.bearer?.isSome = true)) := by
  rw [Contents.credential?_isSome_iff]
  refine or_congr_right (and_congr_right fun _ => ⟨.inr, ?_⟩)
  intro hparts
  rcases hparts with hnone | hbearer
  · exact (stored_of_reportsUsable h).resolve_left fun hne => hne hnone
  · exact hbearer

/-- A service with one scope, `alarms`, which needs the bearer token, over a store. -/
def alarms (store : Store) : Service :=
  let config : Config := { Config.default with
    provider := { Config.default.provider with enabled := true, baseUrl := some "http://idp" }
    services := .ofList [("alarms", ⟨none, "http://alarms", .oauth2⟩)] }
  { config, store
    pins := ⟨.new "pins.json" .missing, none, none, fun _ => none, .empty, some ⟨[]⟩, none, []⟩
    defaultTrust := ⟨[]⟩
    browser := some (browserOf config ⟨"http://idp"⟩)
    providers := config.services.toList.map fun (id, c) => providerOf true id c }

/-- A store that holds a bearer token, which expires in the year 2100, and nothing else. -/
def withBearer : Store :=
  (Store.inMemory.setBearer ⟨"h.eyJleHAiOjQxMDI0NDQ4MDB9.s", none⟩).2

/-- The store after the bearer token was accepted for the scope. -/
def withMarker : Store :=
  (withBearer.setAuthMode "alarms" .oauth2).2

/-- The store with a token of the scope that lacks the password. -/
def withoutPassword : Store :=
  (withBearer.set ⟨⟨"alarms", "Alarms"⟩, some "alice", none⟩).2

/-- Once the bearer token was accepted for the scope, the usable status is worth it. -/
theorem usable_credential_withMarker :
    (alarms withMarker).ReportsUsable ⟨1750000000, 0⟩ "alarms" ∧
      ((alarms withMarker).store.contents.credential? "alarms").isSome = true := by
  have husable : (alarms withMarker).ReportsUsable ⟨1750000000, 0⟩ "alarms" :=
    .inl (by decide +kernel)
  exact ⟨husable,
    (usable_credential_iff husable).mpr (.inr ⟨by decide +kernel, .inl (by decide +kernel)⟩)⟩

/-- **A usable status without a credential**: with a bearer token that was not yet accepted for the
scope, and also with a token of the scope that lacks the password. -/
theorem usable_without_credential :
    ((alarms withBearer).ReportsUsable ⟨1750000000, 0⟩ "alarms" ∧
        (alarms withBearer).store.contents.credential? "alarms" = none) ∧
      (alarms withoutPassword).ReportsUsable ⟨1750000000, 0⟩ "alarms" ∧
        (alarms withoutPassword).store.contents.credential? "alarms" = none :=
  ⟨⟨.inl (by decide +kernel), by decide +kernel⟩, .inl (by decide +kernel), by decide +kernel⟩

end Service

end SignOn
