import SignOn.Config
import SignOn.Proofs.Settings.Documents
import SignOn.Proofs.Settings.VariableValues
import SignOn.Proofs.Text.Utf8
/-!
# Texts set by variables

A configuration is read from the settings of a file with a table over them that the variables make.
When just one variable writes a setting, this table holds one value, and what becomes of a
configuration that loads is told by that value alone (`load_of_isOnly`): a text is set, and all else
is refused with a complaint about the variable.  So a variable sets its own text exactly if it means
itself, and in quotes any text can be set (`text_setting_overridden`).

The settings beside the one that is written stay as the file has them, unless the file writes their
part as a list of fields.  A list is no table, so the one value takes the place of all of it.
-/

namespace SignOn.Config

open Json Settings

/-- A setting that is a text. -/
inductive TextSetting
  | baseUrl
  | realm
  | clientId
  | callbackPath
  | trustPath
  | proxy
  | usernameClaim
  | credentialsPath
  deriving DecidableEq

namespace TextSetting

/-- The part of the configuration that has the setting. -/
def part : TextSetting → String
  | baseUrl | realm | clientId | callbackPath => "idp"
  | trustPath | proxy => "trust"
  | usernameClaim => "oidc"
  | credentialsPath => "credentials"

/-- The name of the setting in its part. -/
def name : TextSetting → String
  | baseUrl => "base_url"
  | realm => "realm"
  | clientId => "client_id"
  | callbackPath => "callback_path"
  | trustPath | credentialsPath => "path"
  | proxy => "proxy"
  | usernameClaim => "username_claim"

/-- The variable that writes the setting. -/
def variableName (t : TextSetting) : String :=
  lead ++ Text.upperAscii t.part ++ "__" ++ Text.upperAscii t.name

theorem path?_variableName (t : TextSetting) : path? t.variableName = some [t.part, t.name] := by
  cases t <;> decide +kernel

/-- The configuration with this text for the setting, and all else as it is. -/
def put (t : TextSetting) (s : String) (c : Config) : Config :=
  match t with
  | baseUrl => { c with provider := { c.provider with baseUrl := some s } }
  | realm => { c with provider := { c.provider with realm := s } }
  | clientId => { c with provider := { c.provider with clientId := s } }
  | callbackPath => { c with provider := { c.provider with callbackPath := s } }
  | trustPath => { c with trust := { c.trust with path := some s } }
  | proxy => { c with trust := { c.trust with proxy := some s } }
  | usernameClaim => { c with token := { c.token with usernameClaim := s } }
  | credentialsPath => { c with credentials := { c.credentials with path := some s } }

/-- The configuration with the defaults for the part of the setting. -/
def clearPart (t : TextSetting) (c : Config) : Config :=
  match t with
  | baseUrl | realm | clientId | callbackPath => { c with provider := default.provider }
  | trustPath | proxy => { c with trust := default.trust }
  | usernameClaim => { c with token := default.token }
  | credentialsPath => { c with credentials := default.credentials }

/-- The fault of a variable whose value is no text. -/
def refusal (t : TextSetting) (v : Json) : Fault :=
  .config (.unreadable ((Problem.type v "a string").message ++
    (" for key " ++ Text.quoted (Text.upperAscii t.part ++ "." ++ Text.upperAscii t.name)) ++
    " in " ++ ("\x60" ++ lead ++ "\x60 environment variable(s)")))

/-- What becomes of a configuration when the variable of the setting means this value. -/
def outcome (t : TextSetting) (c : Config) : Json → Except Fault Config
  | .str s => .ok (t.put s c)
  | v => .error (t.refusal v)

end TextSetting

/-- What a file has for a part of the configuration. -/
def filePart? (file : Option (String × StateFile.Content)) (part : String) : Option Json :=
  file.bind fun f => (fileSettings? f.2).bind (get? part)

/-- Whether a file writes a part of the configuration as a list of its fields. -/
def writesList (file : Option (String × StateFile.Content)) (part : String) : Bool :=
  (filePart? file part).any isList

/-- What a variable for the setting leaves of a configuration: a part that the file writes as a list
goes. -/
def TextSetting.leaves (t : TextSetting) (file : Option (String × StateFile.Content)) (c : Config) :
    Config :=
  if writesList file t.part then t.clearPart c else c

/-- The variable of the setting has this value, and no other variable writes a setting. -/
def TextSetting.IsOnly (t : TextSetting) (value : String) (environment : List (String × String)) :
    Prop :=
  environment.filter (fun e => (path? e.1).isSome) = [(t.variableName, value)]

/-! ## A text in a part -/

/-- A part of the configuration is a record, which starts from its defaults. -/
structure IsPart {ρ : Type} (part what : String) (fields : List (FieldReader ρ)) (start : ρ)
    (get : Config → ρ) (put : ρ → Config → Config) : Prop where
  isField : IsField parts part (record what fields start) put
  get_put : ∀ r c, get (put r c) = r
  put_start : put start default = default

/-- **A table with one text over a part of the configuration.** -/
theorem IsPart.ofJson_merge {α ρ : Type} {part name what : String} {fields : List (FieldReader ρ)}
    {start : ρ} {get : Config → ρ} {putPart : ρ → Config → Config}
    (hpart : IsPart part what fields start get putPart) {read : Json → Except Complaint α}
    {put : α → ρ → ρ} {wrap : String → α} (hfield : IsField fields name read put)
    (hread : ∀ v, v ≠ .null → read v = (text v).map wrap)
    {members : List (String × Json)} (ordered : AreOrdered members) {c : Config}
    (loads : ofJson (.obj members) = .ok c) {listed : Bool}
    (hlisted : (member? part members).any isList = listed) {v : Json} (hv : v ≠ .null) :
    ofJson (merge (.obj members) (.obj [(part, .obj [(name, v)])])) =
      (inPart part (inPart name (text v))).map fun s =>
        putPart (put (wrap s) (if listed then start else get c)) c := by
  subst hlisted
  have noTable (inner : List (String × Json)) (a : α) : read (.obj inner) ≠ .ok a := by
    rw [hread _ (by simp)]
    intro h
    cases h
  -- The part is read as before, with the new value of the field in it.
  have hinner : record what fields start
      ((member? part members).elim (.obj [(name, v)]) (merge · (.obj [(name, v)]))) =
        (inPart name (read v)).map
          (put · (if (member? part members).any isList then start else get c)) := by
    cases hold : member? part members with
    | none =>
        have hc := hpart.isField.put_of_member?_eq_none loads hpart.put_start hold
        have hget : get c = start := by rw [← hc, hpart.get_put]
        simp only [Option.elim_none, hget, ite_self]
        exact hfield.foldlM_insertMember .nil rfl v
    | some old =>
        obtain ⟨r, hr, hc⟩ := hpart.isField.exists_read_member ordered.sorted loads hold
        have hordered : old.IsOrdered := ordered.values _ (mem_of_member? hold)
        have hget : get c = r := by rw [← hc, hpart.get_put]
        rw [hget]
        exact record_merge hfield noTable hordered hr v
  rw [merge_member]
  refine (hpart.isField.foldlM_insertMember ordered.sorted loads _).trans ?_
  rw [hinner, hread v hv]
  cases text v <;> rfl

theorem isPart_provider : IsPart "idp" "IdentityProviderConfig" providerFields default.provider
    Config.provider fun p c => { c with provider := p } :=
  ⟨⟨by simp [parts, providerOfJson], by simp [parts], fun _ _ _ => rfl⟩, fun _ _ => rfl, rfl⟩

theorem isPart_trust : IsPart "trust" "TrustConfig" trustFields default.trust Config.trust
    fun t c => { c with trust := t } :=
  ⟨⟨by simp [parts, trustOfJson], by simp [parts], fun _ _ _ => rfl⟩, fun _ _ => rfl, rfl⟩

theorem isPart_token : IsPart "oidc" "OidcConfig" tokenFields default.token Config.token
    fun t c => { c with token := t } :=
  ⟨⟨by simp [parts, tokenOfJson], by simp [parts], fun _ _ _ => rfl⟩, fun _ _ => rfl, rfl⟩

theorem isPart_credentials : IsPart "credentials" "CredentialsConfig" credentialsFields
    default.credentials Config.credentials fun p c => { c with credentials := p } :=
  ⟨⟨by simp [parts, credentialsOfJson], by simp [parts], fun _ _ _ => rfl⟩, fun _ _ => rfl, rfl⟩

theorem text_eq (v : Json) : text v = (text v).map id := by
  cases text v <;> rfl

theorem optionalText_eq (v : Json) (hv : v ≠ .null) : optionalText v = (text v).map some := by
  cases v with
  | null => exact (hv rfl).elim
  | _ => rfl

/-- **A table with one text over the configuration.** -/
theorem ofJson_merge_setting (t : TextSetting) {members : List (String × Json)}
    (ordered : AreOrdered members) {c : Config} (loads : ofJson (.obj members) = .ok c)
    {listed : Bool} (hlisted : (member? t.part members).any isList = listed) {v : Json}
    (hv : v ≠ .null) :
    ofJson (merge (.obj members) (.obj [(t.part, .obj [(t.name, v)])])) =
      (inPart t.part (inPart t.name (text v))).map fun s =>
        t.put s (if listed then t.clearPart c else c) := by
  cases t with
  | baseUrl =>
      have hfield : IsField providerFields "base_url" optionalText
          fun s c => { c with baseUrl := s } :=
        ⟨by simp [providerFields], by simp [providerFields], fun _ _ _ => rfl⟩
      cases listed <;>
        exact isPart_provider.ofJson_merge hfield optionalText_eq ordered loads hlisted hv
  | realm =>
      have hfield : IsField providerFields "realm" text fun s c => { c with realm := s } :=
        ⟨by simp [providerFields], by simp [providerFields], fun _ _ _ => rfl⟩
      cases listed <;>
        exact isPart_provider.ofJson_merge hfield (fun v _ => text_eq v) ordered loads
          hlisted hv
  | clientId =>
      have hfield : IsField providerFields "client_id" text fun s c => { c with clientId := s } :=
        ⟨by simp [providerFields], by simp [providerFields], fun _ _ _ => rfl⟩
      cases listed <;>
        exact isPart_provider.ofJson_merge hfield (fun v _ => text_eq v) ordered loads
          hlisted hv
  | callbackPath =>
      have hfield : IsField providerFields "callback_path" text
          fun s c => { c with callbackPath := s } :=
        ⟨by simp [providerFields], by simp [providerFields], fun _ _ _ => rfl⟩
      cases listed <;>
        exact isPart_provider.ofJson_merge hfield (fun v _ => text_eq v) ordered loads
          hlisted hv
  | trustPath =>
      have hfield : IsField trustFields "path" optionalText fun s c => { c with path := s } :=
        ⟨by simp [trustFields], by simp [trustFields], fun _ _ _ => rfl⟩
      cases listed <;>
        exact isPart_trust.ofJson_merge hfield optionalText_eq ordered loads hlisted hv
  | proxy =>
      have hfield : IsField trustFields "proxy" optionalText fun s c => { c with proxy := s } :=
        ⟨by simp [trustFields], by simp [trustFields], fun _ _ _ => rfl⟩
      cases listed <;>
        exact isPart_trust.ofJson_merge hfield optionalText_eq ordered loads hlisted hv
  | usernameClaim =>
      have hfield : IsField tokenFields "username_claim" text
          fun s c => { c with usernameClaim := s } :=
        ⟨by simp [tokenFields], by simp [tokenFields], fun _ _ _ => rfl⟩
      cases listed <;>
        exact isPart_token.ofJson_merge hfield (fun v _ => text_eq v) ordered loads
          hlisted hv
  | credentialsPath =>
      have hfield : IsField credentialsFields "path" optionalText fun s _ => ⟨s⟩ :=
        ⟨by simp [credentialsFields], by simp [credentialsFields], fun _ _ _ => rfl⟩
      cases listed <;>
        exact isPart_credentials.ofJson_merge hfield optionalText_eq ordered loads hlisted hv

/-! ## Loading a configuration -/

/-- Variables that write no setting do not count. -/
theorem ofVariables_filter (environment : List (String × String)) :
    ofVariables environment = ofVariables (environment.filter fun e => (path? e.1).isSome) := by
  unfold ofVariables
  rw [List.foldl_filter]
  refine congrArg (fun step => List.foldl step (Json.obj []) environment) ?_
  funext settings e
  cases hpath : path? e.1 <;> simp [hpath]

theorem TextSetting.IsOnly.ofVariables_eq {t : TextSetting} {value : String}
    {environment : List (String × String)} (only : t.IsOnly value environment) :
    ofVariables environment = .obj [(t.part, .obj [(t.name, valueOf value)])] := by
  rw [ofVariables_filter, only]
  simp only [ofVariables, List.foldl_cons, List.foldl_nil, t.path?_variableName, nest, merge_member,
    member?, Option.elim_none, insertMember]

/-- **A file that loads** has members that are in order, whatever the variables say. -/
theorem exists_members_of_load {directory : String} {file : Option (String × StateFile.Content)}
    {environment : List (String × String)} {c : Config}
    (loads : load directory file environment = .ok c) :
    ∃ shown members, AreOrdered members ∧
      (∀ part, filePart? file part = member? part members) ∧
      ∀ environment, load directory file environment =
        (ofJson (merge (.obj members) (ofVariables environment))).mapError fun k =>
          .config (.unreadable (complaintText shown (ofVariables environment) k)) := by
  rcases file with _ | ⟨path, content⟩
  · exact ⟨"", [], .nil, fun _ => rfl, fun _ => rfl⟩
  · cases content with
    | missing => cases loads
    | directory => exact ⟨shownPath directory path, [], .nil, fun _ => rfl, fun _ => rfl⟩
    | file bytes =>
        cases hread : fileSettings? (.file bytes) with
        | none =>
            simp only [load, hread] at loads
            cases loads
        | some settings =>
            have hsettings := hread
            simp only [fileSettings?, Option.bind_eq_bind, Option.pure_def, Option.bind_eq_some_iff,
              Option.some.injEq] at hsettings
            obtain ⟨text, -, members, hmembers, rfl⟩ := hsettings
            refine ⟨shownPath directory path, members, Yaml.areOrdered_of_settings? hmembers,
              fun part => ?_, fun environment => ?_⟩
            · simp [filePart?, hread, get?]
            · simp only [load, hread]
              rfl

/-- The complaint about a value in a variable names the variable's path. -/
theorem complaintText_variable (t : TextSetting) (shown : String) (v : Json) :
    .config (.unreadable (complaintText shown (.obj [(t.part, .obj [(t.name, v)])])
      ⟨[t.part, t.name], .type v "a string"⟩)) = t.refusal v := by
  simp [complaintText, TextSetting.refusal, reaches, member?]

/-- **One variable over a configuration that loads.** -/
theorem load_of_isOnly {directory : String} {file : Option (String × StateFile.Content)}
    {c : Config} (loads : load directory file [] = .ok c) {t : TextSetting} {value : String}
    {environment : List (String × String)} (only : t.IsOnly value environment) :
    load directory file environment = t.outcome (t.leaves file c) (valueOf value) := by
  obtain ⟨shown, members, ordered, hparts, hload⟩ := exists_members_of_load loads
  have hplain : ofJson (.obj members) = .ok c := by
    rw [hload, ofVariables, List.foldl_nil, merge_nil] at loads
    cases hread : ofJson (.obj members) with
    | error k =>
        rw [hread] at loads
        cases loads
    | ok c' =>
        rw [hread] at loads
        cases loads
        rfl
  have hlisted : (member? t.part members).any isList = writesList file t.part := by
    rw [writesList, hparts]
  rw [hload, only.ofVariables_eq,
    ofJson_merge_setting t ordered hplain hlisted (valueOf_ne_null value)]
  cases valueOf value with
  | str s => rfl
  | _ => exact congrArg Except.error (complaintText_variable t shown _)

theorem TextSetting.put_inj {t : TextSetting} {s s' : String} {c c' : Config}
    (h : t.put s c = t.put s' c') : s = s' := by
  cases t <;> simp_all [put]

/-- **A text in the environment.**  For a file that loads, and a variable for a text of which no
other variable says anything: the configuration is told by what the value of the variable means.
It is the one of the file with the value itself for this text exactly if the value means itself and
the part beside it is not lost; a plain value does mean itself, and a part that the file writes as a
table is not lost.  Any text can be set, by its form in quotes, which has no control characters. -/
theorem text_setting_overridden {directory : String}
    {file : Option (String × StateFile.Content)} {c : Config}
    (loads : load directory file [] = .ok c) (t : TextSetting) {value : String}
    {environment : List (String × String)} (only : t.IsOnly value environment) :
    load directory file environment = t.outcome (t.leaves file c) (valueOf value) ∧
      (load directory file environment = .ok (t.put value c) ↔
        valueOf value = .str value ∧ t.put value (t.leaves file c) = t.put value c) ∧
      (IsPlain value → writesList file t.part = false →
        load directory file environment = .ok (t.put value c)) ∧
      ∀ s, (∀ ch ∈ (inQuotes s).toList, isQuotable ch = true) ∧
        ∀ quoting, t.IsOnly (inQuotes s) quoting →
          load directory file quoting = .ok (t.put s (t.leaves file c)) := by
  have hload := load_of_isOnly loads only
  refine ⟨hload, ?_, fun hplain htable => ?_, fun s => ⟨fun ch => isQuotable_of_mem_inQuotes, ?_⟩⟩
  · rw [hload]
    constructor
    · intro h
      cases hvalue : valueOf value with
      | str s =>
          rw [hvalue] at h
          have hput : t.put s (t.leaves file c) = t.put value c := Except.ok.inj h
          obtain rfl := TextSetting.put_inj hput
          exact ⟨rfl, hput⟩
      | _ =>
          rw [hvalue] at h
          cases h
    · rintro ⟨hvalue, hput⟩
      rw [hvalue]
      exact congrArg Except.ok hput
  · have hleaves : t.leaves file c = c := by simp [TextSetting.leaves, htable]
    rw [hload, valueOf_of_isPlain hplain, hleaves]
    rfl
  · intro quoting honly
    rw [load_of_isOnly loads honly, valueOf_inQuotes]
    rfl

/-! ## A file with a list -/

/-- A file that writes a part as a list. -/
def listFile : Option (String × StateFile.Content) :=
  some ("auth.yaml", .file (Utf8.encode "trust: [a]"))

/-- What the file says. -/
def listConfig : Config := { default with trust := ⟨some "a", none⟩ }

theorem fileSettings?_list : fileSettings? (.file (Utf8.encode "trust: [a]")) =
    some (.obj [("trust", .arr [.str "a"])]) := by
  have htokens : Yaml.Token.ofText? "trust: [a]" =
      some [.openBlockMapping, .key, .scalar "trust" true, .value, .openSequence, .scalar "a" true,
        .closeSequence, .closeBlock] := by
    decide +kernel
  have hsettings : Yaml.settings? "trust: [a]" = some [("trust", .arr [.str "a"])] := by
    rw [Yaml.settings?, Yaml.Node.ofText?, htokens]
    rfl
  simp [fileSettings?, Utf8.decode?_encode, hsettings]

theorem load_listFile : load "" listFile [] = .ok listConfig := by
  simp only [load, listFile, fileSettings?_list, ofVariables, List.foldl_nil, pure_bind, merge_nil]
  rfl

/-- An environment with a variable for a text besides one that writes no setting. -/
def withVariable (t : TextSetting) (value : String) : List (String × String) :=
  [("PATH", "/bin"), (t.variableName, value)]

theorem isOnly_withVariable (t : TextSetting) (value : String) :
    t.IsOnly value (withVariable t value) := by
  have hpath : path? "PATH" = none := by decide
  simp [TextSetting.IsOnly, withVariable, hpath, t.path?_variableName]

/-- A name for the realm is set by itself, a number for it in quotes. -/
theorem text_setting_overridden_realm :
    load "" listFile [] = .ok listConfig ∧
      TextSetting.realm.IsOnly "accelerator" (withVariable .realm "accelerator") ∧
      IsPlain "accelerator" ∧ writesList listFile "idp" = false ∧
      TextSetting.realm.IsOnly (inQuotes "2024") (withVariable .realm (inQuotes "2024")) ∧
      load "" listFile (withVariable .realm "accelerator") =
        .ok (TextSetting.realm.put "accelerator" listConfig) ∧
      load "" listFile (withVariable .realm (inQuotes "2024")) =
        .ok (TextSetting.realm.put "2024" listConfig) := by
  have honly := isOnly_withVariable .realm "accelerator"
  have hquoting := isOnly_withVariable .realm (inQuotes "2024")
  have hplain : IsPlain "accelerator" :=
    ⟨⟨by decide, by decide, by decide⟩, by decide, by decide, 'c', by decide, by decide⟩
  have htable : writesList listFile "idp" = false := by
    simp [writesList, filePart?, listFile, fileSettings?_list, get?, member?]
  obtain ⟨-, -, hname, htext⟩ := text_setting_overridden load_listFile .realm honly
  refine ⟨load_listFile, honly, hplain, htable, hquoting, hname hplain htable, ?_⟩
  have hleaves : TextSetting.realm.leaves listFile listConfig = listConfig := by
    simp [TextSetting.leaves, TextSetting.part, htable]
  exact ((htext "2024").2 _ hquoting).trans (by rw [hleaves])

/-- Not every text is set by itself, and not all else stays: a number for the realm is refused, a
blank in front of it is lost, and the list that has the path of the trust store goes when the proxy
is set. -/
theorem text_setting_not_itself :
    load "" listFile [] = .ok listConfig ∧
      load "" listFile (withVariable .realm "2024") =
        .error (TextSetting.realm.refusal (.num (.int 2024))) ∧
      load "" listFile (withVariable .realm " lab") = .ok (TextSetting.realm.put "lab" listConfig) ∧
      TextSetting.realm.put "lab" listConfig ≠ TextSetting.realm.put " lab" listConfig ∧
      load "" listFile (withVariable .proxy "http://p") =
        .ok { listConfig with trust := ⟨none, some "http://p"⟩ } ∧
      { listConfig with trust := ⟨none, some "http://p"⟩ } ≠
        TextSetting.proxy.put "http://p" listConfig := by
  have hload (t : TextSetting) (value : String) :=
    load_of_isOnly load_listFile (isOnly_withVariable t value)
  have hnumber : valueOf "2024" = .num (.int 2024) := by rfl
  have hblank : valueOf " lab" = .str "lab" := by rfl
  have haddress : valueOf "http://p" = .str "http://p" := by rfl
  have htable : writesList listFile "idp" = false := by
    simp [writesList, filePart?, listFile, fileSettings?_list, get?, member?]
  have hlist : writesList listFile "trust" = true := by
    simp [writesList, filePart?, listFile, fileSettings?_list, get?, member?, isList]
  refine ⟨load_listFile, ?_, ?_, by decide, ?_, by decide⟩
  · rw [hload, hnumber]
    rfl
  · rw [hload, hblank]
    simp [TextSetting.outcome, TextSetting.leaves, TextSetting.part, htable]
  · rw [hload, haddress]
    simp only [TextSetting.outcome, TextSetting.leaves, TextSetting.part, hlist]
    rfl

end SignOn.Config
