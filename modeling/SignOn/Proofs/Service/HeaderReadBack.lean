import SignOn.Proofs.Service.PasswordWrites
import SignOn.Proofs.Text.Base64
import SignOn.Proofs.Text.Cutting
import SignOn.Proofs.Text.Utf8
/-!
# What a server reads in the header of a password login

User name and password are sent as one text with a colon between them, in base64.  A server that
undoes this cuts the text at its first colon, so it reads the pair that is written this way and has
no colon in its name (`readBasic?_basic`).  That is the pair of the login unless the user name has a
colon: then what stands behind the colon is read as a part of the password.

A login asks nothing of the two but that the service confirms them, so every pair can be the
credential of a scope (`exists_login`).  The main statement is `login_header_read`;
`login_header_misread` is a login whose header is also that of somebody else.
-/

namespace SignOn

namespace Credential

/-- The user name and password that a server reads in an `Authorization` header: what follows
`Basic`, read from base64 and UTF-8 and cut at the first colon. -/
def readBasic? (header : String) : Option (String × String) := do
  let encoded ← Text.dropPrefix? "Basic " header
  let bytes ← Base64.decode? encoded
  let text ← Utf8.decode? bytes
  let (name, password) ← Text.cutAt? (· == ':') text.toList
  return (String.ofList name, String.ofList password)

/-- User name and password as they are joined in the header. -/
def joined (username password : String) : String :=
  username ++ ":" ++ password

/-- A server reads the joined text, whatever it holds, and cuts it. -/
theorem readBasic?_eq_cut (username password : String) :
    readBasic? (basic username password).authorizationHeader =
      (Text.cutAt? (· == ':') (joined username password).toList).map
        fun (name, rest) => (String.ofList name, String.ofList rest) := by
  have hprefix : Text.dropPrefix? "Basic " (basic username password).authorizationHeader =
      some (Base64.encode (Utf8.encode (joined username password))) :=
    (Text.dropPrefix?_eq_some_iff _ _ _).mpr rfl
  simp only [readBasic?, hprefix, Base64.decode?_encode, Utf8.decode?_encode, bind, Option.bind]
  cases Text.cutAt? (· == ':') (joined username password).toList <;> rfl

/-- **A server reads** the pair that is joined to the same text and has no colon in its name. -/
theorem readBasic?_basic (username password name rest : String) :
    readBasic? (basic username password).authorizationHeader = some (name, rest) ↔
      joined username password = joined name rest ∧ ':' ∉ name.toList := by
  have hnone : (∀ c ∈ name.toList, (c == ':') = false) ↔ ':' ∉ name.toList := by
    simp only [beq_eq_false_iff_ne]
    exact ⟨fun h hc => h ':' hc rfl, fun h c hc heq => h (heq ▸ hc)⟩
  have htext : joined username password = joined name rest ↔
      (joined username password).toList = name.toList ++ ':' :: rest.toList := by
    rw [← String.toList_inj]
    simp [joined]
  rw [readBasic?_eq_cut, htext, ← hnone, Option.map_eq_some_iff]
  constructor
  · rintro ⟨⟨front, back⟩, hcut, heq⟩
    obtain ⟨rfl, rfl⟩ := Prod.mk.inj heq
    obtain ⟨c, hs, hc, hfront⟩ := Text.cutAt?_eq_some_iff.mp hcut
    obtain rfl : c = ':' := by simpa using hc
    exact ⟨by simpa using hs, by simpa using hfront⟩
  · rintro ⟨hs, hname⟩
    exact ⟨(name.toList, rest.toList),
      Text.cutAt?_eq_some_iff.mpr ⟨':', hs, by simp, hname⟩, by simp⟩

/-- Two pairs have the same header if they are joined to the same text. -/
theorem header_basic_inj (username password name rest : String) :
    (basic username password).authorizationHeader = (basic name rest).authorizationHeader ↔
      joined username password = joined name rest := by
  constructor
  · intro heq
    -- What a server decodes is the joined text.
    have hencoded : Base64.encode (Utf8.encode (joined username password)) =
        Base64.encode (Utf8.encode (joined name rest)) := by
      have hchars := congrArg String.toList heq
      simp only [authorizationHeader, String.toList_append, List.append_cancel_left_eq] at hchars
      exact String.toList_inj.mp hchars
    have hbytes := congrArg Base64.decode? hencoded
    rw [Base64.decode?_encode, Base64.decode?_encode] at hbytes
    exact Utf8.encode_injective (Option.some.inj hbytes)
  · intro heq
    simp only [authorizationHeader]
    exact congrArg (fun text => "Basic " ++ Base64.encode (Utf8.encode text)) heq

/-- Pairs without a colon in their names are told by their headers. -/
theorem header_basic_inj_of_not_mem {username password name rest : String}
    (husername : ':' ∉ username.toList) (hname : ':' ∉ name.toList)
    (h : (basic username password).authorizationHeader = (basic name rest).authorizationHeader) :
    username = name ∧ password = rest := by
  have hread := (readBasic?_basic username password username password).mpr ⟨rfl, husername⟩
  rw [h, (readBasic?_basic name rest name rest).mpr ⟨rfl, hname⟩] at hread
  exact Prod.mk.inj (Option.some.inj hread.symm)

end Credential

namespace PasswordLogin

/-- A login that the service confirms succeeds in a store that has no file to fail. -/
theorem authenticated_of_confirms {loginUrl username password : String} {net : Network}
    (h : Confirms loginUrl username password net) (scope : Scope) {store : Store}
    (hfile : store.file = none) :
    (authenticate scope loginUrl username password store net).1 = .authenticated := by
  have hwrites (n : Nat) : ¬store.Fails n := by
    rintro ⟨f, hf, -⟩
    rw [hfile] at hf
    cases hf
  obtain ⟨hstatus, -⟩ := authenticate_of_confirms h scope store
  rw [hstatus, keep_eq_applyTwo]
  rcases store.applyTwo_outcome (.set ⟨scope, some username, some password⟩)
    (.setAuthMode scope.id .basic) with ⟨hfails, -⟩ | ⟨-, hfails, -⟩ | ⟨-, -, hok, -⟩
  · exact (hwrites 0 hfails).elim
  · exact (hwrites 1 hfails).elim
  · rw [hok]
    rfl

/-- The login endpoint of a service on the host `logbook`. -/
def logbookEndpoint : Url :=
  ⟨"http", true, "", none, some (.name "logbook"), none, .segments ["login"], none, none⟩

/-- A network that is agreeable confirms every user name and password. -/
theorem confirms_agreeable (username password : String) :
    Confirms "http://logbook/login" username password agreeable := by
  have hurl : Url.parse "http://logbook/login" = .ok logbookEndpoint := by decide
  have hplain : logbookEndpoint.withoutUserinfo = logbookEndpoint := rfl
  have hhost : logbookEndpoint.writeHostPort.toList.all Http.isAuthorityChar = true := by decide
  refine ⟨⟨.post, logbookEndpoint, some (body username password)⟩, ⟨200, [], true, false⟩, _, ?_,
    rfl, rfl⟩
  simp only [Http.buildText, hurl, Http.build, hplain]
  exact if_pos ⟨rfl, .inl rfl, hhost⟩

end PasswordLogin

namespace Service

/-- A service that takes user name and password, with nothing stored. -/
def logbook : Service :=
  { alarms .inMemory with
    browser := none
    providers := [.basic ⟨"logbook", "Logbook"⟩ "http://logbook/login"] }

/-- Every user name and password can be those of a login that succeeds. -/
theorem exists_login (username password : String) :
    ∃ (s : Service) (now : Moment) (id : String) (scope : Scope) (loginUrl : String)
      (net : Network), s.provider? id = some (.basic scope loginUrl) ∧
        (s.login now id username password net).1 = .authenticated := by
  have hprovider : logbook.provider? "logbook" =
      some (.basic ⟨"logbook", "Logbook"⟩ "http://logbook/login") := rfl
  refine ⟨logbook, ⟨0, 0⟩, "logbook", _, _, PasswordLogin.agreeable, hprovider, ?_⟩
  rw [(login_basic hprovider _ _ _ _).1]
  exact PasswordLogin.authenticated_of_confirms
    (PasswordLogin.confirms_agreeable username password) _ rfl

/-- **What a server reads after a login with user name and password.**  Every pair can be that of a
login that succeeds, and after each such login the header of the scope's credential is read by a
server as the pair that is joined to the same text and has no colon in its name.  So it is read as
the pair of the login exactly if the user name has no colon; otherwise what follows its first colon
is read as a part of the password.  Two pairs have the same header exactly if they are joined to the
same text, and two without a colon in their names never have if they differ. -/
theorem login_header_read (username password : String) :
    (∃ (s : Service) (now : Moment) (id : String) (scope : Scope) (loginUrl : String)
      (net : Network), s.provider? id = some (.basic scope loginUrl) ∧
        (s.login now id username password net).1 = .authenticated) ∧
    (∀ (s : Service) (now : Moment) (id : String) (scope : Scope) (loginUrl : String)
      (net : Network), s.provider? id = some (.basic scope loginUrl) →
        (s.login now id username password net).1 = .authenticated →
        ∃ c : Credential,
          (s.login now id username password net).2.1.store.contents.credential? id = some c ∧
          (Credential.readBasic? c.authorizationHeader = some (username, password) ↔
            ':' ∉ username.toList) ∧
          ∀ name rest, username = name ++ ":" ++ rest → ':' ∉ name.toList →
            Credential.readBasic? c.authorizationHeader =
              some (name, rest ++ ":" ++ password)) ∧
    (∀ name rest, (Credential.basic username password).authorizationHeader =
        (Credential.basic name rest).authorizationHeader ↔
      username ++ ":" ++ password = name ++ ":" ++ rest) ∧
    ∀ name rest, ':' ∉ username.toList → ':' ∉ name.toList →
      (Credential.basic username password).authorizationHeader =
        (Credential.basic name rest).authorizationHeader →
      username = name ∧ password = rest := by
  refine ⟨exists_login username password, ?_,
    fun name rest => Credential.header_basic_inj username password name rest,
    fun name rest husername hname => Credential.header_basic_inj_of_not_mem husername hname⟩
  intro s now id scope loginUrl net hprovider hlogin
  have hid : (Provider.basic scope loginUrl).scope.id = id := by
    simpa using List.find?_some hprovider
  obtain ⟨hstatus, hstore⟩ := login_basic hprovider now username password net
  rw [hstatus] at hlogin
  obtain ⟨-, hcredential⟩ := PasswordLogin.credential_of_authenticate hlogin
  refine ⟨.basic username password, ?_, ?_, ?_⟩
  · rw [hstore, ← hid]
    exact hcredential
  · rw [Credential.readBasic?_basic]
    exact and_iff_right rfl
  · rintro name rest rfl hname
    refine (Credential.readBasic?_basic _ _ _ _).mpr ⟨?_, hname⟩
    simp [Credential.joined, String.append_assoc]

/-- **A header that is read as another pair.**  The service confirms the user `alice:admin`, and the
header of the scope is that of the user `alice` with another password. -/
theorem login_header_misread :
    let login := logbook.login ⟨0, 0⟩ "logbook" "alice:admin" "secret" PasswordLogin.agreeable
    login.1 = .authenticated ∧
      login.2.1.store.contents.credential? "logbook" = some (.basic "alice:admin" "secret") ∧
      Credential.readBasic? (Credential.basic "alice:admin" "secret").authorizationHeader =
        some ("alice", "admin:secret") ∧
      (Credential.basic "alice:admin" "secret").authorizationHeader =
        (Credential.basic "alice" "admin:secret").authorizationHeader := by
  decide

end Service

end SignOn
