import Mathlib.Algebra.Group.Nat.Defs
import SignOn.Proofs.Json.ReadBack
import SignOn.Proofs.Requests
import SignOn.Proofs.Text.Base64
import SignOn.Proofs.Text.Utf8
import SignOn.Proofs.Token.KeyHistory
/-!
# Keeping keys changes no answer

A validator keeps its key to spare the provider requests.  With a provider that answers in one way
throughout (`Network.Steady`), nobody can tell from the answers: over any run they are those of a
validator that keeps no key (`answers_congr`).  What carries this is that a kept key is the one that
would be fetched now (`Sound`).

A provider may also change its key.  Then the two validators differ, but in one direction only: what
a fresh key accepts is accepted with the same claims (`validate_of_freshVerdict`), and a fresh key
is searched for once at most (`validate_traffic`).
-/

namespace SignOn

/-- A URL is answered in one way, whatever has arrived before. -/
def Network.Serves (net : Network) (url : String) (answer : Http.Answer) : Prop :=
  ∀ request, Http.buildText .get none url = .ok request →
    ∀ seen, (Network.send request { net with seen }).1 = answer

/-- An answer is a discovery document that names `url` as the address of the key set. -/
def Http.Answer.NamesKeys (answer : Http.Answer) (url : String) : Prop :=
  ∃ reply node, answer = .reply reply ∧ Json.nodeOfBytes? reply.body = some node ∧
    PublicKey.keysUrl? node = some (some url)

/-- The provider of an issuer answers discovery always in the same way, and so it does with the key
set that discovery names.  What else is on the network is left open. -/
structure Network.Steady (net : Network) (issuer : String) (provider : String → Http.Answer) :
    Prop where
  discovery : net.Serves (PublicKey.discoveryUrlOf issuer)
    (provider (PublicKey.discoveryUrlOf issuer))
  keys (url : String) (h : (provider (PublicKey.discoveryUrlOf issuer)).NamesKeys url) :
    net.Serves url (provider url)

/-- The network after a document was asked for. -/
def Network.afterGet (url : String) (net : Network) : Network :=
  (net.fetch (Http.buildText .get none url)).2

namespace Network

/-- A document that answers every request in its written form is delivered from every address. -/
theorem exists_delivers_of_pretty {net : Network} {document : Json} {after : List Arrival → Network}
    (hlegible : document.Legible)
    (hsend : ∀ request, ∃ seen,
      net.send request = (.reply ⟨200, Utf8.encode document.pretty, true, false⟩, after seen))
    {url : String} (hbuild : (Http.buildText .get none url).isOk = true) :
    ∃ seen, net.Delivers url (Json.Node.ofJson document) (after seen) := by
  have hread := Json.nodeOfText?_pretty document hlegible
  cases hrequest : Http.buildText .get none url with
  | error failure =>
      rw [hrequest] at hbuild
      cases hbuild
  | ok request =>
      obtain ⟨seen, hanswer⟩ := hsend request
      refine ⟨seen, request, _, hrequest, hanswer, rfl, rfl, ?_⟩
      unfold Json.nodeOfText? at hread
      simp only [Json.nodeOfBytes?, Utf8.encode, Utf8.decode_encodeChars]
      exact hread

theorem afterGet_eq (url : String) (net : Network) :
    ∃ seen, net.afterGet url = { net with seen } :=
  net.fetch_snd _

/-- What is answered in one way still is after a document was asked for. -/
theorem Serves.afterGet {net : Network} {url : String} {answer : Http.Answer}
    (h : net.Serves url answer) (other : String) : (net.afterGet other).Serves url answer := by
  obtain ⟨seen, hseen⟩ := net.afterGet_eq other
  rw [hseen]
  exact h

end Network

namespace PublicKey

/-- Getting a document asks for it once. -/
theorem getDocument_snd {α : Type} (url : String) (read : Json.Node → Option α) (net : Network) :
    (getDocument url read net).2 = net.afterGet url := by
  unfold getDocument Network.afterGet
  cases hfetch : net.fetch (Http.buildText .get none url) with
  | mk result after => cases result <;> simp only [hfetch]

/-- Where a URL is answered alike, the document is the same, or the same is wrong with it. -/
theorem getDocument_congr {α : Type} {net net' : Network} {url : String} {answer : Http.Answer}
    (h : net.Serves url answer) (h' : net'.Serves url answer) (read : Json.Node → Option α) :
    (getDocument url read net).1 = (getDocument url read net').1 := by
  unfold getDocument Network.fetch
  cases hbuild : Http.buildText .get none url with
  | error failure => rfl
  | ok request =>
      have hanswer : (net.send request).1 = answer := h request hbuild net.seen
      have hanswer' : (net'.send request).1 = answer := h' request hbuild net'.seen
      cases hsend : net.send request with
      | mk got after =>
          cases hsend' : net'.send request with
          | mk got' after' =>
              rw [hsend] at hanswer
              rw [hsend'] at hanswer'
              obtain rfl : got = got' := hanswer.trans hanswer'.symm
              cases got <;> simp only [hsend, hsend']

/-- A discovery document that could be read names the address of the key set. -/
theorem namesKeys_of_getDocument {net after : Network} {address url : String}
    {answer : Http.Answer} (h : net.Serves address answer)
    (hget : getDocument address keysUrl? net = (.ok (some url), after)) :
    answer.NamesKeys url := by
  obtain ⟨node, ⟨request, reply, hbuild, hsend, -, -, hnode⟩, hread⟩ :=
    (getDocument_eq_ok_iff _ _ _ _ _).mp hget
  have hanswer : (net.send request).1 = answer := h request hbuild net.seen
  rw [hsend] at hanswer
  exact ⟨reply, node, hanswer.symm, hnode, hread⟩

/-- What comes of a search for a key once discovery has named an address, or has not. -/
def resolveNamed (issuer : String) (net : Network) :
    Except KeyFault (Option String) → Except KeyFault PublicKey × Network
  | .error fault => (.error fault, net)
  | .ok none => (.error (.noKeysUrl issuer), net)
  | .ok (some url) =>
    if url.isEmpty then (.error (.noKeysUrl issuer), net)
    else
      ((getDocument url KeyEntry.listOfNode? net).1.bind KeyEntry.firstRsa, net.afterGet url)

/-- A search for a key in terms of what its two documents say. -/
theorem resolve_eq (issuer : String) (net : Network) :
    resolve issuer net = resolveNamed issuer (net.afterGet (discoveryUrlOf issuer))
      (getDocument (discoveryUrlOf issuer) keysUrl? net).1 := by
  unfold resolve
  generalize discoveryUrlOf issuer = address
  rw [← getDocument_snd address keysUrl? net]
  cases getDocument address keysUrl? net with
  | mk named discovered =>
      match named with
      | .error fault => rfl
      | .ok none => rfl
      | .ok (some url) =>
          simp only [resolveNamed]
          rw [← getDocument_snd url KeyEntry.listOfNode? discovered]
          cases getDocument url KeyEntry.listOfNode? discovered with
          | mk entries last => cases entries <;> rfl

/-- **The key of a steady provider** is found, or not found, in one way. -/
theorem resolve_congr {net net' : Network} {issuer : String} {provider : String → Http.Answer}
    (h : net.Steady issuer provider) (h' : net'.Steady issuer provider) :
    (resolve issuer net).1 = (resolve issuer net').1 := by
  obtain ⟨hserves, hkeys⟩ := h
  obtain ⟨hserves', hkeys'⟩ := h'
  rw [resolve_eq, resolve_eq]
  generalize discoveryUrlOf issuer = address at hserves hkeys hserves' hkeys' ⊢
  rw [← getDocument_congr hserves hserves' keysUrl?]
  cases hget : getDocument address keysUrl? net with
  | mk named discovered =>
      match named with
      | .error fault => rfl
      | .ok none => rfl
      | .ok (some url) =>
          have hnames := namesKeys_of_getDocument hserves hget
          have hsame := getDocument_congr ((hkeys url hnames).afterGet address)
            ((hkeys' url hnames).afterGet address) KeyEntry.listOfNode?
          simp only [resolveNamed, hsame]
          split <;> rfl

/-- What a search for a key asks for: the discovery document, and the key set if it names one. -/
theorem resolve_traffic (issuer : String) (net : Network) :
    (resolve issuer net).2 = net.afterGet (discoveryUrlOf issuer) ∨
      ∃ url, (resolve issuer net).2 = (net.afterGet (discoveryUrlOf issuer)).afterGet url := by
  rw [resolve_eq]
  generalize net.afterGet (discoveryUrlOf issuer) = discovered
  generalize (getDocument (discoveryUrlOf issuer) keysUrl? net).1 = named
  match named with
  | .error fault => exact .inl rfl
  | .ok none => exact .inl rfl
  | .ok (some url) =>
      simp only [resolveNamed]
      split
      · exact .inl rfl
      · exact .inr ⟨url, rfl⟩

end PublicKey

namespace Validator

open Token

/-- What a key that is fetched at this moment says about a token. -/
def freshVerdict (issuer : String) (now : Moment) (jwt : String) (net : Network) :
    Except Fault Verified :=
  match segments jwt with
  | [header, payload, signature] =>
    match (PublicKey.resolve issuer net).1 with
    | .error fault => .error (.key fault)
    | .ok key => accept now (check now.unix key header payload signature)
  | _ => .error (.token .notThreeSegments)

/-- A fetched key accepts the tokens that are genuine under it. -/
theorem freshVerdict_eq_ok_iff (issuer : String) (now : Moment) (jwt : String) (net : Network)
    (claims : Verified) :
    freshVerdict issuer now jwt net = .ok claims ↔
      ∃ key after, PublicKey.Fetched issuer net key after ∧ Genuine now.unix key jwt claims := by
  simp only [← PublicKey.resolve_eq_ok_iff]
  unfold freshVerdict
  split
  · next hjwt =>
    cases PublicKey.resolve issuer net with
    | mk result after =>
        cases result with
        | error fault => simp
        | ok key => simpa using (judged_accept_check hjwt now key).ok_iff claims
  · next hjwt =>
    refine ⟨(nomatch ·), ?_⟩
    intro hparts
    obtain ⟨key, after, -, hgenuine⟩ := hparts
    obtain ⟨header, payload, signature, h⟩ := List.length_eq_three.mp hgenuine.length_segments
    exact (hjwt header payload signature h).elim

/-- A text that is not of three segments is refused whatever a search would find. -/
theorem freshVerdict_of_not_segments {jwt : String}
    (hjwt : ∀ header payload signature, segments jwt ≠ [header, payload, signature])
    (issuer : String) (now : Moment) (net : Network) :
    freshVerdict issuer now jwt net = .error (.token .notThreeSegments) := by
  unfold freshVerdict
  split
  · next hthree => exact (hjwt _ _ _ hthree).elim
  · rfl

/-- The kept key is the one that a search would find at a steady provider. -/
def Sound (provider : String → Http.Answer) (v : Validator) : Prop :=
  ∀ k, v.kept = some k → ∀ net : Network, net.Steady v.issuer provider →
    (PublicKey.resolve v.issuer net).1 = .ok k.key

/-- A validator that keeps no key yet is sound. -/
theorem sound_new (provider : String → Http.Answer) (issuer : String) (lifetime : Nat)
    (claim : String) : (new issuer lifetime claim).Sound provider := by
  intro k hk
  cases hk

/-- A check with a fetched key gives the verdict of that key. -/
theorem validateFresh_fst {jwt header payload signature : String}
    (hjwt : segments jwt = [header, payload, signature]) (v : Validator) (now : Moment)
    (net : Network) :
    (v.validateFresh now header payload signature net).1 =
      freshVerdict v.issuer now jwt net := by
  unfold validateFresh fetchKey freshVerdict
  rw [hjwt]
  cases PublicKey.resolve v.issuer net with
  | mk result after => cases result <;> rfl

/-- Without a kept key the verdict is the one of a fetched key. -/
theorem validate_of_kept?_eq_none {v : Validator} {now : Moment} (h : v.kept? now = none)
    (jwt : String) (net : Network) :
    (v.validate now jwt net).1 = freshVerdict v.issuer now jwt net := by
  unfold validate
  split
  · next hjwt => simp only [h, validateFresh_fst hjwt]
  · next hjwt => rw [freshVerdict_of_not_segments hjwt]

/-- **A sound validator judges like one with a fetched key.** -/
theorem validate_of_sound {v : Validator} {provider : String → Http.Answer} {net : Network}
    (hsound : v.Sound provider) (hsteady : net.Steady v.issuer provider) (now : Moment)
    (jwt : String) : (v.validate now jwt net).1 = freshVerdict v.issuer now jwt net := by
  cases hkept : v.kept? now with
  | none => exact validate_of_kept?_eq_none hkept jwt net
  | some key =>
      obtain ⟨-, fetchedAt, hstored, -⟩ := (v.kept?_eq_some_iff now key).mp hkept
      have hresolve := hsound _ hstored net hsteady
      unfold validate
      split
      · next hjwt =>
        rw [hkept]
        simp only
        split
        · exact validateFresh_fst hjwt v now net
        · unfold freshVerdict
          rw [hjwt, hresolve]
      · next hjwt => rw [freshVerdict_of_not_segments hjwt]

/-- A key that does not mismatch accepts what another key accepts. -/
theorem check_of_check {now : Int} {key fresh : PublicKey} {header payload signature : String}
    {claims : Verified}
    (hmatch : check now key header payload signature ≠ .error .signatureMismatch)
    (h : check now fresh header payload signature = .ok claims) :
    check now key header payload signature = .ok claims := by
  obtain ⟨hheader, ⟨bytes, hbytes, -⟩, hclaims⟩ := (check_eq_ok_iff _ _ _ _ _ _).mp h
  refine (check_eq_ok_iff _ _ _ _ _ _).mpr ⟨hheader, ⟨bytes, hbytes, ?_⟩, hclaims⟩
  -- The signature can be looked at, so the only way not to verify would be a mismatch.
  by_contra hverifies
  exact hmatch ((check_eq_mismatch_iff _ _ _ _ _).mpr
    ⟨hheader, bytes, hbytes, by simpa using hverifies⟩)

/-- **What a fresh key accepts is accepted**, whatever key was kept. -/
theorem validate_of_freshVerdict {v : Validator} {now : Moment} {jwt : String} {net : Network}
    {claims : Verified} (h : freshVerdict v.issuer now jwt net = .ok claims) :
    (v.validate now jwt net).1 = .ok claims := by
  unfold validate
  split
  · next header payload signature hjwt =>
    split
    · rw [validateFresh_fst hjwt, h]
    · next key hkept =>
      split
      · rw [validateFresh_fst hjwt, h]
      · next hmatch =>
        unfold freshVerdict at h
        rw [hjwt] at h
        simp only at h
        split at h
        · cases h
        · next fresh hfresh =>
          obtain ⟨hcheck, hexpiry⟩ := (accept_eq_ok_iff now _ claims).mp h
          exact (accept_eq_ok_iff now _ claims).mpr ⟨check_of_check hmatch hcheck, hexpiry⟩
  · next hjwt =>
    rw [freshVerdict_of_not_segments hjwt] at h
    cases h

/-- A check with a fetched key searches for it once. -/
theorem validateFresh_snd (v : Validator) (now : Moment) (header payload signature : String)
    (net : Network) :
    (v.validateFresh now header payload signature net).2.2 =
      (PublicKey.resolve v.issuer net).2 := by
  unfold validateFresh fetchKey
  cases PublicKey.resolve v.issuer net with
  | mk result after => cases result <;> rfl

/-- **A check searches for a key once at most**, and only for a token of three segments. -/
theorem validate_traffic (v : Validator) (now : Moment) (jwt : String) (net : Network) :
    (v.validate now jwt net).2.2 = net ∨
      (segments jwt).length = 3 ∧
        (v.validate now jwt net).2.2 = (PublicKey.resolve v.issuer net).2 := by
  unfold validate
  split
  · next hjwt =>
    rw [hjwt]
    split
    · exact .inr ⟨rfl, validateFresh_snd ..⟩
    · split
      · exact .inr ⟨rfl, validateFresh_snd ..⟩
      · exact .inl rfl
  · exact .inl rfl

/-- A header is judged by what its token is. -/
theorem authenticateHeader_congr {v w : Validator} (hclaim : v.usernameClaim = w.usernameClaim)
    {now : Moment} {net : Network}
    (hvalidate : ∀ jwt, (v.validate now jwt net).1 = (w.validate now jwt net).1)
    (header : String) :
    (v.authenticateHeader now header net).1 = (w.authenticateHeader now header net).1 := by
  unfold authenticateHeader
  split
  · rfl
  · next jwt htoken =>
    have hresult := hvalidate jwt
    obtain ⟨kept, hv⟩ := v.settings_validate now jwt net
    obtain ⟨kept', hw⟩ := w.settings_validate now jwt net
    cases hcall : v.validate now jwt net with
    | mk result rest =>
        cases hcall' : w.validate now jwt net with
        | mk result' rest' =>
            rw [hcall] at hresult hv
            rw [hcall'] at hresult hw
            obtain rfl : result = result' := hresult
            have hname : rest.1.usernameClaim = rest'.1.usernameClaim := by
              rw [show rest.1 = _ from hv, show rest'.1 = _ from hw]
              exact hclaim
            cases result with
            | error fault => rfl
            | ok claims =>
                simp only [hname]
                split <;> rfl

/-- The network that an event meets. -/
def Event.network? : Event → Option Network
  | .validate _ net | .isValid _ net | .authenticate _ net => some net
  | .pass _ _ | .forget => none

/-- What the caller of an event is told. -/
inductive Answer
  | none
  | checked (result : Except Fault Verified)
  | valid (yes : Bool)
  | user (result : Except Fault (Option String))

namespace Stage

/-- The answer to an event. -/
def answer (s : Stage) : Event → Answer
  | .validate jwt net => .checked (s.validator.validate s.now jwt net).1
  | .isValid jwt net => .valid (s.validator.isValid s.now jwt net).1
  | .authenticate header net => .user (s.validator.authenticateHeader s.now header net).1
  | .pass _ _ | .forget => .none

/-- The answers to events in turn. -/
def answers (s : Stage) : List Event → List Answer
  | [] => []
  | e :: events => s.answer e :: (s.step e).answers events

/-- A stage trusts an issuer, reads the user from a claim, and keeps no key but the provider's. -/
structure Faithful (issuer claim : String) (provider : String → Http.Answer) (s : Stage) :
    Prop where
  issuer : s.validator.issuer = issuer
  claim : s.validator.usernameClaim = claim
  sound : s.validator.Sound provider

variable {issuer claim : String} {provider : String → Http.Answer}

/-- The traffic of an event begins with the network that the event meets. -/
theorem network?_of_traffic? {s : Stage} {e : Event} {net after : Network}
    (h : s.traffic? e = some (net, after)) : e.network? = some net := by
  cases e <;> simp_all [traffic?, Event.network?]

/-- **One event** leaves a faithful stage faithful when the provider answers as ever. -/
theorem Faithful.step {s : Stage} (hs : s.Faithful issuer claim provider) {e : Event}
    (hsteady : ∀ net, e.network? = some net → net.Steady issuer provider) :
    (s.step e).Faithful issuer claim provider := by
  obtain ⟨kept, hsettings⟩ := s.settings_step e
  refine ⟨by rw [hsettings]; exact hs.issuer, by rw [hsettings]; exact hs.claim, ?_⟩
  rcases s.step_cases e with ⟨-, h⟩ | ⟨-, h⟩ | ⟨key, hfetches, h⟩
  · rw [h]
    intro k hk
    cases hk
  · rw [h]
    exact hs.sound
  · obtain ⟨net, after, htraffic, hfetched⟩ := hfetches
    have hfound := (PublicKey.resolve_eq_ok_iff _ _ _ _).mpr hfetched
    have hnet := hsteady net (network?_of_traffic? htraffic)
    rw [h, keep_eq]
    intro k hk net' hnet'
    by_cases hzero : s.validator.lifetime = 0
    · rw [if_pos hzero] at hk
      exact hs.sound k hk net' hnet'
    · rw [if_neg hzero] at hk
      cases hk
      rw [hs.issuer] at hfound hnet' ⊢
      rw [PublicKey.resolve_congr hnet' hnet, hfound]

/-- Faithful stages give the same answer at the same time. -/
theorem answer_congr {s t : Stage} (hs : s.Faithful issuer claim provider)
    (ht : t.Faithful issuer claim provider) (hnow : s.now = t.now) {e : Event}
    (hsteady : ∀ net, e.network? = some net → net.Steady issuer provider) :
    s.answer e = t.answer e := by
  have hvalidate : ∀ net, e.network? = some net → ∀ jwt,
      (s.validator.validate s.now jwt net).1 = (t.validator.validate t.now jwt net).1 := by
    intro net hnet jwt
    have hnet := hsteady net hnet
    rw [validate_of_sound hs.sound (by rw [hs.issuer]; exact hnet),
      validate_of_sound ht.sound (by rw [ht.issuer]; exact hnet), hs.issuer, ht.issuer, hnow]
  cases e with
  | pass ticks unix => rfl
  | forget => rfl
  | validate jwt net => exact congrArg Answer.checked (hvalidate net rfl jwt)
  | isValid jwt net =>
      refine congrArg Answer.valid (Bool.eq_iff_iff.mpr ?_)
      rw [(s.validator.isValid_eq s.now jwt net).1, (t.validator.isValid_eq t.now jwt net).1,
        hvalidate net rfl jwt]
  | authenticate header net =>
      have hclaim : s.validator.usernameClaim = t.validator.usernameClaim :=
        hs.claim.trans ht.claim.symm
      rw [hnow] at hvalidate
      simp only [answer, hnow]
      exact congrArg Answer.user (authenticateHeader_congr hclaim (hvalidate net rfl) header)

/-- Time passes for all stages alike. -/
theorem now_step_congr {s t : Stage} (hnow : s.now = t.now) (e : Event) :
    (s.step e).now = (t.step e).now := by
  cases e <;> simp [step, hnow]

/-- **Faithful stages give the same answers over any run.** -/
theorem answers_congr (events : List Event) :
    ∀ {s t : Stage}, s.Faithful issuer claim provider → t.Faithful issuer claim provider →
      s.now = t.now →
      (∀ e ∈ events, ∀ net, e.network? = some net → net.Steady issuer provider) →
      s.answers events = t.answers events := by
  induction events with
  | nil =>
      intro s t _ _ _ _
      rfl
  | cons e events ih =>
      intro s t hs ht hnow hsteady
      obtain ⟨hfirst, hrest⟩ := List.forall_mem_cons.mp hsteady
      rw [answers, answers, answer_congr hs ht hnow hfirst,
        ih (hs.step hfirst) (ht.step hfirst) (now_step_congr hnow e) hrest]

/-- **Keeping keys is transparent.**  Over any run at a provider that answers in one way throughout,
a validator gives the answers of one that keeps no key.  Whatever the provider does and whatever key
is kept, a token that a key fetched at this moment accepts is accepted with the same claims; and one
check searches for a key once at most, which is one discovery document and one key set, and not at
all when the token does not have three segments. -/
theorem kept_keys_transparent (issuer : String) (lifetime : Nat) (claim : String) :
    (∀ (provider : String → Http.Answer) (start : Moment) (events : List Event),
      (∀ e ∈ events, ∀ net, e.network? = some net → net.Steady issuer provider) →
        answers ⟨.new issuer lifetime claim, start⟩ events =
          answers ⟨.new issuer 0 claim, start⟩ events) ∧
    (∀ (kept : Option KeptKey) (now : Moment) (jwt : String) (net : Network) (claims : Verified),
      ((Validator.new issuer 0 claim).validate now jwt net).1 = .ok claims →
        (Validator.validate ⟨issuer, lifetime, claim, kept⟩ now jwt net).1 = .ok claims) ∧
    ∀ (kept : Option KeptKey) (now : Moment) (jwt : String) (net : Network),
      let discovered := net.afterGet (PublicKey.discoveryUrlOf issuer)
      let after := (Validator.validate ⟨issuer, lifetime, claim, kept⟩ now jwt net).2.2
      (after = net ∨ after = discovered ∨ ∃ url, after = discovered.afterGet url) ∧
        ((Token.segments jwt).length ≠ 3 → after = net) := by
  refine ⟨?_, ?_, ?_⟩
  · intro provider start events hsteady
    have hcaching := sound_new provider issuer lifetime claim
    have hfetching := sound_new provider issuer 0 claim
    exact answers_congr events ⟨rfl, rfl, hcaching⟩ ⟨rfl, rfl, hfetching⟩ rfl hsteady
  · intro kept now jwt net claims h
    have hnone : (Validator.new issuer 0 claim).kept? now = none := rfl
    rw [validate_of_kept?_eq_none hnone] at h
    exact validate_of_freshVerdict h
  · intro kept now jwt net discovered after
    rcases validate_traffic ⟨issuer, lifetime, claim, kept⟩ now jwt net with
      hsame | ⟨hlength, hresolve⟩
    · exact ⟨.inl hsame, fun _ => hsame⟩
    · refine ⟨.inr ?_, fun hne => (hne hlength).elim⟩
      rw [show after = _ from hresolve]
      exact PublicKey.resolve_traffic issuer net

end Stage

end Validator

/-! A token that is genuine under a key, and a provider that has published this key.  The modulus is
made to fit the signature: it is what the cube of the signature exceeds the padded text by. -/

namespace Token

/-- The part of a token that is signed: it says RS256 and is good until the year 2100. -/
def fittedText : String := "eyJhbGciOiJSUzI1NiJ9" ++ "." ++ "eyJleHAiOjQxMDI0NDQ4MDB9"

/-- The signature as a number. -/
def fittedRoot : Nat := 3 * 2 ^ 681 + 1

/-- The key with the exponent three under which the signature verifies. -/
def fittedKey : PublicKey :=
  ⟨none, Sha256.bigEndian 256
    (fittedRoot ^ 3 - Rsa.number (Rsa.encoded 256 (Utf8.encode fittedText))), [3]⟩

/-- The signed text with its signature. -/
def fittedJwt : String :=
  fittedText ++ "." ++ Base64.encodeUrl (Sha256.bigEndian 256 fittedRoot)

/-- Until it expires, the token is genuine under its key. -/
theorem genuine_fittedJwt (now : Int) (hnow : now < 4102444800) :
    ∃ claims, Genuine now fittedKey fittedJwt claims := by
  have hheader : ((Base64.decodeUrl? "eyJhbGciOiJSUzI1NiJ9").bind Json.nodeOfBytes?).bind
      algorithm? = some "RS256" := by decide +kernel
  have hpayload : (((Base64.decodeUrl? "eyJleHAiOjQxMDI0NDQ4MDB9").bind Json.nodeOfBytes?).bind
      fun node => if passesClaims node = true then Verified.ofNode? node else none).map
        Verified.expiry = some 4102444800 := by decide +kernel
  have hverifies : Rsa.verifies fittedKey.modulus fittedKey.exponent (Utf8.encode fittedText)
      (Sha256.bigEndian 256 fittedRoot) = true := by decide +kernel
  simp only [Option.map_eq_some_iff, Option.bind_eq_some_iff, Option.ite_none_right_eq_some]
    at hheader hpayload
  obtain ⟨node, ⟨bytes, hbytes, hnode⟩, halgorithm⟩ := hheader
  obtain ⟨claims, ⟨node', ⟨bytes', hbytes', hnode'⟩, hpasses, hclaims⟩, hexpiry⟩ := hpayload
  refine ⟨claims, "eyJhbGciOiJSUzI1NiJ9", "eyJleHAiOjQxMDI0NDQ4MDB9", _, rfl, by decide +kernel,
    by decide +kernel, Base64.not_mem_encodeUrl (by decide) _, ⟨node, ⟨bytes, hbytes, hnode⟩,
      halgorithm⟩, ⟨_, Base64.decodeUrl?_encodeUrl _, hverifies⟩,
    ⟨node', ⟨bytes', hbytes', hnode'⟩, hclaims, hpasses⟩, ?_, ?_⟩ <;> omega

/-- A document that is discovery and key set in one: it names an address and has the key. -/
def fittedDocument : Json :=
  .obj [("jwks_uri", .str "http://idp/keys"),
    ("keys", .arr [.obj [("kty", .str "RSA"), ("n", .str (Base64.encodeUrl fittedKey.modulus)),
      ("e", .str "Aw")]])]

/-- The reply with that document. -/
def fittedReply : Http.Reply :=
  ⟨200, Utf8.encode fittedDocument.pretty, true, false⟩

/-- A network in which that reply answers everything. -/
def fittedNetwork (seen : List Arrival) : Network :=
  ⟨none, fun _ _ => .reply fittedReply, fun _ _ => .reply fittedReply, fun _ _ => [],
    fun _ _ => .fails "", seen⟩

/-- The network answers everything in one way. -/
theorem send_fittedNetwork (request : Http.Request) (seen : List Arrival) :
    ∃ seen', (fittedNetwork seen).send request = (.reply fittedReply, fittedNetwork seen') := by
  unfold Network.send fittedNetwork
  simp only
  split <;> exact ⟨_, rfl⟩

/-- A provider that answers in one way is steady. -/
theorem steady_fittedNetwork (issuer : String) (seen : List Arrival) :
    (fittedNetwork seen).Steady issuer fun _ => .reply fittedReply := by
  have hserves : ∀ url, (fittedNetwork seen).Serves url (.reply fittedReply) := by
    intro url request _ seen'
    obtain ⟨seen'', hsend⟩ := send_fittedNetwork request seen'
    exact congrArg Prod.fst hsend
  exact ⟨hserves _, fun url _ => hserves url⟩

/-- The network delivers the document from wherever it is asked for. -/
theorem delivers_fittedNetwork (url : String)
    (hbuild : (Http.buildText .get none url).isOk = true) (seen : List Arrival) :
    ∃ seen', (fittedNetwork seen).Delivers url (Json.Node.ofJson fittedDocument)
      (fittedNetwork seen') := by
  have hlegible : fittedDocument.Legible := by
    simp [fittedDocument, Json.Legible, Json.LegibleMembers, Json.LegibleItems]
  exact Network.exists_delivers_of_pretty hlegible (fun request => send_fittedNetwork request seen)
    hbuild

/-- The entry of the document holds the key. -/
theorem holds_fittedKey :
    KeyEntry.Holds ⟨"RSA", none, some (Base64.encodeUrl fittedKey.modulus), some "Aw"⟩
      fittedKey := by
  have hdrop : Text.dropEnd '=' (Base64.encodeUrl fittedKey.modulus) =
      Base64.encodeUrl fittedKey.modulus :=
    Text.dropEnd_of_not_mem (Base64.not_mem_encodeUrl (by decide) _)
  refine ⟨rfl, ⟨_, rfl, ?_, by decide +kernel⟩, ⟨_, rfl, by decide +kernel, by decide⟩⟩
  rw [hdrop]
  exact Base64.decodeUrl?_encodeUrl _

/-- The key that is fetched from that network. -/
theorem fetched_fittedKey :
    ∃ seen, PublicKey.Fetched "http://idp" (fittedNetwork []) fittedKey (fittedNetwork seen) := by
  obtain ⟨seen, hdiscovery⟩ := delivers_fittedNetwork (PublicKey.discoveryUrlOf "http://idp")
    (by decide +kernel) []
  obtain ⟨seen', hkeys⟩ := delivers_fittedNetwork "http://idp/keys" (by decide +kernel) seen
  have hnamed : PublicKey.keysUrl? (Json.Node.ofJson fittedDocument) =
      some (some "http://idp/keys") := rfl
  have hentries : KeyEntry.listOfNode? (Json.Node.ofJson fittedDocument) =
      some [⟨"RSA", none, some (Base64.encodeUrl fittedKey.modulus), some "Aw"⟩] := rfl
  exact ⟨seen', _, "http://idp/keys", _, _, _, hdiscovery, hnamed, by decide, hkeys, hentries,
    [], _, [], rfl, by simp, rfl, holds_fittedKey⟩

end Token

namespace Validator

open Token

/-- The published key accepts the token until it expires. -/
theorem freshVerdict_fittedJwt {now : Moment} (hnow : now.unix < 4102444800) :
    ∃ claims, freshVerdict "http://idp" now fittedJwt (fittedNetwork []) = .ok claims := by
  obtain ⟨claims, hgenuine⟩ := genuine_fittedJwt now.unix hnow
  obtain ⟨seen, hfetched⟩ := fetched_fittedKey
  have hiff := freshVerdict_eq_ok_iff "http://idp" now fittedJwt (fittedNetwork []) claims
  exact ⟨claims, hiff.mpr ⟨fittedKey, _, hfetched, hgenuine⟩⟩

/-- A validator that keeps its key and one that keeps none answer alike in a run, and a token that
is genuine under the published key is accepted in spite of a wrong key that was kept. -/
theorem kept_keys_transparent_fitted :
    let events := [Event.validate fittedJwt (fittedNetwork []), .pass 5 0, .forget,
      .isValid fittedJwt (fittedNetwork [])]
    Stage.answers ⟨.new "http://idp" 60 "sub", ⟨0, 0⟩⟩ events =
      Stage.answers ⟨.new "http://idp" 0 "sub", ⟨0, 0⟩⟩ events ∧
    ∃ claims, (Validator.validate ⟨"http://idp", 60, "sub", some ⟨⟨none, [1], [1]⟩, 0⟩⟩ ⟨0, 0⟩
      fittedJwt (fittedNetwork [])).1 = .ok claims := by
  obtain ⟨halike, haccepted, -⟩ := Stage.kept_keys_transparent "http://idp" 60 "sub"
  obtain ⟨claims, hverdict⟩ := @freshVerdict_fittedJwt ⟨0, 0⟩ (by decide)
  refine ⟨halike (fun _ => .reply fittedReply) ⟨0, 0⟩ _ ?_, claims, ?_⟩
  · intro e he net hnet
    simp only [List.mem_cons, List.not_mem_nil, or_false] at he
    rcases he with rfl | rfl | rfl | rfl <;> cases hnet <;> exact steady_fittedNetwork _ []
  · refine haccepted (some ⟨⟨none, [1], [1]⟩, 0⟩) ⟨0, 0⟩ fittedJwt (fittedNetwork []) claims ?_
    have hnone : (Validator.new "http://idp" 0 "sub").kept? ⟨0, 0⟩ = none := rfl
    exact (validate_of_kept?_eq_none hnone _ _).trans hverdict

end Validator

end SignOn
