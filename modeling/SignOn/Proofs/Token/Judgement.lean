import Mathlib.Data.List.Basic
import SignOn.Proofs.Issuer.FetchedKey
import SignOn.Proofs.Text.Cutting
import SignOn.Token.Validator
/-!
# When a token is genuine

`Token.Genuine` says what a token must be for its claims to be believed under a key: three segments,
a header that says RS256, a signature that verifies, a payload that states the claims, and an expiry
still to come.  The check of one token against one key accepts exactly the genuine ones, and refuses
all others for a reason that lies in the token (`judged_accept_check`).

The validator chooses which key to try.  `Validator.Course` lists the four courses that a check can
take, each with the key that decided it and with what became of the validator and the network.
-/

namespace SignOn

namespace Token

/-- A segment is the written form of a document. -/
def Holds (segment : String) (node : Json.Node) : Prop :=
  ∃ bytes, Base64.decodeUrl? segment = some bytes ∧ Json.nodeOfBytes? bytes = some node

/-- A header says that the token is signed with RSA over SHA-256. -/
def SaysRs256 (header : String) : Prop :=
  ∃ node, Holds header node ∧ algorithm? node = some "RS256"

/-- A signature can be read, and the key gives `verdict` on it and what it signs: header and payload
as they are written, with the dot between them. -/
def Verdict (key : PublicKey) (header payload signature : String) (verdict : Bool) : Prop :=
  ∃ bytes, Base64.decodeUrl? signature = some bytes ∧
    Rsa.verifies key.modulus key.exponent (Utf8.encode (header ++ "." ++ payload)) bytes = verdict

/-- A payload states claims. -/
def States (payload : String) (claims : Verified) : Prop :=
  ∃ node, Holds payload node ∧ Verified.ofNode? node = some claims ∧ passesClaims node = true

/-- A token is genuine under a key at a time: it is three segments between dots, its header says
RS256, its signature verifies, and its payload states claims that expire later. -/
def Genuine (now : Int) (key : PublicKey) (jwt : String) (claims : Verified) : Prop :=
  ∃ header payload signature, jwt = header ++ "." ++ payload ++ "." ++ signature ∧
    '.' ∉ header.toList ∧ '.' ∉ payload.toList ∧ '.' ∉ signature.toList ∧
    SaysRs256 header ∧ Verdict key header payload signature true ∧ States payload claims ∧
    0 ≤ claims.expiry ∧ now < claims.expiry

/-- A token that can be checked does not verify under a key. -/
def Mismatches (key : PublicKey) (header payload signature : String) : Prop :=
  SaysRs256 header ∧ Verdict key header payload signature false

/-- A key gives one verdict. -/
theorem Verdict.unique {key : PublicKey} {header payload signature : String} {a b : Bool}
    (ha : Verdict key header payload signature a) (hb : Verdict key header payload signature b) :
    a = b := by
  obtain ⟨bytes, hbytes, rfl⟩ := ha
  obtain ⟨bytes', hbytes', rfl⟩ := hb
  rw [hbytes, Option.some.injEq] at hbytes'
  rw [hbytes']

/-- The segments of a token are those between its two dots. -/
theorem segments_eq_iff (jwt header payload signature : String) :
    segments jwt = [header, payload, signature] ↔
      jwt = header ++ "." ++ payload ++ "." ++ signature ∧
        '.' ∉ header.toList ∧ '.' ∉ payload.toList ∧ '.' ∉ signature.toList :=
  Text.splitOn_eq_three '.' jwt header payload signature

/-- What a genuine token is, once its segments are known. -/
theorem genuine_iff {jwt header payload signature : String}
    (hjwt : segments jwt = [header, payload, signature]) (now : Int) (key : PublicKey)
    (claims : Verified) :
    Genuine now key jwt claims ↔
      SaysRs256 header ∧ Verdict key header payload signature true ∧ States payload claims ∧
        0 ≤ claims.expiry ∧ now < claims.expiry := by
  constructor
  · intro hgenuine
    obtain ⟨header', payload', signature', htext, h1, h2, h3, hrest⟩ := hgenuine
    have hjwt' := (segments_eq_iff jwt header' payload' signature').mpr ⟨htext, h1, h2, h3⟩
    rw [hjwt] at hjwt'
    cases hjwt'
    exact hrest
  · intro hrest
    obtain ⟨htext, h1, h2, h3⟩ := (segments_eq_iff jwt header payload signature).mp hjwt
    exact ⟨header, payload, signature, htext, h1, h2, h3, hrest⟩

/-- A genuine token has three segments. -/
theorem Genuine.length_segments {now : Int} {key : PublicKey} {jwt : String} {claims : Verified}
    (h : Genuine now key jwt claims) : (segments jwt).length = 3 := by
  obtain ⟨header, payload, signature, htext, h1, h2, h3, -⟩ := h
  rw [(segments_eq_iff jwt header payload signature).mpr ⟨htext, h1, h2, h3⟩]
  rfl

/-- A segment is read when it holds a document. -/
theorem segmentNode_eq_ok_iff (segment : String) (node : Json.Node) :
    segmentNode segment = .ok node ↔ Holds segment node := by
  unfold segmentNode Holds
  cases Base64.decodeUrl? segment with
  | none => simp
  | some bytes => cases hnode : Json.nodeOfBytes? bytes <;> simp [hnode]

/-- A segment that cannot be read is no matter of the signature. -/
theorem segmentNode_ne_mismatch (segment : String) :
    segmentNode segment ≠ .error .signatureMismatch := by
  unfold segmentNode
  split
  · simp
  · split <;> simp

/-- The library's own look at the expiry passes one that is not before now. -/
theorem checkExpiry_eq_ok_iff (now expiry : Int) :
    checkExpiry now (.ofExpiry expiry) = .ok () ↔ 0 ≤ expiry ∧ now ≤ expiry := by
  unfold Claimed.ofExpiry
  by_cases hneg : expiry < 0
  · rw [if_pos hneg]
    simp only [checkExpiry, reduceCtorEq, false_iff, not_and]
    omega
  · rw [if_neg hneg]
    have hnat : (expiry.toNat : Int) = expiry := Int.toNat_of_nonneg (by omega)
    simp only [checkExpiry, hnat]
    by_cases hlate : expiry < now
    · rw [if_pos hlate]
      simp only [reduceCtorEq, false_iff, not_and]
      omega
    · rw [if_neg hlate]
      simp only [true_iff]
      omega

theorem checkExpiry_ne_mismatch (now : Int) (claimed : Claimed) :
    checkExpiry now claimed ≠ .error .signatureMismatch := by
  unfold checkExpiry
  split
  · split <;> simp
  · simp

/-- Claims are read when the payload states them and their expiry passes. -/
theorem readClaims_eq_ok_iff (now : Int) (payload : String) (claims : Verified) :
    readClaims now payload = .ok claims ↔
      States payload claims ∧ 0 ≤ claims.expiry ∧ now ≤ claims.expiry := by
  unfold readClaims
  rw [bind_eq_ok_iff]
  constructor
  · intro hparts
    obtain ⟨node, hnode, h⟩ := hparts
    split at h
    · cases h
    · next c hc =>
      by_cases hpass : passesClaims node = true
      · simp only [hpass, not_true_eq_false, if_false, bind_eq_ok_iff] at h
        obtain ⟨u, hexpiry, h⟩ := h
        cases h
        exact ⟨⟨node, (segmentNode_eq_ok_iff payload node).mp hnode, hc, hpass⟩,
          (checkExpiry_eq_ok_iff now claims.expiry).mp hexpiry⟩
      · simp only [hpass] at h
        cases h
  · intro hparts
    obtain ⟨⟨node, hnode, hc, hpass⟩, hexpiry⟩ := hparts
    have hcheck := (checkExpiry_eq_ok_iff now claims.expiry).mpr hexpiry
    refine ⟨node, (segmentNode_eq_ok_iff payload node).mpr hnode, ?_⟩
    simp only [hc, hpass, hcheck, not_true_eq_false, if_false]
    rfl

/-- Trouble with the claims is no matter of the signature. -/
theorem readClaims_ne_mismatch (now : Int) (payload : String) :
    readClaims now payload ≠ .error .signatureMismatch := by
  unfold readClaims
  cases hnode : segmentNode payload with
  | error fault =>
      intro h
      cases h
      exact segmentNode_ne_mismatch payload hnode
  | ok node =>
      simp only [bind, Except.bind]
      split
      · simp [throw, throwThe, MonadExceptOf.throw]
      · next c hc =>
        by_cases hpass : passesClaims node = true
        · simp only [hpass, not_true_eq_false, if_false]
          cases hcheck : checkExpiry now (.ofExpiry c.expiry) with
          | error fault =>
              intro h
              cases h
              exact checkExpiry_ne_mismatch now _ hcheck
          | ok u => simp [pure, Except.pure]
        · simp [hpass, throw, throwThe, MonadExceptOf.throw]

/-- A check has three ways to go on: it stops before the signature, at it, or after it. -/
theorem check_cases (now : Int) (key : PublicKey) (header payload signature : String) :
    (¬(SaysRs256 header ∧ ∃ verdict, Verdict key header payload signature verdict) ∧
        ∃ fault, check now key header payload signature = .error fault ∧
          fault ≠ .signatureMismatch) ∨
      (Mismatches key header payload signature ∧
        check now key header payload signature = .error .signatureMismatch) ∨
      (SaysRs256 header ∧ Verdict key header payload signature true ∧
        check now key header payload signature = readClaims now payload) := by
  -- The splits follow the order of the check: header, algorithm, signature.
  cases hnode : segmentNode header with
  | error fault =>
      refine .inl ⟨?_, fault, by simp [check, hnode, bind, Except.bind], ?_⟩
      · intro hparts
        obtain ⟨⟨node, hholds, -⟩, -⟩ := hparts
        rw [(segmentNode_eq_ok_iff header node).mpr hholds] at hnode
        cases hnode
      · intro heq
        subst heq
        exact segmentNode_ne_mismatch header hnode
  | ok node =>
      have hholds := (segmentNode_eq_ok_iff header node).mp hnode
      by_cases halg : algorithm? node = some "RS256"
      · have hrs256 : SaysRs256 header := ⟨node, hholds, halg⟩
        cases hbytes : Base64.decodeUrl? signature with
        | none =>
            refine .inl ⟨?_, .malformedBase64, ?_, by simp⟩
            · intro hparts
              obtain ⟨-, verdict, bytes, hbytes', -⟩ := hparts
              rw [hbytes] at hbytes'
              cases hbytes'
            · simp [check, hnode, halg, hbytes, bind, Except.bind, throw, throwThe,
                MonadExceptOf.throw]
        | some bytes =>
            cases hverifies : Rsa.verifies key.modulus key.exponent
                (Utf8.encode (header ++ "." ++ payload)) bytes with
            | false =>
                refine .inr (.inl ⟨⟨hrs256, bytes, hbytes, hverifies⟩, ?_⟩)
                simp [check, hnode, halg, hbytes, hverifies, bind, Except.bind, throw, throwThe,
                  MonadExceptOf.throw]
            | true =>
                refine .inr (.inr ⟨hrs256, ⟨bytes, hbytes, hverifies⟩, ?_⟩)
                simp [check, hnode, halg, hbytes, hverifies, bind, Except.bind]
      · have hno : ¬SaysRs256 header := by
          intro hparts
          obtain ⟨node', hholds', halg'⟩ := hparts
          rw [← segmentNode_eq_ok_iff, hnode] at hholds'
          cases hholds'
          exact halg halg'
        refine .inl ⟨fun h => hno h.1, ?_⟩
        cases hnamed : algorithm? node with
        | none =>
            refine ⟨.malformedJson, ?_, by simp⟩
            simp [check, hnode, hnamed, bind, Except.bind, throw, throwThe, MonadExceptOf.throw]
        | some alg =>
            have hne : alg ≠ "RS256" := fun h => halg (h ▸ hnamed)
            refine ⟨.invalidAlgorithm, ?_, by simp⟩
            simp [check, hnode, hnamed, hne, bind, Except.bind, throw, throwThe,
              MonadExceptOf.throw]

/-- **The one fault after which the validator fetches the key again** is given exactly when the
signature could be looked at and does not verify. -/
theorem check_eq_mismatch_iff (now : Int) (key : PublicKey) (header payload signature : String) :
    check now key header payload signature = .error .signatureMismatch ↔
      Mismatches key header payload signature := by
  rcases check_cases now key header payload signature with
    ⟨hno, fault, hcheck, hne⟩ | ⟨hmismatches, hcheck⟩ | ⟨-, hverdict, hcheck⟩
  · rw [hcheck, Except.error.injEq]
    exact ⟨fun h => (hne h).elim, fun h => (hno ⟨h.1, false, h.2⟩).elim⟩
  · exact ⟨fun _ => hmismatches, fun _ => hcheck⟩
  · rw [hcheck]
    exact ⟨fun h => (readClaims_ne_mismatch now payload h).elim,
      fun h => nomatch hverdict.unique h.2⟩

/-- A check against one key gives claims when header, signature and payload are in order. -/
theorem check_eq_ok_iff (now : Int) (key : PublicKey) (header payload signature : String)
    (claims : Verified) :
    check now key header payload signature = .ok claims ↔
      SaysRs256 header ∧ Verdict key header payload signature true ∧ States payload claims ∧
        0 ≤ claims.expiry ∧ now ≤ claims.expiry := by
  rcases check_cases now key header payload signature with
    ⟨hno, fault, hcheck, -⟩ | ⟨hmismatches, hcheck⟩ | ⟨hheader, hverdict, hcheck⟩
  · rw [hcheck]
    exact ⟨(nomatch ·), fun h => (hno ⟨h.1, true, h.2.1⟩).elim⟩
  · rw [hcheck]
    exact ⟨(nomatch ·), fun h => nomatch hmismatches.2.unique h.2.1⟩
  · rw [hcheck, readClaims_eq_ok_iff]
    exact ⟨fun h => ⟨hheader, hverdict, h⟩, fun h => h.2.2⟩

end Token

namespace Validator

open Token

/-- A result is the judgement on a token under a key: its claims if it is genuine, and otherwise a
fault of the token. -/
structure Judged (now : Int) (key : PublicKey) (jwt : String) (result : Except Fault Verified) :
    Prop where
  ok_iff (claims : Verified) : result = .ok claims ↔ Genuine now key jwt claims
  fault (cause : Fault) (h : result = .error cause) : ∃ reason, cause = .token reason

/-- A token that expires this very second is refused too. -/
theorem accept_eq_ok_iff (now : Moment) (checked : Except TokenFault Verified)
    (claims : Verified) :
    accept now checked = .ok claims ↔ checked = .ok claims ∧ now.unix < claims.expiry := by
  cases checked with
  | error fault => simp [accept]
  | ok c =>
      simp only [accept, Except.ok.injEq]
      by_cases hlate : c.expiry ≤ now.unix
      · rw [if_pos hlate]
        simp only [reduceCtorEq, false_iff, not_and]
        intro heq
        subst heq
        omega
      · rw [if_neg hlate, Except.ok.injEq]
        constructor
        · intro heq
          subst heq
          exact ⟨rfl, by omega⟩
        · exact And.left

/-- **The check of a token against a key judges it.** -/
theorem judged_accept_check {jwt header payload signature : String}
    (hjwt : segments jwt = [header, payload, signature]) (now : Moment) (key : PublicKey) :
    Judged now.unix key jwt (accept now (check now.unix key header payload signature)) where
  ok_iff := by
    intro claims
    rw [accept_eq_ok_iff, check_eq_ok_iff, genuine_iff hjwt]
    constructor
    · intro hparts
      obtain ⟨⟨hheader, hverdict, hstates, hpositive, -⟩, hlate⟩ := hparts
      exact ⟨hheader, hverdict, hstates, hpositive, hlate⟩
    · intro hparts
      obtain ⟨hheader, hverdict, hstates, hpositive, hlate⟩ := hparts
      exact ⟨⟨hheader, hverdict, hstates, hpositive, Int.le_of_lt hlate⟩, hlate⟩
  fault := by
    intro cause h
    cases hcheck : check now.unix key header payload signature with
    | error reason =>
        rw [hcheck] at h
        cases h
        exact ⟨reason, rfl⟩
    | ok claims =>
        rw [hcheck] at h
        simp only [accept] at h
        split at h
        · cases h
          exact ⟨.expiredAt claims.expiry, rfl⟩
        · cases h

/-- The kept key does not settle the check of a token: it has three segments, and there is no key in
force, or it mismatches under the one there is. -/
def NeedsKey (v : Validator) (now : Moment) (jwt : String) : Prop :=
  ∃ header payload signature, segments jwt = [header, payload, signature] ∧
    ∀ key, v.kept? now = some key → Mismatches key header payload signature

/-- The kept key settles the check of a token. -/
def Settles (v : Validator) (now : Moment) (jwt : String) (key : PublicKey) : Prop :=
  ∃ header payload signature, segments jwt = [header, payload, signature] ∧
    v.kept? now = some key ∧ ¬Mismatches key header payload signature

/-- **The four courses of a check**, with its result and what becomes of the validator and the
network. -/
inductive Course (v : Validator) (now : Moment) (jwt : String) (net : Network) :
    Except Fault Verified × Validator × Network → Prop
  | malformed (hjwt : (segments jwt).length ≠ 3) :
      Course v now jwt net (.error (.token .notThreeSegments), v, net)
  | kept {key : PublicKey} {result : Except Fault Verified} (hsettles : v.Settles now jwt key)
      (hjudged : Judged now.unix key jwt result) : Course v now jwt net (result, v, net)
  | starved {fault : KeyFault} {after : Network} (hneeds : v.NeedsKey now jwt)
      (hnone : ∀ key after, ¬PublicKey.Fetched v.issuer net key after) :
      Course v now jwt net (.error (.key fault), v, after)
  | fetched {key : PublicKey} {after : Network} {result : Except Fault Verified}
      (hneeds : v.NeedsKey now jwt) (hfetched : PublicKey.Fetched v.issuer net key after)
      (hjudged : Judged now.unix key jwt result) :
      Course v now jwt net (result, v.keep now key, after)

/-- When the kept key does not settle a check, the key is fetched. -/
theorem course_validateFresh {v : Validator} {now : Moment} {jwt header payload signature : String}
    (hjwt : segments jwt = [header, payload, signature]) (hneeds : v.NeedsKey now jwt)
    (net : Network) :
    Course v now jwt net (v.validateFresh now header payload signature net) := by
  have hresolve := PublicKey.resolve_eq_ok_iff v.issuer net
  cases hfetch : PublicKey.resolve v.issuer net with
  | mk result after =>
      cases result with
      | error fault =>
          have hnone : ∀ key after, ¬PublicKey.Fetched v.issuer net key after := by
            intro key after' hfetched
            rw [(hresolve after' key).mpr hfetched] at hfetch
            cases hfetch
          have hcall : v.validateFresh now header payload signature net =
              (.error (.key fault), v, after) := by
            unfold validateFresh fetchKey
            rw [hfetch]
          rw [hcall]
          exact .starved hneeds hnone
      | ok key =>
          have hfetched := (hresolve after key).mp hfetch
          have hcall : v.validateFresh now header payload signature net =
              (accept now (check now.unix key header payload signature), v.keep now key,
                after) := by
            unfold validateFresh fetchKey
            rw [hfetch]
          rw [hcall]
          exact .fetched hneeds hfetched (judged_accept_check hjwt now key)

/-- **Every check takes one of the four courses.** -/
theorem course_validate (v : Validator) (now : Moment) (jwt : String) (net : Network) :
    Course v now jwt net (v.validate now jwt net) := by
  unfold validate
  split
  · next header payload signature hjwt =>
    split
    · next hkept =>
      exact course_validateFresh hjwt ⟨header, payload, signature, hjwt, by simp [hkept]⟩ net
    · next key hkept =>
      have hmismatch := check_eq_mismatch_iff now.unix key header payload signature
      split
      · next hcheck =>
        refine course_validateFresh hjwt ⟨header, payload, signature, hjwt, ?_⟩ net
        intro key' hkept'
        rw [hkept, Option.some.injEq] at hkept'
        exact hkept' ▸ hmismatch.mp hcheck
      · next hne =>
        have hno : ¬Mismatches key header payload signature :=
          fun h => hne (hmismatch.mpr h)
        exact .kept ⟨header, payload, signature, hjwt, hkept, hno⟩
          (judged_accept_check hjwt now key)
  · next hjwt =>
    refine .malformed fun hlength => ?_
    obtain ⟨header, payload, signature, h⟩ := List.length_eq_three.mp hlength
    exact hjwt header payload signature h

/-- A key that settles nothing is no key under which the token is genuine. -/
theorem NeedsKey.not_genuine {v : Validator} {now : Moment} {jwt : String} {key : PublicKey}
    (hneeds : v.NeedsKey now jwt) (hkept : v.kept? now = some key) (claims : Verified) :
    ¬Genuine now.unix key jwt claims := by
  obtain ⟨header, payload, signature, hjwt, hmismatch⟩ := hneeds
  intro hgenuine
  have hverdict := ((genuine_iff hjwt now.unix key claims).mp hgenuine).2.1
  cases hverdict.unique (hmismatch key hkept).2

/-- **A check gives claims exactly when the token is genuine under a key that was fetched for it, or
under the kept one.** -/
theorem validate_eq_ok_iff (v : Validator) (now : Moment) (jwt : String) (net : Network)
    (claims : Verified) :
    (v.validate now jwt net).1 = .ok claims ↔ ∃ key, Genuine now.unix key jwt claims ∧
      (PublicKey.Fetched v.issuer net key (v.validate now jwt net).2.2 ∨
        v.kept? now = some key) := by
  -- Each course rules out one of the two origins: nothing was fetched, or the kept key mismatched.
  have hcourse := course_validate v now jwt net
  generalize v.validate now jwt net = outcome at hcourse
  cases hcourse with
  | malformed hjwt =>
      refine ⟨(nomatch ·), ?_⟩
      intro hparts
      obtain ⟨key, hgenuine, -⟩ := hparts
      exact (hjwt hgenuine.length_segments).elim
  | @kept key result hsettles hjudged =>
      obtain ⟨-, -, -, -, hkept, -⟩ := hsettles
      constructor
      · intro h
        exact ⟨key, (hjudged.ok_iff claims).mp h, .inr hkept⟩
      · intro hparts
        obtain ⟨key', hgenuine, hfetched | hkept'⟩ := hparts
        · exact (hfetched.after_ne rfl).elim
        · rw [hkept, Option.some.injEq] at hkept'
          exact (hjudged.ok_iff claims).mpr (hkept' ▸ hgenuine)
  | @starved fault after hneeds hnone =>
      refine ⟨(nomatch ·), ?_⟩
      intro hparts
      obtain ⟨key, hgenuine, hfetched | hkept⟩ := hparts
      · exact (hnone key after hfetched).elim
      · exact (hneeds.not_genuine hkept claims hgenuine).elim
  | @fetched key after result hneeds hfetched hjudged =>
      constructor
      · intro h
        exact ⟨key, (hjudged.ok_iff claims).mp h, .inl hfetched⟩
      · intro hparts
        obtain ⟨key', hgenuine, hfetched' | hkept⟩ := hparts
        · rw [← hfetched.unique hfetched'] at hgenuine
          exact (hjudged.ok_iff claims).mpr hgenuine
        · exact (hneeds.not_genuine hkept claims hgenuine).elim

end Validator

end SignOn
