import SignOn.Pinning.Proxy
import SignOn.Proofs.Text.Cutting
/-!
# The exceptions from a proxy

The environment names a proxy and lists hosts that are reached without it.  What a list says can be
read off its text: its entries stand between commas (`Listed`), and an entry excepts the host that
it is, the hosts within the domain that it writes, or all hosts (`Excepts`).

Every entry but `*` is read up to its first colon (`covers_iff`).  That is what the entry says if it
writes a domain, with dots before it and a port behind it or without them (`IsTidy`): then the proxy
is passed by exactly where the entry says so (`covers_iff_excepts`).  Any other entry counts for the
name before its first colon, which it does not say (`exists_leadsTo_not_excepts`).  An IPv6 address
has a colon inside, so it is not excepted where it is listed, and where nothing stands before the
colon all hosts that end with a dot are excepted (`listed_address_not_excepted`).
-/

namespace SignOn

namespace Url.Host

/-- There are no more pieces of an address than between the colons, but for a dotted end. -/
theorem length_ipv6Pieces? {parts : List (List Char)} {pieces : List Nat}
    (h : ipv6Pieces? parts = some pieces) : pieces.length ≤ parts.length + 1 := by
  induction parts using ipv6Pieces?.induct generalizing pieces with
  | case1 =>
      obtain rfl : [] = pieces := by simpa [ipv6Pieces?] using h
      simp
  | case2 last hdot =>
      rw [ipv6Pieces?, if_pos hdot] at h
      unfold ipv6Dotted? at h
      obtain ⟨bytes, -, hbytes⟩ := Option.bind_eq_some_iff.mp h
      split at hbytes
      · obtain rfl := Option.some.inj hbytes
        simp
      · cases hbytes
  | case3 last hdot =>
      rw [ipv6Pieces?, if_neg hdot] at h
      obtain ⟨n, -, rfl⟩ := Option.map_eq_some_iff.mp h
      simp
  | case4 piece rest hne ih =>
      rw [ipv6Pieces?] at h
      · obtain ⟨n, -, h⟩ := Option.bind_eq_some_iff.mp h
        obtain ⟨ns, hns, h⟩ := Option.bind_eq_some_iff.mp h
        obtain rfl := Option.some.inj h
        have := ih hns
        simp only [List.length_cons]
        omega
      · exact hne

/-- An IPv6 address has two colons or more. -/
theorem two_le_count_of_ipv6? {s : List Char} (h : (ipv6? s).isSome) : 2 ≤ s.count ':' := by
  obtain ⟨pieces, hpieces⟩ := Option.isSome_iff_exists.mp h
  unfold ipv6? at hpieces
  split at hpieces
  · -- Without `::` there are eight pieces.
    obtain ⟨side, hside, height⟩ := Option.bind_eq_some_iff.mp hpieces
    have hlength : side.length = 8 := by
      by_contra hne
      rw [if_neg hne] at height
      cases height
    unfold ipv6Side? at hside
    split at hside
    · obtain rfl := Option.some.inj hside
      cases hlength
    · have hcount := length_ipv6Pieces? hside
      rw [Text.length_splitWhere] at hcount
      rw [List.count]
      omega
  · next before after hcut =>
      rw [Text.cutAtText?_eq_some hcut]
      simp only [List.count_append]
      have : [':', ':'].count ':' = 2 := by decide
      omega

end Url.Host

namespace Proxy

/-- A host as it is looked up: a name or an IPv4 address, which have no colon, or an IPv6 address
without brackets. -/
def IsTarget (host : String) : Prop :=
  ':' ∉ host.toList ∨ (Url.Host.ipv6? host.toList).isSome

/-- A list has an entry: between commas, blanks around it and letter case apart. -/
def Listed (list entry : String) : Prop :=
  ∃ before left word right after,
    list.toList = before ++ (left ++ (word ++ right) ++ after) ∧
      (∀ c ∈ before.getLast?, c = ',') ∧ (∀ c ∈ after.head?, c = ',') ∧
      (∀ c ∈ left, Text.isBlank c = true) ∧ (∀ c ∈ right, Text.isBlank c = true) ∧
      ',' ∉ word ∧ Text.IsTrimmed Text.isBlank word ∧
      entry = Text.lowerAscii (String.ofList word)

/-- What an entry is made of: dots, a domain, and what follows with the first colon. -/
structure Parts (entry : String) (dots : List Char) (domain : String) (rest : List Char) :
    Prop where
  text : entry.toList = dots ++ (domain.toList ++ rest)
  dots : ∀ c ∈ dots, c = '.'
  start : ∀ c ∈ domain.toList.head?, c ≠ '.'
  plain : ':' ∉ domain.toList
  colon : ∀ c ∈ rest.head?, c = ':'

/-- An entry writes a domain: with dots before it and a port behind it or without them. -/
def Writes (entry domain : String) : Prop :=
  domain ≠ "" ∧ ∃ dots rest, Parts entry dots domain rest ∧ ∀ c ∈ rest.tail, c.isDigit = true

/-- A host is the domain or a dot separates the two. -/
def IsWithin (host domain : String) : Prop :=
  host = domain ∨ ∃ sub, host = sub ++ ("." ++ domain)

/-- **What an entry says**: it excepts all hosts, the host that it is, or those within the domain
that it writes. -/
def Excepts (entry host : String) : Prop :=
  entry = "*" ∨ entry = host ∨ ∃ domain, Writes entry domain ∧ IsWithin host domain

/-- An entry that is `*` or writes a domain. -/
def IsTidy (entry : String) : Prop :=
  entry = "*" ∨ ∃ domain, Writes entry domain

/-- A host is within what stands before the first colon of an entry. -/
def LeadsTo (entry host : String) : Prop :=
  ∃ dots domain rest, Parts entry dots domain rest ∧ IsWithin host domain

/-- A character in lower case is a colon only if it is one. -/
theorem toLower_eq_colon (c : Char) : c.toLower = ':' ↔ c = ':' := by
  unfold Char.toLower
  split
  · next hupper =>
      have hne : c ≠ ':' := by
        rintro rfl
        exact absurd hupper (by decide)
      refine ⟨fun heq => ?_, fun heq => (hne heq).elim⟩
      have hval : c.val + ('a'.val - 'A'.val) = ':'.val := congrArg Char.val heq
      have hle : 65 ≤ c.toNat := UInt32.le_iff_toNat_le.mp hupper.1
      have hle' : c.toNat ≤ 90 := UInt32.le_iff_toNat_le.mp hupper.2
      rw [← UInt32.toNat_inj, UInt32.toNat_add] at hval
      simp at hval
      omega
  · rfl

/-- Letter case makes no colons. -/
theorem count_lowerAscii (s : String) :
    (Text.lowerAscii s).toList.count ':' = s.toList.count ':' := by
  simp only [Text.lowerAscii, String.toList_ofList, List.count, List.countP_map]
  congr 1
  funext c
  simp [toLower_eq_colon]

/-- A host that is looked up is no name with a port. -/
theorem IsTarget.count_ne_one {host : String} (h : IsTarget host) :
    host.toList.count ':' ≠ 1 := by
  rcases h with hnone | hipv6
  · rw [List.count_eq_zero.mpr hnone]
    decide
  · have := Url.Host.two_le_count_of_ipv6? hipv6
    omega

/-- **The entries of a list** are those that it has. -/
theorem mem_exceptions_iff {list entry : String} :
    entry ∈ exceptions list ↔ Listed list entry := by
  have hcomma : Text.isBlank ',' = false := by decide
  have hempty (word : List Char) :
      (Text.lowerAscii (String.ofList word)).isEmpty = true ↔ word = [] := by
    rw [String.isEmpty_iff, ← String.toList_inj]
    simp [Text.lowerAscii]
  unfold exceptions Text.splitOn
  simp only [List.mem_filter, List.mem_map, decide_eq_true_eq]
  constructor
  · rintro ⟨⟨_, ⟨piece, hpiece, rfl⟩, rfl⟩, hwritten⟩
    obtain ⟨before, after, hlist, hnone, hbefore, hafter⟩ := Text.mem_splitWhere_iff.mp hpiece
    rw [Text.trim, String.toList_ofList] at hwritten ⊢
    rw [hempty] at hwritten
    obtain ⟨left, right, hpiece, hleft, hright, htrimmed⟩ :=
      Text.trimWhile_eq_iff.mp ⟨rfl, hwritten⟩
    generalize Text.trimWhile Text.isBlank piece = word at hpiece htrimmed
    subst hpiece
    refine ⟨before, left, word, right, after, hlist, by simpa using hbefore,
      by simpa using hafter, hleft, hright, fun hmem => ?_, htrimmed, rfl⟩
    simpa using hnone ',' (by simp [hmem])
  · rintro ⟨before, left, word, right, after, hlist, hbefore, hafter, hleft, hright, hnone,
      htrimmed, rfl⟩
    have hblank (blanks : List Char) (h : ∀ c ∈ blanks, Text.isBlank c = true) : ',' ∉ blanks :=
      fun hmem => by simpa [hcomma] using h ',' hmem
    have hpiece : left ++ (word ++ right) ∈ Text.splitWhere (· == ',') list.toList := by
      refine Text.mem_splitWhere_iff.mpr ⟨before, after, hlist, fun c hc => ?_,
        by simpa using hbefore, by simpa using hafter⟩
      rw [beq_eq_false_iff_ne]
      rintro rfl
      simp [hnone, hblank left hleft, hblank right hright] at hc
    have htrim := (Text.trimWhile_eq_iff.mpr ⟨left, right, rfl, hleft, hright, htrimmed⟩).1
    refine ⟨⟨_, ⟨_, hpiece, rfl⟩, by rw [Text.trim, String.toList_ofList, htrim]⟩, ?_⟩
    rw [hempty]
    exact htrimmed.nonempty

/-- Every entry is made of such parts. -/
theorem exists_parts (entry : String) : ∃ dots domain rest, Parts entry dots domain rest := by
  have hname : entry.toList.takeWhile (· ≠ ':') ++ entry.toList.dropWhile (· ≠ ':') =
      entry.toList := List.takeWhile_append_dropWhile
  have hplain : ∀ c ∈ entry.toList.takeWhile (· ≠ ':'), c ≠ ':' :=
    fun c hc => by simpa using List.mem_takeWhile_imp hc
  have hcolon := Text.head?_dropWhile (· ≠ ':') entry.toList
  generalize entry.toList.takeWhile (· ≠ ':') = name at hname hplain
  generalize entry.toList.dropWhile (· ≠ ':') = rest at hname hcolon
  have hdomain : name.takeWhile (· == '.') ++ name.dropWhile (· == '.') = name :=
    List.takeWhile_append_dropWhile
  have hdots : ∀ c ∈ name.takeWhile (· == '.'), c = '.' :=
    fun c hc => by simpa using List.mem_takeWhile_imp hc
  have hstart := Text.head?_dropWhile (· == '.') name
  refine ⟨_, String.ofList (name.dropWhile (· == '.')), rest, ?_, hdots, by simpa using hstart,
    fun hmem => ?_, by simpa using hcolon⟩
  · rw [String.toList_ofList, ← List.append_assoc, hdomain, hname]
  · rw [String.toList_ofList] at hmem
    exact hplain ':' (hdomain ▸ List.mem_append_right _ hmem) rfl

section

variable {host entry domain : String} {dots rest : List Char}

/-- The code takes the domain of an entry for what the entry writes, whatever follows it. -/
theorem covers_iff (h : Parts entry dots domain rest) :
    covers host entry = true ↔ entry = "*" ∨ IsWithin host domain := by
  have hname : (Text.splitOn ':' entry).headD "" = String.ofList (dots ++ domain.toList) := by
    have hplain : ∀ c ∈ dots ++ domain.toList, (!(c == ':')) = true := by
      intro c hc
      rcases List.mem_append.mp hc with hc | hc
      · simp [h.dots c hc]
      · simpa using fun heq : c = ':' => h.plain (heq ▸ hc)
    have htake : entry.toList.takeWhile (fun c => !(c == ':')) = dots ++ domain.toList := by
      rw [h.text, ← List.append_assoc, List.takeWhile_append_of_pos hplain]
      cases hrest : rest with
      | nil => simp
      | cons c rest => simp [h.colon c (by simp [hrest])]
    rw [Text.splitOn, List.headD_eq_head?_getD, List.head?_map, Text.head?_splitWhere, htake]
    rfl
  have hdomain : Text.dropStart '.' (String.ofList (dots ++ domain.toList)) = domain := by
    rw [Text.dropStart, String.toList_ofList, Text.dropWhile_append (by simpa using h.dots)
      (by simpa using h.start), String.ofList_toList]
  simp only [covers, hname, hdomain, Bool.or_eq_true, beq_iff_eq, Text.endsWith_iff, IsWithin]

/-- The star covers every host. -/
theorem covers_star (host : String) : covers host "*" = true := by
  simp [covers]

/-- A domain alone is tidy. -/
theorem isTidy_of_plain (hne : domain ≠ "") (hstart : ∀ c ∈ domain.toList.head?, c ≠ '.')
    (hplain : ':' ∉ domain.toList) : IsTidy domain :=
  .inr ⟨domain, hne, [], [], ⟨by simp, by simp, hstart, hplain, by simp⟩, by simp⟩

/-- **A tidy entry** covers what it excepts. -/
theorem covers_iff_excepts (htidy : IsTidy entry) (hhost : host.toList.count ':' ≠ 1) :
    covers host entry = true ↔ Excepts entry host := by
  constructor
  · intro hcovers
    rcases htidy with hall | ⟨domain, hwrites⟩
    · exact .inl hall
    · have ⟨_, dots, rest, hparts, _⟩ := hwrites
      rcases (covers_iff hparts).mp hcovers with hall | hwithin
      · exact .inl hall
      · exact .inr (.inr ⟨domain, hwrites, hwithin⟩)
  · rintro (rfl | rfl | ⟨domain, ⟨-, dots, rest, hparts, -⟩, hwithin⟩)
    · exact covers_star host
    · rcases htidy with rfl | ⟨domain, -, dots, rest, hparts, hport⟩
      · exact covers_star _
      · refine (covers_iff hparts).mpr (.inr ?_)
        -- With a port behind it the entry would have a single colon.
        have hrest : rest = [] := by
          cases rest with
          | nil => rfl
          | cons c port =>
              obtain rfl : c = ':' := hparts.colon c rfl
              have hport : ':' ∉ port := fun hmem => by simpa using hport ':' hmem
              have hdots : ':' ∉ dots := fun hmem => by simpa using hparts.dots ':' hmem
              rw [hparts.text] at hhost
              simp [List.count_append, List.count_eq_zero.mpr, hport, hdots, hparts.plain] at hhost
        subst hrest
        rcases List.eq_nil_or_concat dots with rfl | ⟨front, c, rfl⟩
        · refine .inl (String.toList_inj.mp ?_)
          simpa using hparts.text
        · obtain rfl : c = '.' := hparts.dots c (by simp)
          refine .inr ⟨String.ofList front, String.toList_inj.mp ?_⟩
          rw [hparts.text]
          simp
    · exact (covers_iff hparts).mpr (.inr hwithin)

/-- An entry that is not tidy covers the hosts within what stands before its first colon. -/
theorem covers_iff_leadsTo (h : ¬IsTidy entry) : covers host entry = true ↔ LeadsTo entry host := by
  have hone : entry ≠ "*" := fun hall => h (.inl hall)
  constructor
  · intro hcovers
    obtain ⟨dots, domain, rest, hparts⟩ := exists_parts entry
    rcases (covers_iff hparts).mp hcovers with hall | hwithin
    · exact (hone hall).elim
    · exact ⟨dots, domain, rest, hparts, hwithin⟩
  · rintro ⟨dots, domain, rest, hparts, hwithin⟩
    exact (covers_iff hparts).mpr (.inr hwithin)

/-- **An entry that is not tidy** leads to a host that it does not except: what stands before its
colon, or where that is nothing a host that ends with a dot. -/
theorem exists_leadsTo_not_excepts (h : ¬IsTidy entry) :
    ∃ host, IsTarget host ∧ LeadsTo entry host ∧ ¬Excepts entry host := by
  obtain ⟨dots, domain, rest, hparts⟩ := exists_parts entry
  have hnot {host : String} (hhost : IsTidy host) : ¬Excepts entry host := by
    rintro (hall | rfl | ⟨domain, hwrites, -⟩)
    · exact h (.inl hall)
    · exact h hhost
    · exact h (.inr ⟨domain, hwrites⟩)
  by_cases hdomain : domain = ""
  · subst hdomain
    have hdotted : IsTidy "example." := isTidy_of_plain (by decide) (by simp) (by decide)
    exact ⟨"example.", .inl (by decide), ⟨dots, "", rest, hparts, .inr ⟨"example", rfl⟩⟩,
      hnot hdotted⟩
  · exact ⟨domain, .inl hparts.plain, ⟨dots, domain, rest, hparts, .inl rfl⟩,
      hnot (isTidy_of_plain hdomain hparts.start hparts.plain)⟩

end

/-- A blank text is no proxy. -/
theorem parse?_of_blank {value : String} (h : isWritten value = false) : parse? value = none := by
  have htrim : Text.trim value = "" := by simpa [isWritten, String.isEmpty_iff] using h
  have hnone : Url.parse "http://" = .error .emptyHost := by decide +kernel
  unfold parse?
  rw [htrim]
  simp [hnone, Text.containsText, Text.cutAtText?, Text.afterPrefix?, Except.toOption]

/-- Without a configured proxy that of the environment is used, where nothing excepts the host. -/
theorem resolve_eq {configured : Option String} (env : String → Option String) (target : String)
    (h : configured.filter isWritten = none) :
    resolve configured env target =
      if isLoopback target = true ∨ bypasses (exceptionList env) target = true then none
      else (variableNames.findSome? env).bind parse? := by
  unfold resolve ofEnvironment?
  rw [h]
  cases hvalue : variableNames.findSome? env with
  | none => simp
  | some value =>
      by_cases hwritten : isWritten value = true
      · simp [Option.filter, hwritten]
      · have hblank := parse?_of_blank (eq_false_of_ne_true hwritten)
        simp [Option.filter, hwritten, hblank]

/-- A list covers a host by one of its entries. -/
theorem bypasses_iff {list host : String} : bypasses list host = true ↔
    ∃ entry, Listed list entry ∧ covers (Text.lowerAscii host) entry = true := by
  simp only [bypasses, List.any_eq_true, mem_exceptions_iff]

/-- **The proxy is passed by where the list says so**, as far as its entries are tidy.  Let no proxy
be configured.  For every host that is looked up and every list: if the host is this machine, or a
tidy entry excepts it, no proxy is used, and none where an entry that is not tidy leads to the host.
In every other case it is the one that the environment names.  And there is no entry that is not
tidy and leads only to hosts that it excepts. -/
theorem resolve_excepts_listed (configured : Option String) (env : String → Option String)
    (target : String) (hconfigured : configured.filter isWritten = none)
    (htarget : IsTarget target) :
    (isLoopback target = true → resolve configured env target = none) ∧
    (∀ entry, Listed (exceptionList env) entry → IsTidy entry →
      Excepts entry (Text.lowerAscii target) → resolve configured env target = none) ∧
    (∀ entry, Listed (exceptionList env) entry → ¬IsTidy entry →
      LeadsTo entry (Text.lowerAscii target) → resolve configured env target = none) ∧
    (isLoopback target = false →
      (∀ entry, Listed (exceptionList env) entry → IsTidy entry →
        ¬Excepts entry (Text.lowerAscii target)) →
      (∀ entry, Listed (exceptionList env) entry → ¬IsTidy entry →
        ¬LeadsTo entry (Text.lowerAscii target)) →
      resolve configured env target = (variableNames.findSome? env).bind parse?) ∧
    ∀ entry, ¬IsTidy entry → ∃ host, IsTarget host ∧ LeadsTo entry host ∧ ¬Excepts entry host := by
  have htidy {entry : String} (h : IsTidy entry) :
      covers (Text.lowerAscii target) entry = true ↔ Excepts entry (Text.lowerAscii target) := by
    refine covers_iff_excepts h ?_
    rw [count_lowerAscii]
    exact htarget.count_ne_one
  have hpassed {entry : String} (hlisted : Listed (exceptionList env) entry)
      (hcovers : covers (Text.lowerAscii target) entry = true) :
      resolve configured env target = none := by
    have hbypasses := bypasses_iff.mpr ⟨entry, hlisted, hcovers⟩
    rw [resolve_eq env target hconfigured, if_pos (.inr hbypasses)]
  refine ⟨fun hloopback => ?_, fun entry hlisted hentry hexcepts => ?_,
    fun entry hlisted hentry hleads => ?_, fun hremote hexcepted hled => ?_,
    fun entry => exists_leadsTo_not_excepts⟩
  · rw [resolve_eq env target hconfigured, if_pos (.inl hloopback)]
  · exact hpassed hlisted ((htidy hentry).mpr hexcepts)
  · exact hpassed hlisted ((covers_iff_leadsTo hentry).mpr hleads)
  · have hbypasses : bypasses (exceptionList env) target ≠ true := by
      rw [Ne, bypasses_iff]
      rintro ⟨entry, hlisted, hcovers⟩
      by_cases hentry : IsTidy entry
      · exact hexcepted entry hlisted hentry ((htidy hentry).mp hcovers)
      · exact hled entry hlisted hentry ((covers_iff_leadsTo hentry).mp hcovers)
    rw [resolve_eq env target hconfigured, if_neg (by simp [hremote, hbypasses])]

/-- An environment with a proxy and a list of exceptions. -/
def sampleEnvironment (list name : String) : Option String :=
  if name = "HTTPS_PROXY" then some "http://proxy:3128"
  else if name = "NO_PROXY" then some list
  else none

/-- The hosts of a domain are excepted with blanks, a dot and letters in upper case, and no host
with another name. -/
theorem resolve_excepts_listed_domain :
    resolve none (sampleEnvironment "db:5432, .Example.ORG ") "idp.example.org" = none ∧
      resolve none (sampleEnvironment "db:5432, .Example.ORG ") "idp.notexample.org" =
        some ⟨"proxy", 3128⟩ := by
  have hentries : ∀ entry, Listed (exceptionList (sampleEnvironment "db:5432, .Example.ORG ")) entry
      ↔ entry = "db:5432" ∨ entry = ".example.org" := by
    intro entry
    have hlist : exceptions "db:5432, .Example.ORG " = ["db:5432", ".example.org"] := by
      decide +kernel
    simp [← mem_exceptions_iff, exceptionList, sampleEnvironment, hlist]
  have hport : Writes "db:5432" "db" :=
    ⟨by decide, [], ":5432".toList, ⟨by decide, by simp, by simp, by decide, by simp⟩, by simp⟩
  have hdot : Writes ".example.org" "example.org" :=
    ⟨by decide, ['.'], [], ⟨by decide, by simp, by simp, by decide, by simp⟩, by simp⟩
  have htidy : ∀ entry, Listed (exceptionList (sampleEnvironment "db:5432, .Example.ORG ")) entry →
      IsTidy entry := by
    intro entry hentry
    rcases (hentries entry).mp hentry with rfl | rfl
    · exact .inr ⟨_, hport⟩
    · exact .inr ⟨_, hdot⟩
  have hwithin := (resolve_excepts_listed none (sampleEnvironment "db:5432, .Example.ORG ")
    "idp.example.org" rfl (.inl (by decide))).2.1
  have hother := (resolve_excepts_listed none (sampleEnvironment "db:5432, .Example.ORG ")
    "idp.notexample.org" rfl (.inl (by decide))).2.2.2.1
  constructor
  · exact hwithin ".example.org" ((hentries _).mpr (.inr rfl)) (.inr ⟨_, hdot⟩)
      (.inr (.inr ⟨"example.org", hdot, .inr ⟨"idp", by decide⟩⟩))
  · rw [hother (by decide +kernel)]
    · decide +kernel
    · intro entry hlisted hentry
      refine mt (covers_iff_excepts hentry (by decide)).mpr ?_
      rcases (hentries entry).mp hlisted with rfl | rfl <;> decide +kernel
    · intro entry hlisted hentry
      exact (hentry (htidy entry hlisted)).elim

/-- An IPv6 address that is listed is not excepted, and a host that has nothing to do with an
entry is. -/
theorem listed_address_not_excepted :
    (IsTarget "fd00::1" ∧ Listed "fd00::1" "fd00::1" ∧ Excepts "fd00::1" "fd00::1" ∧
      resolve none (sampleEnvironment "fd00::1") "fd00::1" = some ⟨"proxy", 3128⟩) ∧
    (IsTarget "idp.example.org." ∧ isLoopback "idp.example.org." = false ∧
      (∀ entry, Listed "::1" entry → ¬Excepts entry "idp.example.org.") ∧
      resolve none (sampleEnvironment "::1") "idp.example.org." = none) := by
  have hlist : exceptions "fd00::1" = ["fd00::1"] := by decide +kernel
  refine ⟨⟨.inr (by decide +kernel), mem_exceptions_iff.mp (by simp [hlist]), .inr (.inl rfl),
    by decide +kernel⟩, .inl (by decide), by decide +kernel, fun entry hentry => ?_,
    by decide +kernel⟩
  have hentry' : entry = "::1" := by
    have hlist : exceptions "::1" = ["::1"] := by decide +kernel
    simpa [← mem_exceptions_iff, hlist] using hentry
  subst hentry'
  rintro (hall | hsame | ⟨domain, ⟨hne, dots, rest, hparts, hport⟩, -⟩)
  · exact absurd hall (by decide)
  · exact absurd hsame (by decide)
  · -- The entry starts with a colon, which is in no domain and among no dots.
    have hfirst : (dots ++ (domain.toList ++ rest)).head? = some ':' := by
      rw [← hparts.text]
      rfl
    cases dots with
    | cons c dots =>
        obtain rfl : c = ':' := by simpa using hfirst
        exact absurd (hparts.dots ':' List.mem_cons_self) (by decide)
    | nil =>
        cases hdomain : domain.toList with
        | nil => exact hne (String.toList_inj.mp hdomain)
        | cons c chars =>
            obtain rfl : c = ':' := by simpa [hdomain] using hfirst
            exact hparts.plain (by simp [hdomain])

end Proxy

end SignOn
