import SignOn.Proofs.Text.Lines
import SignOn.Proofs.Url.AddressText
import SignOn.Proofs.Url.DomainForm
/-!
# What a host is written in

A host that is read was written without the characters that stand around hosts.  In brackets there
are the digits, colons and dots of an address (`bracketed?_spec`).  Otherwise a character of ASCII
is decoded from its byte whatever stands around it (`Utf8.mem_of_decode?`), and then no name with a
colon, a bracket or an `@` has a form (`not_mem_of_parse`).  The main statement is
`isHostText_of_readHost`.
-/

namespace SignOn

namespace Utf8

/-- A byte of ASCII is read as its character, whatever stands around it. -/
theorem mem_decodeFrom_of_ascii {b : UInt8} (hb : b.toNat < 0x80) (bytes : Bytes) :
    ∀ pending : Option Pending, (∀ p ∈ pending, p.Wide) → b ∈ bytes →
      some (Char.ofNat b.toNat) ∈ decodeFrom pending bytes := by
  induction bytes with
  | nil => intro pending _ hmem; cases hmem
  | cons d rest ih =>
      have hrest (hmem : b ∈ rest) := ih none (by simp) hmem
      have hfirst (hmem : b ∈ d :: rest) :
          some (Char.ofNat b.toNat) ∈ decodeFrom none (d :: rest) := by
        rcases List.mem_cons.mp hmem with rfl | hmem
        · have hlead : lead b = .complete (Char.ofNat b.toNat) := by
            simp only [lead, if_pos hb]
          simp [decodeFrom, hlead]
        · cases hlead : lead d with
          | complete c => simp [decodeFrom, hlead, hrest hmem]
          | opens p =>
              simp only [decodeFrom, hlead]
              exact ih (some p) (by simpa using wide_of_lead hlead) hmem
          | stray => simp [decodeFrom, hlead, hrest hmem]
      rintro (_ | p) hpending hmem
      · exact hfirst hmem
      · have hwide : p.Wide := hpending p rfl
        by_cases hrange : p.low ≤ d ∧ d ≤ p.high
        · -- The byte that goes on with a character is none of ASCII.
          have hmem' : b ∈ rest := by
            rcases List.mem_cons.mp hmem with rfl | hmem
            · have hlow := UInt8.le_iff_toNat_le.mp hrange.1
              have hstart := hwide.low
              omega
            · exact hmem
          by_cases hdue : p.due ≤ 1
          · simp [decodeFrom, hrange, hdue, hrest hmem']
          · simp only [decodeFrom, if_pos hrange, if_neg hdue]
            exact ih (some _) (by simpa using hwide.next hdue hrange.1) hmem'
        · rw [decodeFrom_broken hrange]
          exact List.mem_cons_of_mem _ (hfirst hmem)

/-- A text that is read strictly holds the characters of the bytes of ASCII. -/
theorem mem_of_decode? {bytes : Bytes} {s : String} (h : decode? bytes = some s) {b : UInt8}
    (hb : b.toNat < 0x80) (hmem : b ∈ bytes) : Char.ofNat b.toNat ∈ s.toList := by
  obtain ⟨chars, hchars, rfl⟩ := Option.map_eq_some_iff.mp h
  rw [mapM_eq_some_iff, List.map_id] at hchars
  have hread := mem_decodeFrom_of_ascii hb bytes none (by simp) hmem
  rw [← decode, hchars] at hread
  simpa using hread

theorem mem_encodeChars_of_ascii {c : Char} (hc : c.toNat < 0x80) {s : List Char} (h : c ∈ s) :
    c.toNat.toUInt8 ∈ encodeChars s :=
  List.mem_flatMap.mpr ⟨c, h, by rw [encodeChar_of_ascii hc]; exact List.mem_singleton_self _⟩

end Utf8

/-- A byte that is neither a percent sign nor a digit stays where percent signs are undone. -/
theorem Form.mem_percentDecode {b : UInt8} (hsign : b ≠ 0x25)
    (hdigit : Hex.value? (Char.ofNat b.toNat) = none) (bytes : Bytes) (h : b ∈ bytes) :
    b ∈ percentDecode bytes := by
  fun_induction percentDecode bytes with
  | case1 => exact h
  | case2 => exact h
  | case3 => exact h
  | case4 x y rest high low hlow hhigh ih =>
      simp only [List.mem_cons] at h ⊢
      rcases h with h | rfl | rfl | h
      · exact absurd h hsign
      · cases hdigit.symm.trans hhigh
      · cases hdigit.symm.trans hlow
      · exact .inr (ih h)
  | case5 x y rest hdigits ih =>
      rcases List.mem_cons.mp h with h | h
      · exact absurd h hsign
      · exact List.mem_cons_of_mem _ (ih h)
  | case6 a x y rest ha ih =>
      rcases List.mem_cons.mp h with rfl | h
      · exact List.mem_cons_self ..
      · exact List.mem_cons_of_mem _ (ih h)

namespace Url

namespace Host

/-! ### Names -/

/-- **A host that is read as a name** has no character of ASCII in it that no host holds, but
percent signs. -/
theorem not_mem_of_parse {s : List Char} {host : Host} (h : parse s = .ok host)
    (hhead : s.head? ≠ some '[') {c : Char} (hc : c.toNat < 128)
    (hforbidden : DomainName.isForbidden c = true) (hsign : c ≠ '%') : c ∉ s := by
  intro hmem
  have hdigit : Hex.value? c = none :=
    Text.forall_ascii (P := fun c => DomainName.isForbidden c = true → Hex.value? c = none)
      (by decide) hc hforbidden
  have hbyte : c.toNat.toUInt8.toNat = c.toNat := Utf8.toNat_toUInt8 (by omega)
  have hchar : Char.ofNat c.toNat.toUInt8.toNat = c := by rw [hbyte, Char.ofNat_toNat]
  have hdecoded : c.toNat.toUInt8 ∈ Form.percentDecode (Utf8.encodeChars s) := by
    refine Form.mem_percentDecode ?_ (by rwa [hchar]) _ (Utf8.mem_encodeChars_of_ascii hc hmem)
    intro heq
    rw [heq] at hchar
    exact hsign (hchar.symm.trans (by decide))
  unfold parse at h
  rw [if_neg hhead] at h
  split at h
  · cases h
  · next text htext =>
    have hread := Utf8.mem_of_decode? htext (by omega) hdecoded
    rw [hchar] at hread
    simp [DomainName.form?_eq_none hread hc hforbidden] at h

/-! ### Brackets and other schemes -/

/-- What is read in brackets is an IPv6 address. -/
theorem bracketed?_spec {s : List Char} {host : Host} (h : bracketed? s = .ok host)
    (hhead : s.head? = some '[') : ∃ inner pieces, s = '[' :: (inner ++ [']']) ∧
      ipv6? inner = some pieces ∧ host = .ipv6 pieces := by
  unfold bracketed? at h
  split at h
  · next hlast =>
    obtain ⟨rest, rfl⟩ := List.head?_eq_some_iff.mp hhead
    have hinner : rest = rest.dropLast ++ [']'] := by
      cases rest with
      | nil => simp at hlast
      | cons c rest =>
          rw [List.getLast?_cons_cons] at hlast
          exact (List.dropLast_append_getLast? _ hlast).symm
    rw [List.drop_one, List.tail_cons] at h
    split at h
    · next pieces hpieces =>
      cases h
      exact ⟨rest.dropLast, pieces, congrArg _ hinner, hpieces, rfl⟩
    · cases h
  · cases h

/-- Another host holds no character that it may not hold, and is kept but for controls. -/
theorem parseOpaque_spec {s : List Char} {host : Host} (h : parseOpaque s = .ok host)
    (hhead : s.head? ≠ some '[') : (∀ c ∈ s, isInvalidOpaque c = false) ∧
      host = .name (String.ofList (EncodeSet.control.encode s)) := by
  unfold parseOpaque at h
  rw [if_neg hhead] at h
  split at h
  · cases h
  · next hvalid =>
    cases h
    exact ⟨fun c hc => by simpa using List.any_eq_false.mp (Bool.eq_false_iff.mpr hvalid) c hc, rfl⟩

/-- The name or the address itself, without the brackets of a URL. -/
def bare : Host → String
  | .name s => s
  | .ipv4 n => writeIpv4 n
  | .ipv6 pieces => writeIpv6 pieces

/-- In a URL there is more only around an IPv6 address. -/
theorem write_eq_bare_iff (host : Host) :
    host.write = host.bare ↔ ∀ pieces, host ≠ .ipv6 pieces := by
  cases host with
  | name s => simp [write, bare]
  | ipv4 n => simp [write, bare]
  | ipv6 pieces =>
      refine ⟨fun h => ?_, fun h => (h pieces rfl).elim⟩
      have hlength := congrArg String.length h
      simp only [write, bare, String.length_append] at hlength
      have hbrackets : "[".length = 1 ∧ "]".length = 1 := by decide
      omega

end Host

/-- A host is written in brackets or without colons and brackets. -/
def IsHostText (host : List Char) : Prop :=
  (∃ inner, host = '[' :: (inner ++ [']']) ∧ ∀ c ∈ inner, c ≠ '[' ∧ c ≠ ']') ∨
    host ≠ [] ∧ ∀ c ∈ host, c ≠ ':' ∧ c ≠ '[' ∧ c ≠ ']'

theorem IsHostText.ne_nil {host : List Char} (h : IsHostText host) : host ≠ [] := by
  rcases h with ⟨inner, rfl, -⟩ | ⟨hne, -⟩
  · exact List.cons_ne_nil _ _
  · exact hne

/-- The host that is read in the URL of a special scheme or of another one. -/
def readHost (special : Bool) (host : List Char) : Except ParseError Host :=
  if special then Host.parse host else Host.parseOpaque host

/-- **A host that is read is written as one.** -/
theorem isHostText_of_readHost {special : Bool} {s : List Char} {host : Host} (hne : s ≠ [])
    (h : readHost special s = .ok host) : IsHostText s ∧ '@' ∉ s := by
  by_cases hhead : s.head? = some '['
  · have hbracketed : Host.bracketed? s = .ok host := by
      cases special
      · simpa [readHost, Host.parseOpaque, hhead] using h
      · simpa [readHost, Host.parse, hhead] using h
    obtain ⟨inner, pieces, rfl, hpieces, -⟩ := Host.bracketed?_spec hbracketed hhead
    have haddress := (Host.ipv6?_spec hpieces).1
    have hnone {c : Char} (hc : ¬Host.IsAddressChar c) : c ∉ inner := fun hmem =>
      hc (haddress c hmem)
    refine ⟨.inl ⟨inner, rfl, fun c hc => ⟨?_, ?_⟩⟩, ?_⟩
    · rintro rfl
      exact hnone (by decide) hc
    · rintro rfl
      exact hnone (by decide) hc
    · have hat : '@' ∉ inner := hnone (by decide)
      simp [hat]
  · have hall : ∀ c ∈ s, c ≠ ':' ∧ c ≠ '[' ∧ c ≠ ']' ∧ c ≠ '@' := by
      cases special
      · have hvalid := (Host.parseOpaque_spec h hhead).1
        refine fun c hc => ⟨?_, ?_, ?_, ?_⟩ <;> rintro rfl <;>
          exact absurd (hvalid _ hc) (by decide)
      · have hnone (c : Char) (hc : c.toNat < 128) (hforbidden : DomainName.isForbidden c = true)
            (hsign : c ≠ '%') : c ∉ s := Host.not_mem_of_parse h hhead hc hforbidden hsign
        refine fun c hc => ⟨?_, ?_, ?_, ?_⟩ <;> rintro rfl <;>
          exact hnone _ (by decide) (by decide) (by decide) hc
    exact ⟨.inr ⟨hne, fun c hc => ⟨(hall c hc).1, (hall c hc).2.1, (hall c hc).2.2.1⟩⟩,
      fun hat => (hall '@' hat).2.2.2 rfl⟩

end Url
end SignOn
