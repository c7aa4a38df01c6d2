import SignOn.Proofs.Text.Utf8
import SignOn.Proofs.Url.HostText
/-!
# Hosts are read back from their text

A host that is read is a name in its own form, an address, or, in the schemes that are not special,
any printed characters (`IsRead`).  Each of them is read back from its text in a URL by a reader of
its own kind, and by the reader of the other schemes with the same text (`IsRead.readHost_write`):
a name is plain, so nothing of it is mapped, decoded or encoded, and an address is read back from
its numbers.
-/

namespace SignOn

/-- Without a percent sign nothing is undone. -/
theorem Form.percentDecode_of_not_mem {bytes : Bytes} (h : 0x25 ∉ bytes) :
    percentDecode bytes = bytes := by
  fun_induction percentDecode bytes with
  | case1 => rfl
  | case2 => rfl
  | case3 => rfl
  | case4 => exact (h (List.mem_cons_self ..)).elim
  | case5 => exact (h (List.mem_cons_self ..)).elim
  | case6 a b c rest ha ih => rw [ih fun hmem => h (List.mem_cons_of_mem _ hmem)]

/-- No character but the percent sign has its byte. -/
theorem Utf8.percent_not_mem_encodeChars {s : List Char} (hascii : ∀ c ∈ s, c.toNat < 128)
    (h : '%' ∉ s) : 0x25 ∉ encodeChars s := by
  intro hmem
  obtain ⟨c, hc, hbyte⟩ := List.mem_flatMap.mp hmem
  rw [encodeChar_of_ascii (hascii c hc), List.mem_singleton] at hbyte
  have hnumber := congrArg UInt8.toNat hbyte
  rw [toNat_toUInt8 (Nat.lt_trans (hascii c hc) (by decide))] at hnumber
  have hsign : c = '%' := by
    rw [← Char.ofNat_toNat c, ← hnumber]
    rfl
  exact h (hsign ▸ hc)

namespace Url

open DomainName (IsPlain form?)

/-! ### Printed characters -/

/-- A character that stands for itself in the host of any scheme. -/
def IsPrinted (c : Char) : Prop :=
  32 < c.toNat ∧ c.toNat < 127 ∧ Host.isInvalidOpaque c = false

instance (c : Char) : Decidable (IsPrinted c) :=
  inferInstanceAs (Decidable (32 < c.toNat ∧ c.toNat < 127 ∧ Host.isInvalidOpaque c = false))

theorem isPrinted_of_isPlain {c : Char} (h : c = '.' ∨ IsPlain c) : IsPrinted c := by
  rcases h with rfl | hplain
  · decide
  · exact Text.forall_ascii (P := fun c => DomainName.isForbidden c = false → IsPrinted c)
      (by decide) hplain.ascii hplain.allowed

/-- A character that is encoded is printed. -/
theorem isPrinted_of_mem_percent {b : UInt8} {c : Char} (h : c ∈ Form.percent b) :
    IsPrinted c := by
  have hdigit : ∀ n < 16, IsPrinted (Hex.upperDigit n) := by decide
  have hb := b.toNat_lt
  simp only [Form.percent, List.mem_cons, List.not_mem_nil, or_false] at h
  rcases h with rfl | rfl | rfl
  · decide
  · exact hdigit _ (by omega)
  · exact hdigit _ (by omega)

/-- A character of an encoded part is printed, or it is one that stands for itself there. -/
theorem EncodeSet.of_mem_encode {set : EncodeSet} {s : List Char} {c : Char}
    (h : c ∈ set.encode s) :
    IsPrinted c ∨ c ∈ s ∧ 32 ≤ c.toNat ∧ c.toNat < 127 ∧ c ∉ set.chars := by
  obtain ⟨d, hd, hin⟩ := List.mem_flatMap.mp h
  unfold encodeChar at hin
  split at hin
  · obtain ⟨b, -, hb⟩ := List.mem_flatMap.mp hin
    exact .inl (isPrinted_of_mem_percent hb)
  · next hkept =>
    obtain rfl : c = d := by simpa using hin
    rw [not_or, not_or, List.contains_iff_mem] at hkept
    exact .inr ⟨hd, by omega, by omega, hkept.2.2⟩

/-- What is left of a host after controls are encoded is printed. -/
theorem isPrinted_of_mem_encode {s : List Char} (h : ∀ c ∈ s, Host.isInvalidOpaque c = false)
    {c : Char} (hc : c ∈ EncodeSet.control.encode s) : IsPrinted c := by
  rcases EncodeSet.of_mem_encode hc with hprinted | ⟨hmem, hlow, hhigh, -⟩
  · exact hprinted
  · have hblank : c.toNat ≠ 32 := by
      intro heq
      obtain rfl : c = ' ' := by
        rw [← Char.ofNat_toNat c, heq]
      exact absurd (h ' ' hmem) (by decide)
    exact ⟨by omega, hhigh, h c hmem⟩

/-- Encoding leaves something of each character. -/
theorem encode_ne_nil {s : List Char} (h : s ≠ []) : EncodeSet.control.encode s ≠ [] := by
  obtain ⟨c, rest, rfl⟩ := List.exists_cons_of_ne_nil h
  have hbytes : Utf8.encodeChar c ≠ [] := by
    unfold Utf8.encodeChar
    dsimp only
    split_ifs <;> exact List.cons_ne_nil _ _
  have hchar : EncodeSet.control.encodeChar c ≠ [] := by
    unfold EncodeSet.encodeChar
    split
    · obtain ⟨b, bytes, hb⟩ := List.exists_cons_of_ne_nil hbytes
      rw [hb, List.flatMap_cons]
      exact List.append_ne_nil_of_left_ne_nil (List.cons_ne_nil _ _) _
    · exact List.cons_ne_nil _ _
  rw [EncodeSet.encode, List.flatMap_cons]
  exact List.append_ne_nil_of_left_ne_nil hchar _

/-- Printed characters are not encoded. -/
theorem encode_of_isPrinted {s : List Char} (h : ∀ c ∈ s, IsPrinted c) :
    EncodeSet.control.encode s = s := by
  have hone (c : Char) (hc : c ∈ s) : EncodeSet.control.encodeChar c = [c] := by
    have hprinted := h c hc
    have hopen : ¬(c.toNat < 32 ∨ 127 ≤ c.toNat ∨ EncodeSet.control.chars.contains c = true) := by
      simp only [EncodeSet.control, List.contains_nil, Bool.false_eq_true, or_false]
      have hlow := hprinted.1
      have hhigh := hprinted.2.1
      omega
    rw [EncodeSet.encodeChar, if_neg hopen]
  rw [EncodeSet.encode, List.flatMap_congr hone]
  exact List.flatMap_singleton' s

/-! ### What is read -/

/-- A host as it is after reading, in a special scheme or in another one. -/
inductive IsRead : Bool → Host → Prop
  | name {s : String} (nonempty : s.toList ≠ []) (form : form? s.toList = some s.toList)
      (plain : ∀ c ∈ s.toList, c = '.' ∨ IsPlain c)
      (unnumbered : Host.endsInNumber s.toList = false) : IsRead true (.name s)
  | ipv4 {n : Nat} (bits : n < 2 ^ 32) : IsRead true (.ipv4 n)
  | printed {s : String} (nonempty : s.toList ≠ []) (printed : ∀ c ∈ s.toList, IsPrinted c) :
      IsRead false (.name s)
  | ipv6 (special : Bool) {pieces : List Nat} (address : Host.IsAddress pieces) :
      IsRead special (.ipv6 pieces)

theorem IsRead.isAddress {special : Bool} {pieces : List Nat}
    (h : IsRead special (.ipv6 pieces)) : Host.IsAddress pieces := by
  cases h with
  | ipv6 special h => exact h

/-- What stands in brackets is an address in every scheme. -/
theorem readHost_of_head (special : Bool) {s : List Char} (hhead : s.head? = some '[') :
    readHost special s = Host.bracketed? s := by
  cases special <;> simp [readHost, Host.parse, Host.parseOpaque, hhead]

/-- **A host that is read** is one that is written in its own form. -/
theorem isRead_of_readHost {special : Bool} {s : List Char} {host : Host} (hne : s ≠ [])
    (h : readHost special s = .ok host) : IsRead special host := by
  by_cases hhead : s.head? = some '['
  · rw [readHost_of_head special hhead] at h
    obtain ⟨inner, pieces, -, hpieces, rfl⟩ := Host.bracketed?_spec h hhead
    exact .ipv6 special (Host.ipv6?_spec hpieces).2
  · cases special with
    | false =>
        obtain ⟨hvalid, rfl⟩ := Host.parseOpaque_spec h hhead
        refine .printed ?_ fun c hc => ?_
        · rw [String.toList_ofList]
          exact encode_ne_nil hne
        · rw [String.toList_ofList] at hc
          exact isPrinted_of_mem_encode hvalid hc
    | true =>
        change Host.parse s = .ok host at h
        unfold Host.parse at h
        rw [if_neg hhead] at h
        split at h
        · cases h
        · split at h
          · cases h
          · cases h
          · next form hform hread =>
            have hspec := DomainName.form?_spec hread
            split at h
            · split at h
              · next n hn =>
                cases h
                exact .ipv4 (Host.ipv4?_lt hn)
              · cases h
            · next hnumber =>
              cases h
              refine .name ?_ ?_ ?_ ?_ <;> simp only [String.toList_ofList]
              · exact hform
              · exact hspec.2
              · exact hspec.1
              · simpa using hnumber

/-! ### What is read back -/

/-- A plain name that is its own form is read as it stands, as a number or as a name. -/
theorem parse_of_isPlain {s : List Char} (hne : s ≠ []) (hform : form? s = some s)
    (hplain : ∀ c ∈ s, c = '.' ∨ IsPlain c) :
    Host.parse s =
      if Host.endsInNumber s then
        (Host.ipv4? s).elim (.error .invalidIpv4) fun n => .ok (.ipv4 n)
      else .ok (.name (String.ofList s)) := by
  have hascii : ∀ c ∈ s, c.toNat < 128 := fun c hc =>
    Nat.lt_succ_of_lt (isPrinted_of_isPlain (hplain c hc)).2.1
  have hnone {d : Char} (hdot : d ≠ '.') (hd : DomainName.isForbidden d = true) : d ∉ s :=
    fun hmem => (hplain d hmem).elim hdot fun h => by simp [h.allowed] at hd
  have hhead : s.head? ≠ some '[' := fun h =>
    hnone (by decide) (by decide) (List.mem_of_mem_head? h)
  have hdecoded : Utf8.decode? (Form.percentDecode (Utf8.encodeChars s)) =
      some (String.ofList s) := by
    rw [Form.percentDecode_of_not_mem (Utf8.percent_not_mem_encodeChars hascii
      (hnone (by decide) (by decide)))]
    have hread := Utf8.decode?_encode (String.ofList s)
    rwa [Utf8.encode, String.toList_ofList] at hread
  obtain ⟨c, rest, rfl⟩ := List.exists_cons_of_ne_nil hne
  rw [Host.parse, if_neg hhead, hdecoded]
  simp only [String.toList_ofList, hform]
  cases Host.ipv4? (c :: rest) <;> rfl

/-- Printed characters are read as they stand in the schemes that are not special. -/
theorem parseOpaque_of_isPrinted {s : List Char} (h : ∀ c ∈ s, IsPrinted c) :
    Host.parseOpaque s = .ok (.name (String.ofList s)) := by
  have hvalid : ¬s.any Host.isInvalidOpaque = true := by
    rw [List.any_eq_true]
    rintro ⟨c, hc, hinvalid⟩
    simp [(h c hc).2.2] at hinvalid
  have hhead : s.head? ≠ some '[' := fun hbracket =>
    absurd (h '[' (List.mem_of_mem_head? hbracket)) (by decide)
  rw [Host.parseOpaque, if_neg hhead, if_neg hvalid, encode_of_isPrinted h]

/-- The text of an IPv4 address is its own form. -/
theorem form?_writeIpv4 (n : Nat) :
    (∀ c ∈ (Host.writeIpv4 n).toList, c = '.' ∨ IsPlain c) ∧
      form? (Host.writeIpv4 n).toList = some (Host.writeIpv4 n).toList := by
  rw [Host.toList_writeIpv4]
  refine DomainName.form?_intercalate (List.cons_ne_nil _ _) fun label hlabel => ?_
  obtain ⟨b, -, rfl⟩ := List.mem_map.mp hlabel
  have hdigits : ∀ c ∈ (toString b).toList, c.isDigit = true := fun c hc =>
    Text.isDigit_of_mem_toString hc
  exact ⟨fun c hc => DomainName.isPlain_of_decimal (hdigits c hc),
    DomainName.labelForm?_of_decimal hdigits⟩

theorem writeIpv4_ne_nil (n : Nat) : (Host.writeIpv4 n).toList ≠ [] := by
  have hnumber := Host.endsInNumber_writeIpv4 n
  intro hnil
  rw [hnil] at hnumber
  exact absurd hnumber (by decide)

/-- The text of an address in brackets. -/
theorem toList_write_ipv6 (pieces : List Nat) :
    (Host.ipv6 pieces).write.toList = '[' :: ((Host.writeIpv6 pieces).toList ++ [']']) := by
  simp [Host.write]

/-- An address in brackets is read back in every scheme. -/
theorem readHost_write_ipv6 (special : Bool) {pieces : List Nat} (h : Host.IsAddress pieces) :
    readHost special (Host.ipv6 pieces).write.toList = .ok (.ipv6 pieces) := by
  have hlast : ('[' :: ((Host.writeIpv6 pieces).toList ++ [']'])).getLast? = some ']' := by
    rw [← List.cons_append, List.getLast?_concat]
  have hinner : (('[' :: ((Host.writeIpv6 pieces).toList ++ [']'])).drop 1).dropLast =
      (Host.writeIpv6 pieces).toList := by
    rw [List.drop_one, List.tail_cons, List.dropLast_concat]
  rw [toList_write_ipv6, readHost_of_head special rfl, Host.bracketed?, if_pos hlast, hinner,
    Host.ipv6?_writeIpv6 h]

/-- **A host is read back from its text**, by a reader of its own kind. -/
theorem IsRead.readHost_write {special : Bool} {host : Host} (h : IsRead special host) :
    readHost special host.write.toList = .ok host := by
  cases h with
  | @name s hne hform hplain hnumber =>
      simp only [readHost, if_true, Host.write]
      rw [parse_of_isPlain hne hform hplain, hnumber, String.ofList_toList]
      rfl
  | @ipv4 n hn =>
      obtain ⟨hplain, hform⟩ := form?_writeIpv4 n
      have hnumber := Host.endsInNumber_writeIpv4 n
      have hne := writeIpv4_ne_nil n
      simp only [readHost, if_true, Host.write]
      rw [parse_of_isPlain hne hform hplain, if_pos hnumber, Host.ipv4?_writeIpv4 hn,
        Option.elim_some]
  | @printed s hne hprinted =>
      simp only [readHost, Bool.false_eq_true, if_false, Host.write]
      rw [parseOpaque_of_isPrinted hprinted, String.ofList_toList]
  | ipv6 special h => exact readHost_write_ipv6 special h

theorem IsRead.write_ne_nil {special : Bool} {host : Host} (h : IsRead special host) :
    host.write.toList ≠ [] := by
  cases h with
  | name hne => exact hne
  | @ipv4 n => exact writeIpv4_ne_nil n
  | printed hne => exact hne
  | @ipv6 special pieces => simp [toList_write_ipv6]

/-- The text of a host besides an IPv6 address is printed. -/
theorem IsRead.isPrinted {special : Bool} {host : Host} (h : IsRead special host)
    (hhost : ∀ pieces, host ≠ .ipv6 pieces) : ∀ c ∈ host.write.toList, IsPrinted c := by
  cases h with
  | name hne hform hplain hnumber => exact fun c hc => isPrinted_of_isPlain (hplain c hc)
  | @ipv4 n => exact fun c hc => isPrinted_of_isPlain ((form?_writeIpv4 n).1 c hc)
  | printed hne hprinted => exact hprinted
  | @ipv6 special pieces h => exact (hhost pieces rfl).elim

/-- A host is read with the same text by a reader of its own kind, and by that of the schemes that
are not special. -/
theorem IsRead.exists_readHost {special : Bool} {host : Host} (h : IsRead special host)
    {other : Bool} (hkind : other = true → special = true) :
    ∃ read, readHost other host.write.toList = .ok read ∧ read.write = host.write := by
  by_cases hsame : other = special
  · exact ⟨host, hsame ▸ h.readHost_write, rfl⟩
  · obtain rfl : other = false := by
      cases other with
      | false => rfl
      | true => exact (hsame (hkind rfl).symm).elim
    by_cases hhost : ∀ pieces, host ≠ .ipv6 pieces
    · refine ⟨.name host.write, ?_, rfl⟩
      simp only [readHost, Bool.false_eq_true, if_false]
      rw [parseOpaque_of_isPrinted (h.isPrinted hhost), String.ofList_toList]
    · obtain ⟨pieces, rfl⟩ : ∃ pieces, host = .ipv6 pieces := by simpa using hhost
      exact ⟨.ipv6 pieces, readHost_write_ipv6 false h.isAddress, rfl⟩

end Url
end SignOn
