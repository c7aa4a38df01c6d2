import Mathlib.Data.List.Induction
import Mathlib.Tactic.NormNum
import SignOn.Proofs.Steps
import SignOn.Proofs.Text.Cutting
import SignOn.Proofs.Text.Decimals
import SignOn.Url.Host
/-!
# Addresses are read back from their text

The text of an address is its numbers with marks between them.  A number is read back from its
digits in its base (`digitsValue?_toDigits`), so an IPv4 address is read back from its four parts
(`ipv4?_writeIpv4`).  In the text of an IPv6 address the longest run of zeros is left out if it is
longer than one.  What stands before it holds no double colon of its own (`cutAtText?_writePieces`),
and the pieces on its sides with zeros between them are all pieces (`longestZeros_spec`), so the
address is read back as well (`ipv6?_writeIpv6`).
-/

namespace SignOn.Url.Host

/-! ### Digits -/

/-- The last digit counts once, what stands before it counts base times. -/
theorem digitsValue?_concat (base : Nat) (s : List Char) (c : Char) :
    digitsValue? base (s ++ [c]) = (digitsValue? base s).bind fun n =>
      (Hex.value? c).bind fun d => if d < base then some (base * n + d) else none := by
  unfold digitsValue?
  rw [List.foldlM_append]
  simp only [List.foldlM_cons, List.foldlM_nil, bind_pure]
  rfl

/-- What is read as a number is digits. -/
theorem isSome_value?_of_digitsValue? {base : Nat} {s : List Char} {n : Nat}
    (h : digitsValue? base s = some n) : ∀ c ∈ s, (Hex.value? c).isSome = true := by
  induction s using List.reverseRecOn generalizing n with
  | nil => simp
  | append_singleton s c ih =>
      rw [digitsValue?_concat] at h
      obtain ⟨front, hfront, h⟩ := Option.bind_eq_some_iff.mp h
      obtain ⟨d, hd, -⟩ := Option.bind_eq_some_iff.mp h
      intro e he
      rcases List.mem_append.mp he with he | he
      · exact ih hfront e he
      · simp [List.mem_singleton.mp he, hd]

/-- The digits of a number in a base up to sixteen are read back. -/
theorem digitsValue?_toDigits {base : Nat} (hlow : 1 < base) (hhigh : base ≤ 16) (n : Nat) :
    digitsValue? base (Nat.toDigits base n) = some n := by
  have hdigit : ∀ d < 16, Hex.value? d.digitChar = some d := by decide
  induction n using Nat.strongRecOn with
  | ind n ih =>
      rw [Nat.toDigits_eq_if hlow]
      split
      · next hlt => simp [digitsValue?, hdigit n (by omega), hlt]
      · next hle =>
        have hquot := ih (n / base) (Nat.div_lt_self (by omega) hlow)
        have hrem : n % base < base := Nat.mod_lt n (by omega)
        rw [digitsValue?_concat, hquot, Option.bind_some, hdigit (n % base) (by omega),
          Option.bind_some, if_pos hrem, Nat.div_add_mod]

/-- The value of digits is below the power of the base. -/
theorem digitsValue?_lt {base : Nat} {s : List Char} {n : Nat} (h : digitsValue? base s = some n) :
    n < base ^ s.length := by
  induction s using List.reverseRecOn generalizing n with
  | nil =>
      cases h
      simp
  | append_singleton s c ih =>
      rw [digitsValue?_concat] at h
      obtain ⟨front, hfront, h⟩ := Option.bind_eq_some_iff.mp h
      obtain ⟨d, -, hd⟩ := Option.bind_eq_some_iff.mp h
      split at hd
      · next hlt =>
        cases hd
        have hmul := Nat.mul_le_mul_left base (ih hfront)
        rw [Nat.mul_succ] at hmul
        rw [List.length_append, List.length_singleton, Nat.pow_succ, Nat.mul_comm _ base]
        omega
      · cases hd

/-! ### IPv4 -/

/-- The parts of an IPv4 address. -/
def octets (n : Nat) : List Nat :=
  [n / 0x1000000, n / 0x10000 % 256, n / 256 % 256, n % 256]

theorem octets_lt {n : Nat} (h : n < 2 ^ 32) : ∀ b ∈ octets n, b < 256 := by
  simp only [octets, List.mem_cons, List.not_mem_nil, or_false, forall_eq_or_imp, forall_eq]
  omega

theorem toList_writeIpv4 (n : Nat) :
    (writeIpv4 n).toList = ['.'].intercalate ((octets n).map fun b => (toString b).toList) := by
  rw [writeIpv4, String.toList_intercalate]
  rfl

/-- The dots of an IPv4 address stand between its parts. -/
theorem splitWhere_writeIpv4 (n : Nat) :
    Text.splitWhere (· == '.') (writeIpv4 n).toList =
      (octets n).map fun b => (toString b).toList := by
  rw [toList_writeIpv4]
  refine Text.splitWhere_intercalate (List.cons_ne_nil _ _) fun part hpart hdot => ?_
  obtain ⟨b, -, rfl⟩ := List.mem_map.mp hpart
  exact absurd (Text.isDigit_of_mem_toString hdot) (by decide)

theorem dottedParts_writeIpv4 (n : Nat) :
    dottedParts (writeIpv4 n).toList = (octets n).map fun b => (toString b).toList := by
  have hopen : ¬(((octets n).map fun b => (toString b).toList).getLast? = some [] ∧
      ((octets n).map fun b => (toString b).toList).length ≠ 1) := by
    simp [octets]
  unfold dottedParts
  simp only [splitWhere_writeIpv4, if_neg hopen]

/-- The text of an IPv4 address ends in a number. -/
theorem endsInNumber_writeIpv4 (n : Nat) : endsInNumber (writeIpv4 n).toList = true := by
  have hdigits : ∀ c ∈ Nat.toDigits 10 (n % 256), c.isDigit = true := fun c hc =>
    Nat.isDigit_of_mem_toDigits (by decide) (by decide) hc
  unfold endsInNumber
  rw [dottedParts_writeIpv4]
  simp only [octets, List.map_cons, List.map_nil, List.getLast?_cons_cons, List.getLast?_singleton,
    Nat.toString_eq_ofList_toDigits, String.toList_ofList]
  simp [Nat.toDigits_ne_nil, List.all_eq_true.mpr hdigits]

/-- A number that is not zero begins with another digit. -/
theorem head?_toDigits {n : Nat} (h : n ≠ 0) : (Nat.toDigits 10 n).head? ≠ some '0' := by
  induction n using Nat.strongRecOn with
  | ind n ih =>
      rw [Nat.toDigits_eq_if (by decide)]
      split
      · next hlt =>
        have hdigit : ∀ d < 10, d ≠ 0 → d.digitChar ≠ '0' := by decide
        simpa using hdigit n hlt h
      · have hfront := ih (n / 10) (by omega) (by omega)
        obtain ⟨d, digits, hdigits⟩ : ∃ d digits, Nat.toDigits 10 (n / 10) = d :: digits :=
          List.exists_cons_of_ne_nil Nat.toDigits_ne_nil
        rw [hdigits] at hfront ⊢
        exact hfront

/-- A part of an IPv4 address is read in base ten, since it does not begin with a zero. -/
theorem ipv4Part?_toString (n : Nat) : ipv4Part? (toString n).toList = some n := by
  rw [Nat.toString_eq_ofList_toDigits, String.toList_ofList]
  by_cases hzero : n = 0
  · rw [hzero]
    decide
  · have hhead := head?_toDigits hzero
    unfold ipv4Part?
    split
    · next hnil => exact (Nat.toDigits_ne_nil hnil).elim
    · next hdigits => simp [hdigits] at hhead
    · exact digitsValue?_toDigits (by decide) (by decide) n

/-- **An IPv4 address is read back.** -/
theorem ipv4?_writeIpv4 {n : Nat} (h : n < 2 ^ 32) : ipv4? (writeIpv4 n).toList = some n := by
  have hbytes := octets_lt h
  have hparts : ((octets n).map fun b => (toString b).toList).mapM ipv4Part? = some (octets n) := by
    rw [mapM_eq_some_iff, List.map_map]
    exact List.map_congr_left fun b _ => ipv4Part?_toString b
  unfold ipv4?
  rw [dottedParts_writeIpv4]
  simp only [List.length_map, hparts]
  simp only [octets, List.mem_cons, List.not_mem_nil, or_false, forall_eq_or_imp, forall_eq]
    at hbytes ⊢
  simp
  omega

/-- Bytes are written in base 256. -/
theorem foldl_bytes_lt {bytes : List Nat} (h : ∀ b ∈ bytes, b ≤ 255) :
    bytes.foldl (fun n b => 256 * n + b) 0 < 256 ^ bytes.length := by
  induction bytes using List.reverseRecOn with
  | nil => simp
  | append_singleton bytes b ih =>
      have hb := h b (by simp)
      have hlow := ih fun c hc => h c (by simp [hc])
      rw [List.foldl_append, List.foldl_cons, List.foldl_nil, List.length_append,
        List.length_singleton, Nat.pow_succ]
      omega

/-- An IPv4 address has 32 bits. -/
theorem ipv4?_lt {s : List Char} {n : Nat} (h : ipv4? s = some n) : n < 2 ^ 32 := by
  unfold ipv4? at h
  simp only at h
  split at h
  · cases h
  · next hfew =>
    obtain ⟨numbers, hnumbers, h⟩ := Option.bind_eq_some_iff.mp h
    obtain ⟨last, hlast, h⟩ := Option.bind_eq_some_iff.mp h
    have hlength : numbers.length = (dottedParts s).length := by
      simpa using (congrArg List.length (mapM_eq_some_iff.mp hnumbers)).symm
    split at h
    · cases h
    · next hfits =>
      cases h
      simp only [List.any_eq_true, decide_eq_true_eq, not_or, not_exists, not_and,
        Nat.not_lt, Nat.not_le] at hfits
      generalize hfirst : numbers.dropLast = first at hfits
      have hthree : first.length ≤ 3 := by
        rw [← hfirst, List.length_dropLast]
        omega
      have hfront := foldl_bytes_lt hfits.1
      have hleft : Nat.pow 2 (8 * (4 - first.length)) = 256 ^ (4 - first.length) :=
        Nat.pow_mul 2 8 _
      have hall : 256 ^ first.length * 256 ^ (4 - first.length) = 2 ^ 32 := by
        rw [← Nat.pow_add, show first.length + (4 - first.length) = 4 by omega]
        norm_num
      rw [hleft] at hfits ⊢
      calc _ < (first.foldl (fun n b => 256 * n + b) 0 + 1) * 256 ^ (4 - first.length) := by
            rw [Nat.add_mul, Nat.one_mul]
            exact Nat.add_lt_add_left hfits.2 _
        _ ≤ 256 ^ first.length * 256 ^ (4 - first.length) := Nat.mul_le_mul_right _ hfront
        _ = 2 ^ 32 := hall

/-! ### What an IPv6 address is read from -/

/-- A character of an IPv6 address. -/
def IsAddressChar (c : Char) : Prop :=
  c = ':' ∨ c = '.' ∨ (Hex.value? c).isSome = true

instance (c : Char) : Decidable (IsAddressChar c) :=
  inferInstanceAs (Decidable (c = ':' ∨ c = '.' ∨ (Hex.value? c).isSome = true))

/-- Eight pieces of 16 bits. -/
structure IsAddress (pieces : List Nat) : Prop where
  length : pieces.length = 8
  bits : ∀ n ∈ pieces, n < 0x10000

/-- A decimal digit is one in base sixteen. -/
theorem isSome_value?_of_isDigit {c : Char} (h : c.isDigit = true) :
    (Hex.value? c).isSome = true := by
  have hrange := Bool.and_eq_true_iff.mp h
  have hlow : 48 ≤ c.toNat := of_decide_eq_true hrange.1
  have hhigh : c.toNat ≤ 57 := of_decide_eq_true hrange.2
  simp [Hex.value?, hlow, hhigh]

theorem ipv6Piece?_spec {s : List Char} {n : Nat} (h : ipv6Piece? s = some n) :
    (∀ c ∈ s, IsAddressChar c) ∧ n < 0x10000 := by
  unfold ipv6Piece? at h
  split at h
  · cases h
  · next hshort =>
    refine ⟨fun c hc => .inr (.inr (isSome_value?_of_digitsValue? h c hc)), ?_⟩
    calc n < 16 ^ s.length := digitsValue?_lt h
      _ ≤ 16 ^ 4 := Nat.pow_le_pow_right (by decide) (by omega)

theorem ipv6Dotted?_spec {s : List Char} {pieces : List Nat} (h : ipv6Dotted? s = some pieces) :
    (∀ c ∈ s, IsAddressChar c) ∧ pieces.length = 2 ∧ ∀ n ∈ pieces, n < 0x10000 := by
  obtain ⟨bytes, hbytes, h⟩ := Option.bind_eq_some_iff.mp h
  constructor
  · intro c hc
    by_cases hdot : c = '.'
    · exact .inr (.inl hdot)
    · obtain ⟨part, hpart, hin⟩ := Text.exists_mem_splitWhere (p := fun d => d == '.') hc
        (beq_eq_false_iff_ne.mpr hdot)
      obtain ⟨n, -, hn⟩ := exists_of_mem_of_mapM hbytes hpart
      obtain ⟨m, hm, -⟩ := Option.bind_eq_some_iff.mp hn
      unfold Text.digitsToNat? at hm
      split at hm
      · next hdigits =>
        exact .inr (.inr (isSome_value?_of_isDigit (List.all_eq_true.mp hdigits.2 c hin)))
      · cases hm
  · have hlow : ∀ b ∈ bytes, b ≤ 255 := by
      intro b hb
      have hmem : some b ∈ bytes.map some := List.mem_map.mpr ⟨b, hb, rfl⟩
      rw [← mapM_eq_some_iff.mp hbytes] at hmem
      obtain ⟨part, -, hpart⟩ := List.mem_map.mp hmem
      obtain ⟨n, -, hn⟩ := Option.bind_eq_some_iff.mp hpart
      split at hn
      · cases hn
      · cases hn
        omega
    split at h
    · cases h
      simp only [List.mem_cons, List.not_mem_nil, or_false, forall_eq_or_imp, forall_eq] at hlow ⊢
      exact ⟨rfl, by omega, by omega⟩
    · cases h

theorem ipv6Pieces?_spec {parts : List (List Char)} : ∀ {pieces : List Nat},
    ipv6Pieces? parts = some pieces →
      (∀ part ∈ parts, ∀ c ∈ part, IsAddressChar c) ∧ ∀ n ∈ pieces, n < 0x10000 := by
  fun_induction ipv6Pieces? parts with
  | case1 => simp
  | case2 last hdot =>
      intro pieces h
      have hlast := ipv6Dotted?_spec h
      exact ⟨by simpa using hlast.1, hlast.2.2⟩
  | case3 last hdot =>
      intro pieces h
      obtain ⟨n, hn, rfl⟩ := Option.map_eq_some_iff.mp h
      simpa using ipv6Piece?_spec hn
  | case4 piece rest hrest ih =>
      intro pieces h
      obtain ⟨n, hn, h⟩ := Option.bind_eq_some_iff.mp h
      obtain ⟨more, hmore, h⟩ := Option.bind_eq_some_iff.mp h
      cases h
      have hpiece := ipv6Piece?_spec hn
      exact ⟨List.forall_mem_cons.mpr ⟨hpiece.1, (ih hmore).1⟩,
        List.forall_mem_cons.mpr ⟨hpiece.2, (ih hmore).2⟩⟩

theorem ipv6Side?_spec {s : List Char} {pieces : List Nat} (h : ipv6Side? s = some pieces) :
    (∀ c ∈ s, IsAddressChar c) ∧ ∀ n ∈ pieces, n < 0x10000 := by
  unfold ipv6Side? at h
  split at h
  · next hs =>
    cases h
    simp [hs]
  · refine ⟨fun c hc => ?_, (ipv6Pieces?_spec h).2⟩
    by_cases hcolon : c = ':'
    · exact .inl hcolon
    · obtain ⟨part, hpart, hin⟩ := Text.exists_mem_splitWhere (p := fun d => d == ':') hc
        (beq_eq_false_iff_ne.mpr hcolon)
      exact (ipv6Pieces?_spec h).1 part hpart c hin

/-- **An IPv6 address** is written in digits, colons and dots, and has eight pieces of 16 bits. -/
theorem ipv6?_spec {s : List Char} {pieces : List Nat} (h : ipv6? s = some pieces) :
    (∀ c ∈ s, IsAddressChar c) ∧ IsAddress pieces := by
  unfold ipv6? at h
  split at h
  · obtain ⟨ns, hns, h⟩ := Option.bind_eq_some_iff.mp h
    split at h
    · next hlength =>
      cases h
      exact ⟨(ipv6Side?_spec hns).1, hlength, (ipv6Side?_spec hns).2⟩
    · cases h
  · next before after hcut =>
    split at h
    · cases h
    · obtain ⟨front, hfront, h⟩ := Option.bind_eq_some_iff.mp h
      obtain ⟨back, hback, h⟩ := Option.bind_eq_some_iff.mp h
      obtain ⟨hbefore, hlow⟩ := ipv6Side?_spec hfront
      obtain ⟨hafter, hhigh⟩ := ipv6Side?_spec hback
      split at h
      · next hlength =>
        cases h
        rw [Text.cutAtText?_eq_some hcut]
        refine ⟨fun c hc => ?_, by simp; omega, fun n hn => ?_⟩
        · simp only [List.mem_append, List.mem_cons, List.not_mem_nil, or_false] at hc
          rcases hc with hc | (hc | hc) | hc
          · exact hbefore c hc
          · exact .inl hc
          · exact .inl hc
          · exact hafter c hc
        · simp only [List.mem_append] at hn
          rcases hn with (hn | hn) | hn
          · exact hlow n hn
          · rw [List.eq_of_mem_replicate hn]
            decide
          · exact hhigh n hn
      · cases h

/-- A piece on its own is no address: there is a colon in it. -/
theorem colon_mem_of_ipv6? {s : List Char} {pieces : List Nat} (h : ipv6? s = some pieces) :
    ':' ∈ s := by
  by_contra hcolon
  have hcut : Text.cutAtText? [':', ':'] (s ++ []) = _ :=
    Text.cutAtText?_append_of_not_mem [] hcolon
  have hsplit : Text.splitWhere (· == ':') s = [s] := by
    refine (Text.splitWhere_eq_singleton _ _ _).mpr ⟨rfl, fun c hc => ?_⟩
    rw [beq_eq_false_iff_ne]
    rintro rfl
    exact hcolon hc
  have hshort (ns : List Nat) (hns : ipv6Side? s = some ns) : ns.length ≤ 2 := by
    unfold ipv6Side? at hns
    split at hns
    · cases hns
      simp
    · rw [hsplit] at hns
      unfold ipv6Pieces? at hns
      split at hns
      · rw [(ipv6Dotted?_spec hns).2.1]
      · obtain ⟨n, -, rfl⟩ := Option.map_eq_some_iff.mp hns
        simp
  rw [List.append_nil] at hcut
  rw [ipv6?, hcut] at h
  obtain ⟨ns, hns, h⟩ := Option.bind_eq_some_iff.mp h
  split at h
  · next hlength =>
    have hle := hshort ns hns
    omega
  · cases h

/-! ### The text of an IPv6 address -/

/-- A run of zeros in a list, by its start and its length. -/
structure IsZeros (pieces : List Nat) (run : Nat × Nat) : Prop where
  within : run.1 + run.2 ≤ pieces.length
  zeros : (pieces.drop run.1).take run.2 = List.replicate run.2 0

/-- What is left out is zeros. -/
theorem longestZeros_spec (pieces : List Nat) : IsZeros pieces (longestZeros pieces) := by
  unfold longestZeros
  refine List.foldlRecOn _ _ ⟨Nat.zero_le _, rfl⟩ fun best hbest i hi => ?_
  dsimp only
  split
  · have hrun : (pieces.drop i).take (zeroRun (pieces.drop i)) =
        (pieces.drop i).takeWhile (· == 0) :=
      (List.prefix_iff_eq_take.mp (List.takeWhile_prefix _)).symm
    have hlength : zeroRun (pieces.drop i) ≤ pieces.length - i := by
      rw [← List.length_drop]
      exact (List.takeWhile_prefix _).length_le
    refine ⟨by have := List.mem_range.mp hi; omega, ?_⟩
    rw [hrun, List.eq_replicate_iff]
    exact ⟨rfl, fun n hn => by simpa using List.mem_takeWhile_imp hn⟩
  · exact hbest

/-- The pieces around a run of zeros. -/
theorem IsZeros.pieces_eq {pieces : List Nat} {run : Nat × Nat} (h : IsZeros pieces run) :
    pieces.take run.1 ++ List.replicate run.2 0 ++ pieces.drop (run.1 + run.2) = pieces := by
  rw [← h.zeros, ← List.drop_drop, List.append_assoc, List.take_append_drop,
    List.take_append_drop]

theorem toList_writePieces (pieces : List Nat) :
    (writePieces pieces).toList = [':'].intercalate (pieces.map (Nat.toDigits 16)) := by
  rw [writePieces, String.toList_intercalate, List.map_map]
  congr 1
  exact List.map_congr_left fun n _ => String.toList_ofList

/-- A number is written in base sixteen without marks. -/
theorem not_mem_toDigits {c : Char} (hc : Hex.value? c = none) (n : Nat) :
    c ∉ Nat.toDigits 16 n := fun hmem => by
  have hvalue : digitsValue? 16 (Nat.toDigits 16 n) = some n :=
    digitsValue?_toDigits (by decide) (by decide) n
  have hdigit := isSome_value?_of_digitsValue? hvalue c hmem
  simp [hc] at hdigit

/-- A piece is read back. -/
theorem ipv6Piece?_toDigits {n : Nat} (h : n < 0x10000) :
    ipv6Piece? (Nat.toDigits 16 n) = some n := by
  have hlength : (Nat.toDigits 16 n).length ≤ 4 :=
    (Nat.length_toDigits_le_iff (by decide) (by decide)).mpr h
  unfold ipv6Piece?
  rw [if_neg (by simp [Nat.toDigits_ne_nil, hlength])]
  exact digitsValue?_toDigits (by decide) (by decide) n

theorem ipv6Pieces?_toDigits {pieces : List Nat} (h : ∀ n ∈ pieces, n < 0x10000) :
    ipv6Pieces? (pieces.map (Nat.toDigits 16)) = some pieces := by
  induction pieces with
  | nil => rfl
  | cons n more ih =>
      obtain ⟨hn, hmore⟩ := List.forall_mem_cons.mp h
      cases more with
      | nil =>
          have hdot : '.' ∉ Nat.toDigits 16 n := not_mem_toDigits (by decide) n
          simp [ipv6Pieces?, hdot, ipv6Piece?_toDigits hn]
      | cons next more =>
          have hrest := ih hmore
          simp only [List.map_cons] at hrest ⊢
          simp [ipv6Pieces?, ipv6Piece?_toDigits hn, hrest]

/-- The pieces of a side are read back. -/
theorem ipv6Side?_writePieces {pieces : List Nat} (h : ∀ n ∈ pieces, n < 0x10000) :
    ipv6Side? (writePieces pieces).toList = some pieces := by
  cases pieces with
  | nil => rfl
  | cons n more =>
      have hsplit : Text.splitWhere (· == ':') (writePieces (n :: more)).toList =
          (n :: more).map (Nat.toDigits 16) := by
        rw [toList_writePieces]
        refine Text.splitWhere_intercalate (List.cons_ne_nil _ _) fun piece hpiece => ?_
        obtain ⟨m, -, rfl⟩ := List.mem_map.mp hpiece
        exact not_mem_toDigits (by decide) m
      have hne : (writePieces (n :: more)).toList ≠ [] := by
        intro hnil
        rw [hnil] at hsplit
        exact Nat.toDigits_ne_nil (List.cons.inj hsplit).1.symm
      rw [ipv6Side?, if_neg hne, hsplit]
      exact ipv6Pieces?_toDigits h

/-- **Pieces have no double colon**: a text that begins with them is cut behind them. -/
theorem cutAtText?_writePieces (pieces : List Nat) (rest : List Char) :
    Text.cutAtText? [':', ':'] ((writePieces pieces).toList ++ rest) =
      (Text.cutAtText? [':', ':'] rest).map
        fun (a, b) => ((writePieces pieces).toList ++ a, b) := by
  simp only [toList_writePieces]
  induction pieces with
  | nil => simp
  | cons n more ih =>
      have hcolon : ':' ∉ Nat.toDigits 16 n := not_mem_toDigits (by decide) n
      cases more with
      | nil =>
          rw [List.map_singleton, List.intercalate_singleton]
          exact Text.cutAtText?_append_of_not_mem rest hcolon
      | cons next more =>
          -- Behind the colon stands a digit of the next piece, so no double colon begins there.
          obtain ⟨d, digits, hdigits⟩ : ∃ d digits, Nat.toDigits 16 next = d :: digits :=
            List.exists_cons_of_ne_nil Nat.toDigits_ne_nil
          have hd : ':' ≠ d := by
            rintro rfl
            exact not_mem_toDigits (by decide) next (hdigits ▸ List.mem_cons_self ..)
          have hstep (t : List Char) : Text.cutAtText? [':', ':'] (':' :: d :: t) =
              (Text.cutAtText? [':', ':'] (d :: t)).map fun (a, b) => (':' :: a, b) := by
            simp [Text.cutAtText?, Text.afterPrefix?, hd]
          rw [List.map_cons, hdigits, List.intercalate_cons_cons_left, List.cons_append] at ih
          rw [List.map_cons, List.map_cons, List.intercalate_cons_cons, List.append_assoc,
            List.append_assoc, Text.cutAtText?_append_of_not_mem _ hcolon, hdigits,
            List.intercalate_cons_cons_left, List.cons_append, List.nil_append, List.cons_append,
            hstep, ih,
            Option.map_map, Option.map_map]
          simp [Function.comp_def]

/-- **An IPv6 address is read back.** -/
theorem ipv6?_writeIpv6 {pieces : List Nat} (h : IsAddress pieces) :
    ipv6? (writeIpv6 pieces).toList = some pieces := by
  have hlength := h.length
  have hrun := longestZeros_spec pieces
  unfold writeIpv6
  generalize longestZeros pieces = run at hrun ⊢
  obtain ⟨start, length⟩ := run
  have hpieces := hrun.pieces_eq
  have hwithin := hrun.within
  simp only at hpieces hwithin ⊢
  by_cases hshort : length < 2
  · have hcut := cutAtText?_writePieces pieces []
    rw [List.append_nil] at hcut
    rw [if_pos hshort, ipv6?, hcut]
    simp [Text.cutAtText?, Text.afterPrefix?, ipv6Side?_writePieces h.bits, hlength]
  · have hcut := cutAtText?_writePieces (pieces.take start)
      (':' :: [':'] ++ (writePieces (pieces.drop (start + length))).toList)
    rw [Text.cutAtText?_mark, Option.map_some] at hcut
    simp only [List.append_nil] at hcut
    have hdot : '.' ∉ (writePieces (pieces.take start)).toList := by
      rw [toList_writePieces]
      intro hmem
      rcases Text.mem_intercalate hmem with hcolon | ⟨piece, hpiece, hin⟩
      · exact absurd hcolon (by decide)
      · obtain ⟨n, -, rfl⟩ := List.mem_map.mp hpiece
        exact not_mem_toDigits (by decide) n hin
    have hfront : ipv6Side? (writePieces (pieces.take start)).toList = some (pieces.take start) :=
      ipv6Side?_writePieces fun n hn => h.bits n (List.mem_of_mem_take hn)
    have hback : ipv6Side? (writePieces (pieces.drop (start + length))).toList =
        some (pieces.drop (start + length)) :=
      ipv6Side?_writePieces fun n hn => h.bits n (List.mem_of_mem_drop hn)
    have htext : (writePieces (pieces.take start) ++ "::" ++
        writePieces (pieces.drop (start + length))).toList =
        (writePieces (pieces.take start)).toList ++
          (':' :: [':'] ++ (writePieces (pieces.drop (start + length))).toList) := by
      simp
    have hfew : (pieces.take start).length + (pieces.drop (start + length)).length ≤ 7 := by
      rw [List.length_take, List.length_drop]
      omega
    have hzeros : 8 - (pieces.take start).length - (pieces.drop (start + length)).length =
        length := by
      rw [List.length_take, List.length_drop]
      omega
    rw [if_neg hshort, htext, ipv6?, hcut]
    simp only [List.contains_eq_mem, hdot, decide_false, Bool.false_eq_true, if_false, hfront,
      hback, bind, Option.bind, if_pos hfew, hzeros, hpieces]

end SignOn.Url.Host
