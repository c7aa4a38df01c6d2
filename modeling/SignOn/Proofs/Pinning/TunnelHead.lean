import SignOn.Pinning.Tunnel
import SignOn.Proofs.Text.Lines
/-!
# A tunnel takes the head and nothing more

The head of a proxy's answer ends with the first CRLF CRLF in the stream (`FirstEnd`).  The reader
takes one byte after another and looks after each of them whether the bytes taken so far end in this
way, so it stops right behind the head, wherever the pieces of line breaks before it lie.  Three
things can become of a stream (`Reads`), and just one of them does (`readHead_eq_iff`): its head is
taken, the bytes up to the limit are taken and hold no whole head, or the stream ends before either.

The invariant of the reading (`reads_readHead`) is that no end has come among the bytes taken before
the last one.  The main statement, `tunnel_takes_head`, adds what the head must say: its first line
has 200 as its second word, whatever bytes it is made of.
-/

namespace SignOn.Tunnel

/-- CRLF CRLF, in the order of the stream. -/
def blankLine : Bytes := [13, 10, 13, 10]

/-- A CRLF CRLF in the stream has the given offset behind it. -/
def EndsAt (stream : Bytes) (n : Nat) : Prop :=
  ∃ before after, stream = before ++ (blankLine ++ after) ∧ before.length + 4 = n

/-- The head of a stream ends at an offset. -/
def FirstEnd (stream : Bytes) (n : Nat) : Prop :=
  EndsAt stream n ∧ ∀ m < n, ¬EndsAt stream m

/-- What reading the head of a stream finds, with room for `limit` bytes. -/
inductive Reads (limit : Nat) (stream : Bytes) : Head → Prop
  | complete (n : Nat) (hn : n ≤ limit) (hfirst : FirstEnd stream n) :
      Reads limit stream (.complete (stream.take n) (stream.drop n))
  | tooLarge (hlong : limit ≤ stream.length) (hnone : ∀ n ≤ limit, ¬EndsAt stream n) :
      Reads limit stream (.tooLarge (stream.drop limit))
  | closed (hshort : stream.length < limit) (hnone : ∀ n, ¬EndsAt stream n) :
      Reads limit stream .closed

/-- The text of the first line of a stream. -/
def statusLine (stream : Bytes) : List Char :=
  (Utf8.decodeLossy (stream.takeWhile (· ≠ 10))).toList

section

variable {stream taken : Bytes}

/-- An end lies in the stream. -/
theorem EndsAt.le_length {n : Nat} (h : EndsAt stream n) : n ≤ stream.length := by
  obtain ⟨before, after, rfl, rfl⟩ := h
  simp [blankLine]

/-- The bytes taken so far end with the mark exactly if an end is where they end. -/
theorem isPrefixOf_taken :
    endMark.isPrefixOf taken = true ↔ EndsAt (taken.reverse ++ stream) taken.length := by
  rw [List.isPrefixOf_iff_prefix]
  constructor
  · rintro ⟨earlier, rfl⟩
    exact ⟨earlier.reverse, stream, by simp [endMark, blankLine], by simp [endMark]⟩
  · rintro ⟨before, after, hstream, hlength⟩
    have hcut : taken.reverse = before ++ blankLine := by
      rw [← List.append_assoc] at hstream
      refine (List.append_inj hstream ?_).1
      simp [blankLine, hlength]
    refine ⟨before.reverse, ?_⟩
    rw [← List.reverse_reverse taken, hcut]
    simp [endMark, blankLine]

/-- **The reading**, with some bytes taken and room for more: before the last of the bytes taken no
end has come. -/
theorem reads_readHead (room : Nat) : ∀ taken stream : Bytes,
    (∀ n < taken.length, ¬EndsAt (taken.reverse ++ stream) n) →
    Reads (taken.length + room) (taken.reverse ++ stream) (readHead room taken stream) := by
  -- The mark at the end of what is taken makes the head complete, with or without room for more.
  have hcomplete (room : Nat) (taken stream : Bytes)
      (hnone : ∀ n < taken.length, ¬EndsAt (taken.reverse ++ stream) n)
      (hend : endMark.isPrefixOf taken = true) :
      Reads (taken.length + room) (taken.reverse ++ stream)
        (.complete taken.reverse stream) := by
    have hroom : taken.length ≤ taken.length + room := by omega
    have h := Reads.complete taken.length hroom ⟨isPrefixOf_taken.mp hend, hnone⟩
    rwa [List.take_left' List.length_reverse, List.drop_left' List.length_reverse] at h
  induction room with
  | zero =>
      intro taken stream hnone
      unfold readHead
      split
      · next hend => exact hcomplete 0 taken stream hnone hend
      · next hend =>
          have hlong : taken.length ≤ (taken.reverse ++ stream).length := by simp
          have h := Reads.tooLarge hlong fun n hn => by
            rcases Nat.lt_or_eq_of_le hn with hlt | rfl
            · exact hnone n hlt
            · exact mt isPrefixOf_taken.mpr hend
          rwa [List.drop_left' List.length_reverse] at h
  | succ room ih =>
      intro taken stream hnone
      unfold readHead
      split
      · next hend => exact hcomplete (room + 1) taken stream hnone hend
      · next hend =>
          have hnone' : ∀ n ≤ taken.length, ¬EndsAt (taken.reverse ++ stream) n := by
            intro n hn
            rcases Nat.lt_or_eq_of_le hn with hlt | rfl
            · exact hnone n hlt
            · exact mt isPrefixOf_taken.mpr hend
          cases stream with
          | nil =>
              refine .closed (by simp) fun n hends => ?_
              exact hnone' n (by simpa using hends.le_length) hends
          | cons b rest =>
              have hsame : (b :: taken).reverse ++ rest = taken.reverse ++ b :: rest := by simp
              have h := ih (b :: taken) rest fun n hn => by
                rw [hsame]
                exact hnone' n (Nat.lt_succ_iff.mp hn)
              rw [hsame] at h
              convert h using 1
              simp
              omega

/-- One thing becomes of a stream. -/
theorem Reads.unique {limit : Nat} {found found' : Head} (h : Reads limit stream found)
    (h' : Reads limit stream found') : found = found' := by
  cases h with
  | complete n hn hfirst =>
      cases h' with
      | complete m hm hfirst' =>
          -- Of two first ends neither comes before the other.
          have hle : n ≤ m := Nat.le_of_not_lt fun hlt => hfirst.2 m hlt hfirst'.1
          have hge : m ≤ n := Nat.le_of_not_lt fun hlt => hfirst'.2 n hlt hfirst.1
          rw [Nat.le_antisymm hle hge]
      | tooLarge _ hnone => exact (hnone n hn hfirst.1).elim
      | closed _ hnone => exact (hnone n hfirst.1).elim
  | tooLarge hlong hnone =>
      cases h' with
      | complete m hm hfirst' => exact (hnone m hm hfirst'.1).elim
      | tooLarge => rfl
      | closed hshort => omega
  | closed hshort hnone =>
      cases h' with
      | complete m hm hfirst' => exact (hnone m hfirst'.1).elim
      | tooLarge hlong => omega
      | closed => rfl

/-- **What is read is what becomes of the stream.** -/
theorem readHead_eq_iff {limit : Nat} {found : Head} :
    readHead limit [] stream = found ↔ Reads limit stream found := by
  have hreads := reads_readHead limit [] stream (by simp)
  rw [List.length_nil, Nat.zero_add, List.reverse_nil, List.nil_append] at hreads
  exact ⟨fun heq => heq ▸ hreads, hreads.unique⟩

/-- A head holds the whole first line. -/
theorem FirstEnd.takeWhile_take {n : Nat} (h : FirstEnd stream n) :
    (stream.take n).takeWhile (· ≠ 10) = stream.takeWhile (· ≠ 10) := by
  obtain ⟨⟨before, after, rfl, rfl⟩, -⟩ := h
  have htake : (before ++ (blankLine ++ after)).take (before.length + 4) = before ++ blankLine := by
    rw [← List.append_assoc]
    exact List.take_left' (by simp [blankLine])
  rw [htake, List.takeWhile_append, List.takeWhile_append]
  split <;> simp [blankLine]

/-- A line break at the end of a line is in none of its words. -/
theorem words_firstLine (head : List Char) :
    Text.words (firstLine head) = Text.words (head.takeWhile (· ≠ '\n')) := by
  unfold firstLine
  simp only
  generalize head.takeWhile (· ≠ '\n') = line
  split
  · next hlast =>
      obtain ⟨front, rfl⟩ := List.getLast?_eq_some_iff.mp hlast
      rw [List.dropLast_concat, Text.words_concat (by decide)]
  · rfl

/-- A head grants the tunnel exactly if its first line has 200 as its second word. -/
theorem isGranted_iff {n : Nat} (h : FirstEnd stream n) :
    isGranted (firstLine (Utf8.decodeLossy (stream.take n)).toList) = true ↔
      Text.HasSecondWord (statusLine stream) ['2', '0', '0'] := by
  rw [isGranted, beq_iff_eq, words_firstLine, Utf8.decodeLossy_takeWhile, h.takeWhile_take,
    Text.words_second_iff, statusLine]

/-- A head is taken exactly if it ends within the limit. -/
theorem readHead_complete_iff {limit : Nat} {head rest : Bytes} :
    readHead limit [] stream = .complete head rest ↔
      ∃ n ≤ limit, FirstEnd stream n ∧ head = stream.take n ∧ rest = stream.drop n := by
  rw [readHead_eq_iff]
  constructor
  · rintro ⟨n, hn, hfirst⟩
    exact ⟨n, hn, hfirst, rfl, rfl⟩
  · rintro ⟨n, hn, hfirst, rfl, rfl⟩
    exact .complete n hn hfirst

/-- The limit is reached exactly if the bytes up to it hold no whole head. -/
theorem readHead_tooLarge_iff {limit : Nat} {rest : Bytes} :
    readHead limit [] stream = .tooLarge rest ↔
      limit ≤ stream.length ∧ (∀ n ≤ limit, ¬EndsAt stream n) ∧ rest = stream.drop limit := by
  rw [readHead_eq_iff]
  constructor
  · rintro ⟨⟩
    exact ⟨‹_›, ‹_›, rfl⟩
  · rintro ⟨hlong, hnone, rfl⟩
    exact .tooLarge hlong hnone

/-- The stream is closed exactly if it ends within the limit and without a whole head. -/
theorem readHead_closed_iff {limit : Nat} :
    readHead limit [] stream = .closed ↔ stream.length < limit ∧ ∀ n, ¬EndsAt stream n := by
  rw [readHead_eq_iff]
  constructor
  · rintro ⟨⟩
    exact ⟨‹_›, ‹_›⟩
  · rintro ⟨hshort, hnone⟩
    exact .closed hshort hnone

variable {target : Endpoint}

/-- A tunnel is open exactly if a head is taken that grants it. -/
theorem accept_eq_ok_iff {rest : Bytes} : accept target stream = .ok rest ↔
    ∃ head, readHead headLimit [] stream = .complete head rest ∧
      isGranted (firstLine (Utf8.decodeLossy head).toList) = true := by
  unfold accept
  cases readHead headLimit [] stream with
  | complete head after =>
      by_cases hgranted : isGranted (firstLine (Utf8.decodeLossy head).toList) = true
      · simp only [hgranted, if_true, Except.ok.injEq, Head.complete.injEq]
        constructor
        · intro hrest
          exact ⟨head, ⟨rfl, hrest⟩, hgranted⟩
        · rintro ⟨_, ⟨-, hrest⟩, -⟩
          exact hrest
      · simp [hgranted]
  | tooLarge after => simp
  | closed => simp

/-- A tunnel is refused exactly if a head is taken that does not grant it. -/
theorem accept_refused_iff :
    (∃ line, accept target stream = .error (.transport (.proxyRefused target line))) ↔
      ∃ head rest, readHead headLimit [] stream = .complete head rest ∧
        isGranted (firstLine (Utf8.decodeLossy head).toList) ≠ true := by
  unfold accept
  cases readHead headLimit [] stream with
  | complete head after =>
      by_cases hgranted : isGranted (firstLine (Utf8.decodeLossy head).toList) = true
      · simp [hgranted]
      · simp [hgranted]
  | tooLarge after => simp
  | closed => simp

/-- A tunnel fails for its size exactly if the limit is reached, and as closed exactly if the stream
is. -/
theorem accept_failed_iff :
    (accept target stream = .error (.transport .headTooLarge) ↔
        ∃ rest, readHead headLimit [] stream = .tooLarge rest) ∧
      (accept target stream = .error (.transport (.proxyClosed "unexpected end of file")) ↔
        readHead headLimit [] stream = .closed) := by
  unfold accept
  cases readHead headLimit [] stream with
  | complete head after =>
      by_cases hgranted : isGranted (firstLine (Utf8.decodeLossy head).toList) = true <;>
        simp [hgranted]
  | tooLarge after => simp
  | closed => simp

end

/-- **A tunnel takes the head and nothing more.**  For every stream: the bytes up to its first CRLF
CRLF are taken, and all bytes behind them left, exactly if this ends within 8192 bytes; the tunnel
is then open exactly if 200 is the second word of the first line.  It fails for its size, with 8192
bytes taken, exactly if there are as many and no CRLF CRLF ends among them; and as closed exactly if
the stream is shorter and has none. -/
theorem tunnel_takes_head (target : Endpoint) (stream : Bytes) :
    (∀ head rest, readHead headLimit [] stream = .complete head rest ↔
      ∃ n ≤ 8192, FirstEnd stream n ∧ head = stream.take n ∧ rest = stream.drop n) ∧
    (∀ rest, readHead headLimit [] stream = .tooLarge rest ↔
      8192 ≤ stream.length ∧ (∀ n ≤ 8192, ¬EndsAt stream n) ∧ rest = stream.drop 8192) ∧
    (readHead headLimit [] stream = .closed ↔
      stream.length < 8192 ∧ ∀ n, ¬EndsAt stream n) ∧
    (∀ rest, accept target stream = .ok rest ↔
      ∃ n ≤ 8192, FirstEnd stream n ∧ rest = stream.drop n ∧
        Text.HasSecondWord (statusLine stream) ['2', '0', '0']) ∧
    ((∃ line, accept target stream = .error (.transport (.proxyRefused target line))) ↔
      ∃ n ≤ 8192, FirstEnd stream n ∧
        ¬Text.HasSecondWord (statusLine stream) ['2', '0', '0']) ∧
    (accept target stream = .error (.transport .headTooLarge) ↔
      8192 ≤ stream.length ∧ ∀ n ≤ 8192, ¬EndsAt stream n) ∧
    (accept target stream = .error (.transport (.proxyClosed "unexpected end of file")) ↔
      stream.length < 8192 ∧ ∀ n, ¬EndsAt stream n) := by
  refine ⟨fun head rest => readHead_complete_iff, fun rest => readHead_tooLarge_iff,
    readHead_closed_iff, fun rest => ?_, ?_, ?_, ?_⟩
  · rw [accept_eq_ok_iff]
    constructor
    · rintro ⟨head, hread, hgranted⟩
      obtain ⟨n, hn, hfirst, rfl, rfl⟩ := readHead_complete_iff.mp hread
      exact ⟨n, hn, hfirst, rfl, (isGranted_iff hfirst).mp hgranted⟩
    · rintro ⟨n, hn, hfirst, rfl, hword⟩
      exact ⟨_, readHead_complete_iff.mpr ⟨n, hn, hfirst, rfl, rfl⟩,
        (isGranted_iff hfirst).mpr hword⟩
  · rw [accept_refused_iff]
    constructor
    · rintro ⟨head, rest, hread, hrefused⟩
      obtain ⟨n, hn, hfirst, rfl, rfl⟩ := readHead_complete_iff.mp hread
      exact ⟨n, hn, hfirst, mt (isGranted_iff hfirst).mpr hrefused⟩
    · rintro ⟨n, hn, hfirst, hword⟩
      exact ⟨_, _, readHead_complete_iff.mpr ⟨n, hn, hfirst, rfl, rfl⟩,
        mt (isGranted_iff hfirst).mp hword⟩
  · rw [accept_failed_iff.1]
    constructor
    · rintro ⟨rest, hread⟩
      obtain ⟨hlong, hnone, -⟩ := readHead_tooLarge_iff.mp hread
      exact ⟨hlong, hnone⟩
    · rintro ⟨hlong, hnone⟩
      exact ⟨_, readHead_tooLarge_iff.mpr ⟨hlong, hnone, rfl⟩⟩
  · rw [accept_failed_iff.2]
    exact readHead_closed_iff

/-- The bytes behind a granting head are left, also if they look like the end of one. -/
example : accept ⟨"idp.test", 443⟩ (Utf8.encode "HTTP/1.1 200 OK\r\n\r\n\r\n\r\n") =
    .ok [13, 10, 13, 10] := by
  rfl

end SignOn.Tunnel
