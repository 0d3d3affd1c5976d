import CallAudit.Proofs.Text.Position
import Mathlib.Order.Bounds.Basic

/-!
# Character columns of byte columns

A byte column may fall anywhere in a line, also between the bytes of one
character or behind the end.  Its character column is the number of characters
that come out when the encoding of the line is cut there and the rest is decoded
with anything that is no character passed over (`Text.decodeLeniently`).  It is
the greatest number of leading characters that fit into so many bytes.
-/

namespace CallAudit.Text

/-! ## The most characters that fit -/

theorem length_le_length_bytes (text : List Char) :
    text.length ≤ (bytes text).length := by
  induction text with
  | nil =>
      exact Nat.zero_le _
  | cons c rest inductionHypothesis =>
      have positive := c.utf8Size_pos
      rw [length_bytes_cons, List.length_cons]
      omega

theorem charsWithin_le_length (budget : Nat) (text : List Char) :
    charsWithin budget text ≤ text.length := by
  fun_induction charsWithin budget text with
  | case1 _ =>
      exact Nat.zero_le _
  | case2 budget c rest fits inductionHypothesis =>
      rw [List.length_cons]
      omega
  | case3 _ _ _ _ =>
      exact Nat.zero_le _

/-- A number of leading characters is within a number of bytes exactly when
their encoding is. -/
theorem le_charsWithin_iff {count : Nat} {text : List Char}
    (inside : count ≤ text.length) (budget : Nat) :
    count ≤ charsWithin budget text ↔
      (bytes (text.take count)).length ≤ budget := by
  induction text generalizing count budget with
  | nil =>
      rw [List.length_nil, Nat.le_zero] at inside
      rw [inside]
      exact iff_of_true (Nat.zero_le _) (Nat.zero_le _)
  | cons c rest inductionHypothesis =>
      cases count with
      | zero =>
          exact iff_of_true (Nat.zero_le _) (Nat.zero_le _)
      | succ count =>
          -- The first character leaves the rest of the bytes to the others.
          rw [List.length_cons, Nat.succ_le_succ_iff] at inside
          have later := inductionHypothesis inside (budget - c.utf8Size)
          rw [List.take_succ_cons, length_bytes_cons, charsWithin]
          split
          · omega
          · omega

theorem isGreatest_charsWithin (budget : Nat) (text : List Char) :
    IsGreatest
      {count | count ≤ text.length ∧
        (bytes (text.take count)).length ≤ budget}
      (charsWithin budget text) := by
  have inside := charsWithin_le_length budget text
  refine ⟨⟨inside, (le_charsWithin_iff inside budget).mp le_rfl⟩, ?_⟩
  rintro count ⟨listed, fits⟩
  exact (le_charsWithin_iff listed budget).mpr fits

theorem charsWithin_le (budget : Nat) (text : List Char) :
    charsWithin budget text ≤ budget := by
  obtain ⟨⟨inside, fits⟩, _⟩ := isGreatest_charsWithin budget text
  have counted := length_le_length_bytes (text.take (charsWithin budget text))
  rw [List.length_take_of_le inside] at counted
  exact counted.trans fits

theorem charsWithin_mono (text : List Char) :
    Monotone fun budget => charsWithin budget text := by
  intro budget larger grows
  obtain ⟨⟨inside, fits⟩, _⟩ := isGreatest_charsWithin budget text
  exact (le_charsWithin_iff inside larger).mpr (fits.trans grows)

theorem charsWithin_of_length_le {budget : Nat} {text : List Char}
    (beyond : (bytes text).length ≤ budget) :
    charsWithin budget text = text.length := by
  apply le_antisymm (charsWithin_le_length budget text)
  rw [le_charsWithin_iff le_rfl, List.take_length]
  exact beyond

/-- A character that does not fit as a whole does not count. -/
theorem charsWithin_of_cut {budget : Nat} {front back : List Char} {c : Char}
    (fits : (bytes front).length ≤ budget)
    (cuts : budget < (bytes (front ++ [c])).length) :
    charsWithin budget (front ++ c :: back) = front.length := by
  have shape : front ++ c :: back = (front ++ [c]) ++ back := by
    simp
  apply le_antisymm
  · have inside : front.length + 1 ≤ (front ++ c :: back).length := by
      simp
    have taken : (front ++ c :: back).take (front.length + 1) =
        front ++ [c] := by
      rw [shape]
      exact List.take_left' (by simp)
    -- One more character would be the whole of the one that is cut.
    by_contra more
    have tooMany := (le_charsWithin_iff inside budget).mp (by omega)
    rw [taken] at tooMany
    omega
  · have inside : front.length ≤ (front ++ c :: back).length := by
      simp
    rw [le_charsWithin_iff inside, List.take_left]
    exact fits

/-! ## Lenient decoding -/

/-- The character whose encoding some bytes begin with. -/
def leadingChar? (bytes : List UInt8) : Option Char :=
  bytes.toByteArray.utf8DecodeChar? 0

/-- The characters that are encoded by bytes.  A byte at which no encoding
begins is passed over. -/
def decodeLeniently : List UInt8 → List Char
  | [] => []
  | byte :: rest =>
      match leadingChar? (byte :: rest) with
      | some c => c :: decodeLeniently (rest.drop (c.utf8Size - 1))
      | none => decodeLeniently rest
termination_by bytes => bytes.length
decreasing_by
  · rw [List.length_cons, List.length_drop]
    omega
  · exact Nat.lt_succ_self _

theorem leadingChar?_eq_some_iff {all : List UInt8} {c : Char} :
    leadingChar? all = some c ↔ String.utf8EncodeChar c <+: all := by
  rw [leadingChar?]
  constructor
  · intro found
    obtain ⟨later, shape⟩ := ByteArray.exists_of_utf8DecodeChar?_eq_some found
    refine ⟨later.data.toList, ?_⟩
    rw [← List.toByteArray_inj, List.toByteArray_append, shape]
    congr 1
    exact ByteArray.ext (by simp)
  · rintro ⟨later, rfl⟩
    rw [List.toByteArray_append]
    exact ByteArray.utf8DecodeChar?_utf8EncodeChar_append

theorem exists_first_of_leadingChar? {all : List UInt8} {c : Char}
    (found : leadingChar? all = some c) :
    ∃ byte rest, all = byte :: rest ∧ byte.IsUTF8FirstByte := by
  have isSome := Option.isSome_of_eq_some found
  have first := ByteArray.isUTF8FirstByte_of_isSome_utf8DecodeChar? isSome
  have filled := ByteArray.lt_size_of_isSome_utf8DecodeChar? isSome
  cases all with
  | nil =>
      exact absurd filled (Nat.not_lt_zero _)
  | cons byte rest =>
      rw [List.getElem_toByteArray] at first
      exact ⟨byte, rest, rfl, first⟩

theorem decodeLeniently_encoding_append (c : Char) (later : List UInt8) :
    decodeLeniently (String.utf8EncodeChar c ++ later) =
      c :: decodeLeniently later := by
  have size := String.length_utf8EncodeChar c
  have found : leadingChar? (String.utf8EncodeChar c ++ later) = some c :=
    leadingChar?_eq_some_iff.mpr (List.prefix_append _ _)
  cases encoding : String.utf8EncodeChar c with
  | nil =>
      have positive := c.utf8Size_pos
      rw [encoding, List.length_nil] at size
      omega
  | cons byte rest =>
      rw [encoding, List.length_cons] at size
      rw [encoding, List.cons_append] at found
      have passed : c.utf8Size - 1 = rest.length := by
        omega
      rw [List.cons_append, decodeLeniently]
      simp only [found, passed, List.drop_left]

theorem decodeLeniently_eq_nil {all : List UInt8}
    (unled : ∀ later, later <:+ all → leadingChar? later = none) :
    decodeLeniently all = [] := by
  induction all with
  | nil =>
      rw [decodeLeniently]
  | cons byte rest inductionHypothesis =>
      rw [decodeLeniently, unled _ List.suffix_rfl]
      apply inductionHypothesis
      intro later isLater
      exact unled later (isLater.trans (List.suffix_cons byte rest))

/-- A part of the encoding of a character decodes to nothing. -/
theorem decodeLeniently_take_encoding {c : Char} {budget : Nat}
    (short : budget < c.utf8Size) :
    decodeLeniently ((String.utf8EncodeChar c).take budget) = [] := by
  apply decodeLeniently_eq_nil
  rintro later ⟨skipped, shape⟩
  rw [Option.eq_none_iff_forall_ne_some]
  intro other found
  have whole : skipped ++ later <+: String.utf8EncodeChar c := by
    rw [shape]
    exact List.take_prefix _ _
  cases skipped with
  | nil =>
      -- Only the character itself could be here, and it is too long.
      have leads := leadingChar?_eq_some_iff.mp found
      have itself : leadingChar? (String.utf8EncodeChar c) = some c :=
        leadingChar?_eq_some_iff.mpr List.prefix_rfl
      have same : some c = some other :=
        itself.symm.trans (leadingChar?_eq_some_iff.mpr (leads.trans whole))
      have size := leads.length_le
      have cut := congrArg List.length shape
      rw [← Option.some.inj same, String.length_utf8EncodeChar] at size
      rw [List.nil_append, List.length_take] at cut
      omega
  | cons first skipped =>
      -- No encoding begins at a later byte of an encoding.
      obtain ⟨byte, rest, rfl, begins⟩ := exists_first_of_leadingChar? found
      have place := whole.getElem (i := (first :: skipped).length) (by simp)
      rw [List.getElem_append_right le_rfl] at place
      simp only [Nat.sub_self, List.getElem_cons_zero] at place
      rw [place, UInt8.isUTF8FirstByte_getElem_utf8EncodeChar] at begins
      simp at begins

/-- Cut anywhere, an encoding decodes to the characters that it still holds as a
whole. -/
theorem decodeLeniently_take_bytes (budget : Nat) (text : List Char) :
    decodeLeniently ((bytes text).take budget) =
      text.take (charsWithin budget text) := by
  fun_induction charsWithin budget text with
  | case1 budget =>
      rw [bytes, List.flatMap_nil, List.take_nil, decodeLeniently,
        List.take_nil]
  | case2 budget c rest fits inductionHypothesis =>
      have taken : (bytes (c :: rest)).take budget =
          String.utf8EncodeChar c ++
            (bytes rest).take (budget - c.utf8Size) := by
        rw [bytes_cons, List.take_append, String.length_utf8EncodeChar,
          List.take_of_length_le
            (by rw [String.length_utf8EncodeChar]; exact fits)]
      rw [taken, decodeLeniently_encoding_append, inductionHypothesis,
        Nat.add_comm, List.take_succ_cons]
  | case3 budget c rest short =>
      rw [Nat.not_le] at short
      have taken : (bytes (c :: rest)).take budget =
          (String.utf8EncodeChar c).take budget := by
        rw [bytes_cons, List.take_append_of_le_length]
        rw [String.length_utf8EncodeChar]
        exact short.le
      rw [taken, decodeLeniently_take_encoding short, List.take_zero]

/-! ## Columns -/

/-- The character column of a byte column of a line.  The characters before it
are those that come out when the encoding is cut there, and no more characters
fit: a character that is cut does not count, and behind the end of the line all
of it counts. -/
structure IsColumn (line : String) (byteColumn column : Nat) : Prop where
  decoded :
    decodeLeniently ((bytes line.toList).take byteColumn) =
      line.toList.take column
  greatest :
    IsGreatest
      {count | count ≤ line.length ∧
        (bytes (line.toList.take count)).length ≤ byteColumn}
      column
  inside : ∀ front c back,
    line.toList = front ++ c :: back →
      (bytes front).length ≤ byteColumn →
      byteColumn < (bytes (front ++ [c])).length → column = front.length
  behind : (bytes line.toList).length ≤ byteColumn → column = line.length

theorem isColumn_charColumn (line : String) (byteColumn : Nat) :
    IsColumn line byteColumn (charColumn line byteColumn) := by
  rw [charColumn_natCast]
  refine ⟨decodeLeniently_take_bytes byteColumn line.toList, ?_, ?_, ?_⟩
  · rw [← String.length_toList]
    exact isGreatest_charsWithin byteColumn line.toList
  · intro front c back shape fits cuts
    rw [shape]
    exact charsWithin_of_cut fits cuts
  · intro beyond
    rw [charsWithin_of_length_le beyond, String.length_toList]

theorem row?_eq_some_iff {all : List String} {row : Int} {line : String} :
    row? all row = some line ↔ 0 ≤ row ∧ all[row.toNat]? = some line := by
  rw [row?]
  split
  · next negative =>
      have outside : ¬ 0 ≤ row := by
        omega
      simp [outside]
  · next inside =>
      have inside : 0 ≤ row := by
        omega
      simp [inside]

theorem row?_eq_none_iff {all : List String} {row : Int} :
    row? all row = none ↔ row < 0 ∨ all.length ≤ row := by
  rw [row?]
  split
  · next negative =>
      simp [negative]
  · next inside =>
      rw [List.getElem?_eq_none_iff]
      omega

/-- The column to show for a place is a character column in a row of the lines,
and the byte column elsewhere.  It is never greater than the byte column, and
does not fall when that grows. -/
theorem shownColumn_counts_whole_characters
    (lines : Option (List String)) (row : Int) (byteColumn : Nat) :
    (∀ all line, lines = some all → 0 ≤ row → all[row.toNat]? = some line →
        ∃ column : Nat, shownColumn lines row byteColumn = column ∧
          IsColumn line byteColumn column) ∧
      ((∀ all, lines = some all → row < 0 ∨ all.length ≤ row) →
        shownColumn lines row byteColumn = byteColumn) ∧
      shownColumn lines row byteColumn ≤ byteColumn ∧
      ∀ later : Nat, byteColumn ≤ later →
        shownColumn lines row byteColumn ≤ shownColumn lines row later := by
  cases found : lines.bind fun all => row? all row with
  | none =>
      have shown : ∀ column : Nat, shownColumn lines row column = column := by
        intro column
        rw [shownColumn, found]
      refine ⟨?_, fun _ => shown byteColumn, (shown byteColumn).le, ?_⟩
      · rintro all line rfl inside listed
        have isRow := row?_eq_some_iff.mpr ⟨inside, listed⟩
        rw [Option.bind_some, isRow] at found
        cases found
      · intro later grows
        rw [shown, shown, Int.ofNat_le]
        exact grows
  | some line =>
      have shown : ∀ column : Nat,
          shownColumn lines row column = charColumn line column := by
        intro column
        rw [shownColumn, found]
      obtain ⟨all, rfl, isRow⟩ := Option.bind_eq_some_iff.mp found
      refine ⟨?_, ?_, ?_, ?_⟩
      · rintro _ other ⟨⟩ inside listed
        rw [row?_eq_some_iff.mpr ⟨inside, listed⟩] at isRow
        obtain rfl := Option.some.inj isRow
        exact ⟨_, shown byteColumn, isColumn_charColumn other byteColumn⟩
      · intro outside
        rw [row?_eq_none_iff.mpr (outside all rfl)] at isRow
        cases isRow
      · rw [shown, charColumn_natCast, Int.ofNat_le]
        exact charsWithin_le byteColumn line.toList
      · intro later grows
        rw [shown, shown, charColumn_natCast, charColumn_natCast, Int.ofNat_le]
        exact charsWithin_mono line.toList grows

/-- A cut after the second of the three bytes of the euro sign leaves the one
character before it, and a cut behind the line leaves all three characters. -/
theorem shownColumn_in_euro_sign :
    shownColumn (some ["", "1€é"]) 1 3 = 1 ∧
      shownColumn (some ["", "1€é"]) 1 9 = 3 ∧
      decodeLeniently ((bytes "1€é".toList).take 3) = ['1'] ∧
      shownColumn (some ["", "1€é"]) 2 3 = 3 := by
  have listed : ["", "1€é"][(1 : Int).toNat]? = some "1€é" :=
    rfl
  obtain ⟨column, cut, isColumn⟩ :=
    (shownColumn_counts_whole_characters (some ["", "1€é"]) 1 3).1 _ _ rfl
      (by decide) listed
  obtain ⟨last, behind, isLast⟩ :=
    (shownColumn_counts_whole_characters (some ["", "1€é"]) 1 9).1 _ _ rfl
      (by decide) listed
  have isOne : column = 1 :=
    isColumn.inside ['1'] '€' ['é'] (by decide) (by decide) (by decide)
  have isThree : last = 3 :=
    isLast.behind (by decide)
  have decoded := isColumn.decoded
  rw [isOne] at cut decoded
  rw [isThree] at behind
  refine ⟨cut, behind, decoded, ?_⟩
  apply (shownColumn_counts_whole_characters (some ["", "1€é"]) 2 3).2.1
  rintro _ ⟨⟩
  exact Or.inr (by decide)

end CallAudit.Text
