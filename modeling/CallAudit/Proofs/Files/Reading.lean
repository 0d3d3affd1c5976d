import CallAudit.Files.Read

/-!
# Texts that were read

Reading a file settles its text: the text has no carriage return, and a file
that holds the encoding of such a text is read as that very text.

* A content is the encoding of at most one text.  A content that encodes none is
  taken byte by byte, so that every content has characters (`Files.Decodes`).
* Characters fall into lines, whatever marks the ends of the lines
  (`Files.HasLines`).  The text of a file has these lines.
-/

namespace CallAudit

namespace Files

/-! ## Decoding -/

theorem fromUTF8?_eq_some_iff {content : ByteArray} {text : String} :
    String.fromUTF8? content = some text ↔ text.toUTF8 = content := by
  rw [String.fromUTF8?]
  constructor
  · intro decoded
    split at decoded
    · rw [← Option.some.inj decoded]
      rfl
    · exact absurd decoded (by simp)
  · intro encoded
    have valid : content.IsValidUTF8 := by
      rw [← encoded]
      exact text.isValidUTF8
    rw [dif_pos valid, Option.some.injEq, ← String.toByteArray_inj]
    exact encoded.symm

/-- The characters of a content: those of the text that it encodes, or one for
each byte where it encodes none. -/
inductive Decodes (content : ByteArray) : List Char → Prop
  | encoded (text : String) :
      text.toUTF8 = content → Decodes content text.toList
  | bytewise :
      (∀ text : String, text.toUTF8 ≠ content) →
      Decodes content (content.toList.map fun byte => Char.ofNat byte.toNat)

theorem decodes_decode (content : ByteArray) :
    Decodes content (decode content) := by
  rw [decode]
  split
  · next text decoded =>
      exact .encoded text (fromUTF8?_eq_some_iff.mp decoded)
  · next undecoded =>
      apply Decodes.bytewise
      intro text encoded
      rw [fromUTF8?_eq_some_iff.mpr encoded] at undecoded
      exact absurd undecoded (by simp)

theorem decode_toUTF8 (text : String) : decode text.toUTF8 = text.toList := by
  have decoded : String.fromUTF8? text.toUTF8 = some text :=
    fromUTF8?_eq_some_iff.mpr rfl
  rw [decode, decoded]

/-! ## Line ends -/

/-- The marks that end a line: a line feed, a carriage return with a line feed,
and a carriage return that no line feed follows. -/
inductive EndsLine : List Char → List Char → Prop
  | feed (rest : List Char) : EndsLine ['\n'] rest
  | both (rest : List Char) : EndsLine ['\r', '\n'] rest
  | alone (rest : List Char) :
      rest.head? ≠ some '\n' → EndsLine ['\r'] rest

/-- The lines that characters fall into. -/
inductive HasLines : List Char → List (List Char) → Prop
  | last {line : List Char} :
      '\n' ∉ line → '\r' ∉ line → HasLines line [line]
  | next {line mark rest : List Char} {others : List (List Char)} :
      '\n' ∉ line → '\r' ∉ line → EndsLine mark rest →
      HasLines rest others → HasLines (line ++ mark ++ rest) (line :: others)

section Lines

variable {chars : List Char} {lines : List (List Char)}
  (hasLines : HasLines chars lines)

include hasLines

theorem HasLines.exists_cons :
    ∃ first others, lines = first :: others := by
  cases hasLines with
  | last _ _ =>
      exact ⟨_, _, rfl⟩
  | next _ _ _ _ =>
      exact ⟨_, _, rfl⟩

theorem HasLines.after {mark : List Char} (ends : EndsLine mark chars) :
    HasLines (mark ++ chars) ([] :: lines) :=
  .next List.not_mem_nil List.not_mem_nil ends hasLines

end Lines

theorem HasLines.cons {c : Char} {chars first : List Char}
    {others : List (List Char)} (hasLines : HasLines chars (first :: others))
    (notFeed : '\n' ≠ c) (notReturn : '\r' ≠ c) :
    HasLines (c :: chars) ((c :: first) :: others) := by
  cases hasLines with
  | last noFeed noReturn =>
      exact .last (List.not_mem_cons_of_ne_of_not_mem notFeed noFeed)
        (List.not_mem_cons_of_ne_of_not_mem notReturn noReturn)
  | next noFeed noReturn ends later =>
      exact .next (List.not_mem_cons_of_ne_of_not_mem notFeed noFeed)
        (List.not_mem_cons_of_ne_of_not_mem notReturn noReturn) ends later

theorem splitChars_cons (c : Char) (text : List Char) :
    Text.splitChars '\n' (c :: text) =
      Text.splitStep '\n' c (Text.splitChars '\n' text) :=
  rfl

theorem HasLines.splitChars_feed {chars text : List Char}
    (hasLines : HasLines chars (Text.splitChars '\n' text)) :
    Text.splitChars '\n' ('\n' :: text) = [] :: Text.splitChars '\n' text := by
  obtain ⟨first, others, shape⟩ := hasLines.exists_cons
  rw [splitChars_cons, shape, Text.splitStep, if_pos rfl]

/-- Unifying line ends keeps the lines. -/
theorem hasLines_unifyLines (chars : List Char) :
    HasLines chars (Text.splitChars '\n' (unifyLines chars)) := by
  fun_induction unifyLines chars with
  | case1 rest inductionHypothesis =>
      rw [inductionHypothesis.splitChars_feed]
      exact inductionHypothesis.after (.both rest)
  | case2 rest noFeed inductionHypothesis =>
      have unfollowed : rest.head? ≠ some '\n' := by
        intro follows
        obtain ⟨later, isRest⟩ := List.head?_eq_some_iff.mp follows
        exact noFeed later isRest
      rw [inductionHypothesis.splitChars_feed]
      exact inductionHypothesis.after (.alone rest unfollowed)
  | case3 c rest _ notReturn inductionHypothesis =>
      by_cases isFeed : c = '\n'
      · rw [isFeed, inductionHypothesis.splitChars_feed]
        exact inductionHypothesis.after (.feed rest)
      · -- Any other character goes to the front of the first line.
        have different : '\r' ≠ c := fun same => notReturn same.symm
        obtain ⟨first, others, shape⟩ := inductionHypothesis.exists_cons
        rw [shape] at inductionHypothesis
        rw [splitChars_cons, shape, Text.splitStep, if_neg isFeed]
        exact inductionHypothesis.cons (Ne.symm isFeed) different
  | case4 =>
      exact .last List.not_mem_nil List.not_mem_nil

theorem return_not_mem_unifyLines (chars : List Char) :
    '\r' ∉ unifyLines chars := by
  fun_induction unifyLines chars with
  | case1 rest inductionHypothesis =>
      simpa using inductionHypothesis
  | case2 rest _ inductionHypothesis =>
      simpa using inductionHypothesis
  | case3 c rest _ notReturn inductionHypothesis =>
      have other : '\r' ≠ c := fun same => notReturn same.symm
      rw [List.mem_cons, not_or]
      exact ⟨other, inductionHypothesis⟩
  | case4 =>
      exact List.not_mem_nil

/-- Unifying line ends changes exactly the texts with carriage returns. -/
theorem unifyLines_eq_self_iff {chars : List Char} :
    unifyLines chars = chars ↔ '\r' ∉ chars := by
  constructor
  · intro same
    rw [← same]
    exact return_not_mem_unifyLines chars
  · intro settled
    fun_induction unifyLines chars with
    | case1 rest inductionHypothesis =>
        exact absurd List.mem_cons_self settled
    | case2 rest _ inductionHypothesis =>
        exact absurd List.mem_cons_self settled
    | case3 c rest _ _ inductionHypothesis =>
        rw [List.mem_cons, not_or] at settled
        rw [inductionHypothesis settled.2]
    | case4 =>
        rfl

/-! ## Reading -/

theorem return_not_mem_textOf (content : ByteArray) :
    '\r' ∉ (textOf content).toList := by
  rw [textOf, String.toList_ofList]
  exact return_not_mem_unifyLines (decode content)

theorem hasLines_textOf (content : ByteArray) :
    HasLines (decode content)
      ((Text.lines (textOf content)).map String.toList) := by
  have characters : (Text.lines (textOf content)).map String.toList =
      Text.splitChars '\n' (unifyLines (decode content)) := by
    rw [Text.lines, Text.split, textOf, String.toList_ofList, List.map_map]
    simp [Function.comp_def]
  rw [characters]
  exact hasLines_unifyLines (decode content)

theorem textOf_toUTF8_eq_iff {text : String} :
    textOf text.toUTF8 = text ↔ '\r' ∉ text.toList := by
  rw [textOf, decode_toUTF8, ← unifyLines_eq_self_iff]
  constructor
  · intro same
    have chars := congrArg String.toList same
    rw [String.toList_ofList] at chars
    exact chars
  · intro same
    rw [same, String.ofList_toList]

end Files

namespace Disk

theorem text?_of_content? {disk : Disk} {path : String} {content : ByteArray}
    (opened : disk.content? path = some content) :
    disk.text? path = some (Files.textOf content) := by
  rw [text?, opened]
  rfl

/-- Every file that can be opened has a text.  The text has the lines of the
characters of the content and no carriage return, and every file that holds its
encoding is read as this text again. -/
theorem text_settled_by_reading {disk : Disk} {path : String}
    {content : ByteArray} (opened : disk.content? path = some content) :
    ∃ text, disk.text? path = some text ∧ '\r' ∉ text.toList ∧
      (∃ chars, Files.Decodes content chars ∧
        Files.HasLines chars ((Text.lines text).map String.toList)) ∧
      ∀ (other : Disk) (place : String),
        other.content? place = some text.toUTF8 →
          other.text? place = some text := by
  have settled := Files.return_not_mem_textOf content
  refine ⟨Files.textOf content, text?_of_content? opened, settled,
    ⟨Files.decode content, Files.decodes_decode content,
      Files.hasLines_textOf content⟩, ?_⟩
  intro other place holds
  rw [text?_of_content? holds, Files.textOf_toUTF8_eq_iff.mpr settled]

end Disk

/-- A disk with one file, which holds `é` in a single byte and then both forms of
a line end with a carriage return. -/
def latinDisk : Disk where
  root := .put "fee.js" (.file ⟨#[0xe9, 0x0d, 0x0a, 0x0d]⟩) .empty
  workDir := []

/-- The file is read byte by byte, and its text is read back from two bytes for
`é` and two line feeds. -/
theorem latinDisk_text_settled :
    latinDisk.text? "fee.js" = some "é\n\n" ∧
      ∀ (other : Disk) (place : String),
        other.content? place = some ⟨#[0xc3, 0xa9, 0x0a, 0x0a]⟩ →
          other.text? place = some "é\n\n" := by
  have opened : latinDisk.content? "fee.js" =
      some ⟨#[0xe9, 0x0d, 0x0a, 0x0d]⟩ := by
    decide +kernel
  have isText : latinDisk.text? "fee.js" = some "é\n\n" := by
    decide +kernel
  have encoding : "é\n\n".toUTF8 = ⟨#[0xc3, 0xa9, 0x0a, 0x0a]⟩ := by
    decide +kernel
  obtain ⟨text, found, _, _, again⟩ := Disk.text_settled_by_reading opened
  have same : text = "é\n\n" := Option.some.inj (found.symm.trans isText)
  rw [same, encoding] at again
  exact ⟨isText, again⟩

end CallAudit
