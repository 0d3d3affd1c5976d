import CallAudit.Proofs.Files.Path
import CallAudit.Proofs.Text.Ends
import CallAudit.Text.Column
import CallAudit.Tree.Basic

/-!
# Places in a text

A place between two characters of a text can be told in three ways:

* as the number of bytes before it (`Text.Cut`);
* as a row and a number of bytes since the row began (`Point.after`);
* as a line and a number of characters since the line began.

`Text.Cut.exists_lines` leads from the first to the other two.
-/

namespace CallAudit

namespace Text

/-! ## Bytes -/

def bytes (chars : List Char) : List UInt8 :=
  chars.flatMap String.utf8EncodeChar

def newlineByte : UInt8 :=
  10

theorem bytes_cons (c : Char) (rest : List Char) :
    bytes (c :: rest) = String.utf8EncodeChar c ++ bytes rest :=
  List.flatMap_cons

theorem bytes_append (front back : List Char) :
    bytes (front ++ back) = bytes front ++ bytes back :=
  List.flatMap_append

theorem length_bytes_cons (c : Char) (rest : List Char) :
    (bytes (c :: rest)).length = c.utf8Size + (bytes rest).length := by
  rw [bytes_cons, List.length_append, String.length_utf8EncodeChar]

/-- Only the line feed has the byte of a line feed in its encoding. -/
theorem newlineByte_not_mem_encoding {c : Char} (different : c ≠ '\n') :
    newlineByte ∉ String.utf8EncodeChar c := by
  have other : c.val.toNat ≠ 10 := by
    intro same
    apply different
    apply Char.ext
    exact UInt32.toNat_inj.mp same
  have byte : ∀ value, value < 256 → value ≠ 10 →
      newlineByte ≠ UInt8.ofNat value := by
    intro value bound valueOther same
    have sameValue := congrArg UInt8.toNat same
    rw [UInt8.toNat_ofNat', Nat.mod_eq_of_lt bound] at sameValue
    exact valueOther sameValue.symm
  rw [String.utf8EncodeChar]
  -- The bytes of longer encodings are all 128 or more.
  split
  · simp only [List.mem_singleton]
    exact byte _ (by omega) other
  split
  · simp only [List.mem_cons, List.not_mem_nil, or_false, not_or]
    exact ⟨byte _ (by omega) (by omega), byte _ (by omega) (by omega)⟩
  split
  · simp only [List.mem_cons, List.not_mem_nil, or_false, not_or]
    exact ⟨byte _ (by omega) (by omega), byte _ (by omega) (by omega),
      byte _ (by omega) (by omega)⟩
  · simp only [List.mem_cons, List.not_mem_nil, or_false, not_or]
    exact ⟨byte _ (by omega) (by omega), byte _ (by omega) (by omega),
      byte _ (by omega) (by omega), byte _ (by omega) (by omega)⟩

theorem newlineByte_not_mem_bytes {chars : List Char}
    (oneLine : '\n' ∉ chars) : newlineByte ∉ bytes chars := by
  rw [bytes, List.mem_flatMap]
  rintro ⟨c, listed, inside⟩
  have different : c ≠ '\n' := by
    rintro rfl
    exact oneLine listed
  exact newlineByte_not_mem_encoding different inside

/-- As many bytes as some leading characters take hold just these. -/
theorem charsWithin_append (front back : List Char) :
    charsWithin (bytes front).length (front ++ back) = front.length := by
  induction front with
  | nil =>
      cases back with
      | nil =>
          rfl
      | cons c rest =>
          have positive := c.utf8Size_pos
          have tooWide : ¬ c.utf8Size ≤ 0 := by
            omega
          exact if_neg tooWide
  | cons c rest inductionHypothesis =>
      have fits : c.utf8Size ≤ c.utf8Size + (bytes rest).length :=
        Nat.le_add_right _ _
      rw [List.cons_append, length_bytes_cons, charsWithin, if_pos fits,
        Nat.add_sub_cancel_left, inductionHypothesis, List.length_cons,
        Nat.add_comm]

/-- A number of bytes that ends right behind some leading characters of a
text. -/
structure Cut (text : String) (offset : Nat) (front : List Char) : Prop where
  leads : front <+: text.toList
  size : (bytes front).length = offset

theorem Cut.take_bytes {text : String} {offset : Nat} {front : List Char}
    (cut : Cut text offset front) :
    (bytes text.toList).take offset = bytes front := by
  obtain ⟨back, whole⟩ := cut.leads
  rw [← whole, bytes_append, ← cut.size, List.take_left]

end Text

/-- The place behind some bytes: the row is the number of line feeds among
them, and the column the number of bytes since the last line feed. -/
def Point.after (bytes : List UInt8) : Point where
  row := bytes.count Text.newlineByte
  column := (bytes.reverse.takeWhile (· != Text.newlineByte)).length

namespace Text

/-! ## Lines -/

/-- The number of characters of lines, with the line feed behind each. -/
def lineCharacters : List String → Nat
  | [] => 0
  | line :: rest => line.length + 1 + lineCharacters rest

theorem lineCharacters_ofList (lines : List (List Char)) :
    lineCharacters (lines.map String.ofList) =
      (lines.flatMap fun line => line ++ ['\n']).length := by
  induction lines with
  | nil =>
      rfl
  | cons line rest inductionHypothesis =>
      rw [List.map_cons, lineCharacters, inductionHypothesis,
        List.flatMap_cons, List.length_append, List.length_append,
        String.length_ofList, List.length_singleton]

/-- Some characters in front of others, told by the lines of all of them: the
lines that end in front, the part of the next line that is in front, the rest of
that line, and the lines after it. -/
structure LineSplit (front back : List Char)
    (before : List (List Char)) (last first : List Char)
    (after : List (List Char)) : Prop where
  lines : (front ++ back).splitOn '\n' = before ++ (last ++ first) :: after
  front : front = before.flatMap (fun line => line ++ ['\n']) ++ last
  complete : ∀ line ∈ before, '\n' ∉ line
  oneLine : '\n' ∉ last

theorem exists_lineSplit (front back : List Char) :
    ∃ before last first after,
      LineSplit front back before last first after := by
  induction front with
  | nil =>
      cases parts : back.splitOn '\n' with
      | nil =>
          exact absurd parts (List.splitOn_ne_nil '\n' back)
      | cons first after =>
          exact ⟨[], [], first, after, parts, rfl, by simp, by simp⟩
  | cons c front inductionHypothesis =>
      obtain ⟨before, last, first, after, parts⟩ := inductionHypothesis
      have whole := List.splitOn_cons_eq_if_modifyHead (a := '\n') c
        (front ++ back)
      rw [parts.lines, ← List.cons_append] at whole
      by_cases newline : c = '\n'
      · refine ⟨[] :: before, last, first, after, ?_, ?_, ?_, parts.oneLine⟩
        · rw [whole, newline]
          rfl
        · rw [newline, List.flatMap_cons, List.append_assoc, ← parts.front]
          rfl
        · rw [List.forall_mem_cons]
          exact ⟨List.not_mem_nil, parts.complete⟩
      · have notNewline : ¬ (c == '\n') = true := by
          simpa using newline
        rw [if_neg notNewline] at whole
        -- The character goes to the first line, which may be the unfinished one.
        cases before with
        | nil =>
            have grown : '\n' ∉ c :: last := by
              rw [List.mem_cons, not_or]
              exact ⟨fun same => newline same.symm, parts.oneLine⟩
            refine ⟨[], c :: last, first, after, whole, ?_, by simp, grown⟩
            exact congrArg (List.cons c) parts.front
        | cons line others =>
            have complete := List.forall_mem_cons.mp parts.complete
            have grown : '\n' ∉ c :: line := by
              rw [List.mem_cons, not_or]
              exact ⟨fun same => newline same.symm, complete.1⟩
            refine ⟨(c :: line) :: others, last, first, after, whole, ?_,
              List.forall_mem_cons.mpr ⟨grown, complete.2⟩, parts.oneLine⟩
            exact congrArg (List.cons c) parts.front

namespace LineSplit

variable {front back : List Char} {before after : List (List Char)}
  {last first : List Char} (parts : LineSplit front back before last first after)

include parts

theorem length_front :
    lineCharacters (before.map String.ofList) + last.length =
      front.length := by
  rw [lineCharacters_ofList, parts.front, List.length_append]

theorem bytes_front :
    bytes front =
      before.flatMap (fun line => bytes line ++ [newlineByte]) ++
        bytes last := by
  rw [parts.front, bytes_append]
  congr 1
  rw [bytes, List.flatMap_assoc]
  apply List.flatMap_congr
  intro line _
  exact bytes_append line ['\n']

/-- The place behind the characters in front, in rows and bytes. -/
theorem point_after :
    Point.after (bytes front) = ⟨before.length, (bytes last).length⟩ := by
  have lastClean := newlineByte_not_mem_bytes parts.oneLine
  have each : ∀ line ∈ before,
      (bytes line ++ [newlineByte]).count newlineByte = 1 := by
    intro line listed
    have clean := newlineByte_not_mem_bytes (parts.complete line listed)
    rw [List.count_append, List.count_eq_zero_of_not_mem clean,
      List.count_singleton_self]
  have rows : (bytes front).count newlineByte = before.length := by
    rw [parts.bytes_front, List.count_append,
      List.count_eq_zero_of_not_mem lastClean, List.count_flatMap,
      Function.comp_def, List.map_congr_left each]
    simp
  have stops : (before.flatMap fun line =>
      bytes line ++ [newlineByte]).reverse.takeWhile
        (· != newlineByte) = [] := by
    rcases List.eq_nil_or_concat before with empty | ⟨others, line, shape⟩
    · rw [empty]
      rfl
    · simp [shape, List.flatMap_append]
  have column : ((bytes front).reverse.takeWhile
      (· != newlineByte)).length = (bytes last).length := by
    have passes : ∀ byte ∈ (bytes last).reverse,
        (byte != newlineByte) = true := by
      intro byte listed
      rw [bne_iff_ne]
      rintro rfl
      exact lastClean (List.mem_reverse.mp listed)
    rw [parts.bytes_front, List.reverse_append,
      List.takeWhile_append_of_pos passes, stops, List.append_nil,
      List.length_reverse]
  rw [Point.after, rows, column]

end LineSplit

/-- The place of a cut among the lines of the text: the lines before it, its own
line with the part before the cut, and the lines after it. -/
theorem Cut.exists_lines {text : String} {offset : Nat} {front : List Char}
    (cut : Cut text offset front) :
    ∃ before line after last,
      lines text = before ++ line :: after ∧
        last <+: line.toList ∧
        Point.after ((bytes text.toList).take offset) =
          ⟨before.length, (bytes last).length⟩ ∧
        lineCharacters before + last.length = front.length := by
  obtain ⟨back, whole⟩ := cut.leads
  obtain ⟨before, last, first, after, parts⟩ := exists_lineSplit front back
  refine ⟨before.map String.ofList, String.ofList (last ++ first),
    after.map String.ofList, last, ?_, ?_, ?_, ?_⟩
  · rw [lines, split_eq, ← whole, parts.lines, List.map_append, List.map_cons]
  · rw [String.toList_ofList]
    exact List.prefix_append last first
  · rw [cut.take_bytes, parts.point_after, List.length_map]
  · exact parts.length_front

theorem charColumn_natCast (line : String) (byteColumn : Nat) :
    charColumn line byteColumn = charsWithin byteColumn line.toList := by
  have forward : ¬ (byteColumn : Int) < 0 := by
    omega
  rw [charColumn, clampIndex, if_neg forward, Int.toNat_natCast]

/-- The column to show for a place behind a part of a line is the number of
characters of that part. -/
theorem shownColumn_of_leads {all before after : List String} {line : String}
    {last : List Char} (shape : all = before ++ line :: after)
    (leads : last <+: line.toList) :
    shownColumn (some all) before.length (bytes last).length = last.length := by
  have found : row? all before.length = some line := by
    rw [row?, if_neg (by omega), shape]
    simp
  obtain ⟨rest, whole⟩ := leads
  rw [shownColumn, Option.bind_some, found]
  simp only [charColumn_natCast, ← whole, charsWithin_append]

/-! ## White space at the ends -/

/-- A text without the white space at both ends of a line. -/
structure IsStripped (line content : String) : Prop where
  inside : ∃ before after,
    line.toList = before ++ content.toList ++ after ∧
      (∀ c ∈ before, isBlank c = true) ∧ ∀ c ∈ after, isBlank c = true
  opens : ∀ c, content.toList.head? = some c → isBlank c = false
  closes : ∀ c, content.toList.getLast? = some c → isBlank c = false

/-- Trimming is stripping off the white space at both ends. -/
theorem trim_eq_iff {line content : String} :
    trim line = content ↔ IsStripped line content := by
  rw [trim, ofList_trimChars_eq_iff]
  constructor
  · rintro ⟨before, after, shape, leading, trailing, opens, closes⟩
    exact ⟨⟨before, after, shape, leading, trailing⟩, opens, closes⟩
  · rintro ⟨⟨before, after, shape, leading, trailing⟩, opens, closes⟩
    exact ⟨before, after, shape, leading, trailing, opens, closes⟩

theorem isStripped_trim (line : String) : IsStripped line (trim line) :=
  trim_eq_iff.mp rfl

end Text

end CallAudit
