import CallAudit.Proofs.Outcome
import CallAudit.Report.Record
import Mathlib.Data.Nat.Digits.Defs

/-!
# What the report as data spells

The text of the report as data is told apart from the program that writes it.

* `Datum.Spells` is the grammar of such texts: white space may stand between
  the parts, and a character of a string stands for itself or is escaped.
  The text that the program writes for a piece of data spells that data
  (`Datum.spells_toText`).
* `Report.TellsScan` says what the data of a report are: all its members, with
  one record for each issue.
-/

namespace CallAudit

namespace Datum

/-! ## Strings -/

/-- A sixteen-bit unit as four hexadecimal digits. -/
def SpellsUnit (unit : Nat) (digits : String) : Prop :=
  ∃ first second third fourth,
    first < 16 ∧ second < 16 ∧ third < 16 ∧ fourth < 16 ∧
      unit = ((first * 16 + second) * 16 + third) * 16 + fourth ∧
      digits = String.ofList
        [Nat.digitChar first, Nat.digitChar second, Nat.digitChar third,
          Nat.digitChar fourth]

/-- The characters with an escape of one letter, after that letter. -/
def shortEscapes : List (Char × Char) :=
  [('"', '"'), ('\\', '\\'), ('/', '/'), ('b', Char.ofNat 8),
    ('f', Char.ofNat 12), ('n', '\n'), ('r', '\r'), ('t', '\t')]

/-- A character of a string: as it is, escaped with a letter, or given by one
sixteen-bit unit or two. -/
inductive SpellsChar : Char → String → Prop
  | plain {c : Char} :
      0x20 ≤ c.toNat → c ≠ '"' → c ≠ '\\' →
      SpellsChar c (String.singleton c)
  | short {letter c : Char} :
      (letter, c) ∈ shortEscapes →
      SpellsChar c (String.ofList ['\\', letter])
  | unit {c : Char} {digits : String} :
      SpellsUnit c.toNat digits →
      SpellsChar c ("\\u" ++ digits)
  | pair {c : Char} {high low : Nat} {highDigits lowDigits : String} :
      high < 0x400 → low < 0x400 →
      c.toNat = 0x10000 + high * 0x400 + low →
      SpellsUnit (0xd800 + high) highDigits →
      SpellsUnit (0xdc00 + low) lowDigits →
      SpellsChar c ("\\u" ++ highDigits ++ ("\\u" ++ lowDigits))

inductive SpellsChars : List Char → String → Prop
  | nil : SpellsChars [] ""
  | cons {c : Char} {rest : List Char} {text others : String} :
      SpellsChar c text →
      SpellsChars rest others →
      SpellsChars (c :: rest) (text ++ others)

def SpellsString (value text : String) : Prop :=
  ∃ body, SpellsChars value.toList body ∧ text = "\"" ++ body ++ "\""

theorem toList_hexPadded_succ (width n : Nat) :
    (Text.hexPadded (width + 2) n).toList =
      (Text.hexPadded (width + 1) (n / 16)).toList ++
        [Nat.digitChar (n % 16)] := by
  rw [Text.hexPadded, Text.hexPadded, String.toList_ofList,
    String.toList_ofList]
  by_cases small : n < 16
  · have zero : n / 16 = 0 := Nat.div_eq_of_lt small
    rw [zero, Nat.mod_eq_of_lt small, Nat.toDigits_of_lt_base small,
      Nat.toDigits_of_lt_base (by decide)]
    have zeros : List.replicate (width + 1) '0' =
        List.replicate width '0' ++ ['0'] :=
      List.replicate_succ'
    exact congrArg (· ++ [Nat.digitChar n]) zeros
  · rw [Nat.toDigits_of_base_le (by decide) (Nat.not_lt.mp small),
      List.length_append, ← List.append_assoc]
    congr 3
    simp only [List.length_singleton]
    omega

theorem toList_hexPadded_one {n : Nat} (small : n < 16) :
    (Text.hexPadded 1 n).toList = [Nat.digitChar n] := by
  rw [Text.hexPadded, String.toList_ofList, Nat.toDigits_of_lt_base small]
  rfl

theorem spellsUnit_hexPadded {unit : Nat} (small : unit < 0x10000) :
    SpellsUnit unit (Text.hexPadded 4 unit) := by
  refine ⟨unit / 16 / 16 / 16, unit / 16 / 16 % 16, unit / 16 % 16, unit % 16,
    by omega, by omega, by omega, by omega, by omega, ?_⟩
  apply String.toList_inj.mp
  rw [toList_hexPadded_succ, toList_hexPadded_succ, toList_hexPadded_succ,
    toList_hexPadded_one (by omega), String.toList_ofList]
  rfl

theorem spellsChar_numericEscape (c : Char) :
    SpellsChar c (numericEscape c) := by
  have bound : c.toNat < 0x110000 := by
    have valid := c.valid
    simp only [UInt32.isValidChar, Nat.isValidChar] at valid
    have same : c.toNat = c.val.toNat := rfl
    omega
  simp only [numericEscape]
  split
  · next small => exact .unit (spellsUnit_hexPadded small)
  · next large =>
      exact @SpellsChar.pair c ((c.toNat - 0x10000) / 0x400)
        ((c.toNat - 0x10000) % 0x400) _ _ (by omega) (by omega) (by omega)
        (spellsUnit_hexPadded (by omega)) (spellsUnit_hexPadded (by omega))

theorem short_of_eq {letter c d : Char} (same : c = d)
    (listed : (letter, d) ∈ shortEscapes) :
    SpellsChar c (String.ofList ['\\', letter]) :=
  same ▸ .short listed

theorem eq_ofNat_of_toNat_eq {c : Char} {n : Nat} (same : c.toNat = n) :
    c = Char.ofNat n := by
  rw [← same, Char.ofNat_toNat]

theorem spellsChar_charText (c : Char) : SpellsChar c (charText c) := by
  unfold charText
  split
  · next same => exact short_of_eq same (by decide)
  next notQuote =>
  split
  · next same => exact short_of_eq same (by decide)
  next notBackslash =>
  split
  · next same => exact short_of_eq same (by decide)
  split
  · next same => exact short_of_eq same (by decide)
  split
  · next same => exact short_of_eq same (by decide)
  split
  · next same => exact short_of_eq (eq_ofNat_of_toNat_eq same) (by decide)
  split
  · next same => exact short_of_eq (eq_ofNat_of_toNat_eq same) (by decide)
  split
  · next shown =>
      simp only [Bool.and_eq_true, decide_eq_true_eq] at shown
      exact .plain shown.1 notQuote notBackslash
  · exact spellsChar_numericEscape c

theorem spellsString_stringText (text : String) :
    SpellsString text (stringText text) := by
  refine ⟨_, ?_, rfl⟩
  induction text.toList with
  | nil => exact .nil
  | cons c rest inductionHypothesis =>
      rw [List.map_cons, String.join_cons]
      exact .cons (spellsChar_charText c) inductionHypothesis

/-! ## Data -/

/-- White space. -/
def IsGap (text : String) : Prop :=
  ∀ c ∈ text.toList, c ∈ [' ', '\n', '\r', '\t']

/-- Things with commas between them. -/
inductive SpellsListed {α : Type} (spells : α → String → Prop) :
    List α → String → Prop
  | none {gap : String} : IsGap gap → SpellsListed spells [] gap
  | last {item : α} {before text after : String} :
      IsGap before → spells item text → IsGap after →
      SpellsListed spells [item] (before ++ text ++ after)
  | more {item next : α} {rest : List α} {before text after others : String} :
      IsGap before → spells item text → IsGap after →
      SpellsListed spells (next :: rest) others →
      SpellsListed spells (item :: next :: rest)
        (before ++ text ++ after ++ "," ++ others)

mutual

/-- A text spells a piece of data. -/
inductive Spells : Datum → String → Prop
  | text {value text : String} :
      SpellsString value text → Spells (.text value) text
  | number (value : Int) : Spells (.number value) (toString value)
  | yes : Spells (.switch true) "true"
  | no : Spells (.switch false) "false"
  | list {items : List Datum} {body : String} :
      SpellsListed Spells items body →
      Spells (.list items) ("[" ++ body ++ "]")
  | record {members : List (String × Datum)} {body : String} :
      SpellsListed SpellsMember members body →
      Spells (.record members) ("\x7b" ++ body ++ "\x7d")

/-- A text spells a name with its value. -/
inductive SpellsMember : String × Datum → String → Prop
  | mk {name key text before after : String} {value : Datum} :
      SpellsString name key → IsGap before → IsGap after →
      Spells value text →
      SpellsMember (name, value) (key ++ before ++ ":" ++ after ++ text)

end

theorem isGap_empty : IsGap "" := by
  simp [IsGap]

theorem isGap_newLine (depth : Nat) : IsGap (newLine depth) := by
  intro c listed
  simp only [newLine, String.toList_append, List.mem_append,
    String.toList_ofList, List.mem_replicate] at listed
  rcases listed with lineFeed | ⟨_, rfl⟩
  · obtain rfl : c = '\n' := by simpa using lineFeed
    decide
  · decide

section Listed

variable {α : Type} {spells : α → String → Prop}

theorem spellsListed_joinWith {gap closing : String} (isGap : IsGap gap)
    (isClosing : IsGap closing) {items : List α} {texts : List String}
    (each : List.Forall₂ spells items texts) (filled : items ≠ []) :
    SpellsListed spells items
      (gap ++ Text.joinWith ("," ++ gap) texts ++ closing) := by
  induction each with
  | nil => exact absurd rfl filled
  | @cons item text rest others first later inductionHypothesis =>
      cases later with
      | nil => exact .last isGap first isClosing
      | @cons next nextText further furtherTexts second later =>
          have step : gap ++ Text.joinWith ("," ++ gap)
                (text :: nextText :: furtherTexts) ++ closing =
              gap ++ text ++ "" ++ "," ++
                (gap ++ Text.joinWith ("," ++ gap) (nextText :: furtherTexts) ++
                  closing) := by
            simp only [Text.joinWith, String.intercalate_cons_cons,
              String.append_assoc, String.append_empty]
          rw [step]
          exact .more isGap first isGap_empty
            (inductionHypothesis (List.cons_ne_nil _ _))

/-- Members between brackets, whatever the depth. -/
theorem exists_spellsListed_bracketed (opening closing : String) (depth : Nat)
    {items : List α} {texts : List String}
    (each : List.Forall₂ spells items texts) :
    ∃ body, SpellsListed spells items body ∧
      bracketed opening closing depth texts = opening ++ body ++ closing := by
  rw [bracketed]
  cases each with
  | nil =>
      refine ⟨"", .none isGap_empty, ?_⟩
      rw [String.append_empty]
      rfl
  | @cons item text rest others first later =>
      refine ⟨_, spellsListed_joinWith (isGap_newLine (depth + 1))
        (isGap_newLine depth) (.cons first later) (List.cons_ne_nil _ _), ?_⟩
      simp only [List.isEmpty_cons, String.append_assoc]
      rfl

end Listed

mutual

theorem spells_render (depth : Nat) :
    ∀ datum : Datum, Spells datum (render depth datum)
  | .text value => .text (spellsString_stringText value)
  | .number value => .number value
  | .switch true => .yes
  | .switch false => .no
  | .list items => by
      obtain ⟨body, spelt, shape⟩ := exists_spellsListed_bracketed "[" "]" depth
        (spells_renderItems (depth + 1) items)
      rw [render, shape]
      exact .list spelt
  | .record members => by
      obtain ⟨body, spelt, shape⟩ := exists_spellsListed_bracketed "\x7b" "\x7d"
        depth (spells_renderMembers (depth + 1) members)
      rw [render, shape]
      exact .record spelt

theorem spells_renderItems (depth : Nat) :
    ∀ items : List Datum, List.Forall₂ Spells items (renderItems depth items)
  | [] => .nil
  | item :: rest =>
      .cons (spells_render depth item) (spells_renderItems depth rest)

theorem spells_renderMembers (depth : Nat) :
    ∀ members : List (String × Datum),
      List.Forall₂ SpellsMember members (renderMembers depth members)
  | [] => .nil
  | (name, value) :: rest => by
      have blank : IsGap " " := by simp [IsGap]
      have first := SpellsMember.mk (spellsString_stringText name) isGap_empty
        blank (spells_render depth value)
      have colon : stringText name ++ "" ++ ":" ++ " " =
          stringText name ++ ": " := by
        rw [String.append_empty, String.append_assoc]
        rfl
      rw [colon] at first
      exact .cons first (spells_renderMembers depth rest)

end

/-- The text that is written for a piece of data spells it. -/
theorem spells_toText (datum : Datum) : Spells datum datum.toText :=
  spells_render 0 datum

end Datum

namespace Report

open Datum (Spells)

/-! ## The data of a report -/

/-- A record for a suggestion, with its text. -/
def TellsSuggestion (suggestion : Suggestion) (datum : Datum) : Prop :=
  ∃ text, suggestion.render = .ok text ∧
    datum = .record
      [("template", .text suggestion.template),
        ("params", .record (suggestion.settledParams.map fun entry =>
          (entry.1, .text entry.2))),
        ("text", .text text)]

def TellsIssue (issue : Issue) (datum : Datum) : Prop :=
  ∃ suggestions,
    List.Forall₂ TellsSuggestion issue.risk.suggestions suggestions ∧
      datum = .record
        [("file", .text issue.file), ("line", .number issue.line),
          ("column", .number issue.column),
          ("function", .text issue.function),
          ("argument", .number issue.argument),
          ("level", .text issue.risk.level.name),
          ("reason", .text issue.risk.reason), ("code", .text issue.code),
          ("suggestions", .list suggestions)]

/-- A record for a scan: the issues told in their order, how many they are, and
how many of each level. -/
def TellsScan (scan : Scan) (now : Moment) (told : List Issue)
    (levels : List (Level × Nat)) (datum : Datum) : Prop :=
  ∃ items, List.Forall₂ TellsIssue told items ∧
    datum = .record
      [("scan_date", .text (now.exactText "T")),
        ("scanner", .text "decimalguard v1.0.0"),
        ("files_scanned", .number scan.filesScanned),
        ("skipped_files", .list (scan.skipped.map fun skipped =>
          .record
            [("file", .text skipped.file), ("error", .text skipped.reason)])),
        ("cancelled", .switch scan.cancelled),
        ("total_issues", .number told.length),
        ("issues", .list items),
        ("summary", .record
          [("by_level", .record (levels.map fun entry =>
            (entry.1.name, .number entry.2)))]),
        ("remediation", .list (remediation.map .text))]

theorem tellsSuggestion_of_ok {suggestion : Suggestion} {datum : Datum}
    (made : suggestionDatum suggestion = .ok datum) :
    TellsSuggestion suggestion datum := by
  obtain ⟨text, isText, rfl⟩ := Outcome.map_eq_ok_iff.mp made
  exact ⟨text, Outcome.mapError_eq_ok_iff.mp isText, rfl⟩

theorem tellsIssue_of_ok {issue : Issue} {datum : Datum}
    (made : issueDatum issue = .ok datum) : TellsIssue issue datum := by
  obtain ⟨suggestions, areMade, rfl⟩ := Outcome.map_eq_ok_iff.mp made
  exact ⟨suggestions,
    Outcome.forall₂_of_mapM (fun _ _ => tellsSuggestion_of_ok) areMade, rfl⟩

/-- The text of a report as data spells a record for its scan. -/
theorem json_tells {scan : Scan} {minLevel : String} {now : Moment}
    {told : List Issue} {text : String}
    (isChosen : chosen minLevel scan = .ok told)
    (reported : json scan minLevel now = .ok text) :
    ∃ datum, datum.Spells text ∧
      TellsScan scan now told (levelCounts told) datum := by
  obtain ⟨datum, made, rfl⟩ := Outcome.map_eq_ok_iff.mp reported
  refine ⟨datum, datum.spells_toText, ?_⟩
  obtain ⟨issues, again, made⟩ := Outcome.bind_eq_ok_iff.mp made
  obtain rfl : told = issues := by
    rw [isChosen, Except.ok.injEq] at again
    exact again
  obtain ⟨items, areMade, made⟩ := Outcome.bind_eq_ok_iff.mp made
  cases made
  exact ⟨items, Outcome.forall₂_of_mapM (fun _ _ => tellsIssue_of_ok) areMade,
    rfl⟩

end Report

end CallAudit
