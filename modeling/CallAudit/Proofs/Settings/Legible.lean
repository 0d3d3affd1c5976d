import CallAudit.Proofs.Settings.Usable

/-!
# Legible settings files

A settings file is legible when reading it comes to settings or to a fault of
the settings.  Three things make it illegible: bytes that cannot be decoded, a
value that cannot be worked out, and a whole number with too many digits in a
value whose text a setting asks for.

* `Yaml.Writes` tells how the text of a value depends on the whole numbers in
  it, and `Settings.Reads` how an entry is answered.
* The entries are read in a fixed order, so a number that is too long does no
  harm behind an entry of the wrong kind (`Settings.IsStuck`).
* `Settings.ofContent_answers_iff` puts this together.
-/

namespace CallAudit

namespace Yaml

/-! ## The text of a value -/

mutual

def Value.numbers : Value → List Int
  | .whole number => [number]
  | .list items => numbersOf items
  | .pairs items => numbersOfPairs items
  | .set items => numbersOf items
  | .mapping entries => numbersOfPairs entries
  | _ => []

def numbersOf : List Value → List Int
  | [] => []
  | item :: rest => item.numbers ++ numbersOf rest

def numbersOfPairs : List (Value × Value) → List Int
  | [] => []
  | (left, right) :: rest =>
      left.numbers ++ (right.numbers ++ numbersOfPairs rest)

end

/-- No whole number has too many digits to be written. -/
def AreShort (numbers : List Int) : Prop :=
  ∀ number ∈ numbers, number.natAbs < Nat.pow 10 longestNumber

theorem areShort_nil : AreShort [] := by
  intro number listed
  exact absurd listed List.not_mem_nil

theorem areShort_append {first second : List Int} :
    AreShort (first ++ second) ↔ AreShort first ∧ AreShort second :=
  List.forall_mem_append

/-- A computation that writes whole numbers: it fails exactly when one of them
is too long. -/
structure Writes {α : Type} (numbers : List Int)
    (computation : Except ValueFault α) : Prop where
  succeeds : AreShort numbers → Succeeds computation
  fails : ¬ AreShort numbers → computation = .error .tooManyDigits

namespace Writes

variable {α β : Type} {numbers first second : List Int}
  {computation : Except ValueFault α}

theorem pure (value : α) : Writes [] (.ok value : Except ValueFault α) where
  succeeds _ := ⟨value, rfl⟩
  fails long := absurd areShort_nil long

theorem map (writes : Writes numbers computation) (f : α → β) :
    Writes numbers (computation.map f) where
  succeeds short := (writes.succeeds short).map f
  fails long := by
    rw [writes.fails long]
    rfl

theorem bind {next : α → Except ValueFault β}
    (start : Writes first computation)
    (rest : ∀ value, Writes second (next value)) :
    Writes (first ++ second) (computation.bind next) where
  succeeds short := by
    obtain ⟨shortFirst, shortSecond⟩ := areShort_append.mp short
    obtain ⟨value, rfl⟩ := start.succeeds shortFirst
    exact (rest value).succeeds shortSecond
  fails long := by
    by_cases shortFirst : AreShort first
    · obtain ⟨value, rfl⟩ := start.succeeds shortFirst
      refine (rest value).fails ?_
      intro shortSecond
      exact long (areShort_append.mpr ⟨shortFirst, shortSecond⟩)
    · rw [start.fails shortFirst]
      rfl

end Writes

theorem writes_wholeText (number : Int) :
    Writes [number] (wholeText number) := by
  have short : AreShort [number] ↔ number.natAbs < Nat.pow 10 longestNumber :=
    List.forall_mem_singleton
  constructor
  · intro isShort
    rw [wholeText, if_neg (Nat.not_le.mpr (short.mp isShort))]
    exact ⟨_, rfl⟩
  · intro long
    rw [wholeText, if_pos (Nat.not_lt.mp (mt short.mpr long))]

mutual

theorem Value.writes_shown : ∀ value : Value, Writes value.numbers value.shown
  | .null => .pure _
  | .switch _ => .pure _
  | .whole number => writes_wholeText number
  | .real _ => .pure _
  | .text _ => .pure _
  | .bytes _ => .pure _
  | .date _ => .pure _
  | .moment _ _ => .pure _
  | .list items => (writes_shownItems items).map _
  | .pairs items => (writes_shownPairs items).map _
  | .set items => (writes_shownItems items).map _
  | .mapping entries => (writes_shownEntries entries).map _
  | .itself _ => .pure _

theorem writes_shownItems :
    ∀ items : List Value, Writes (numbersOf items) (shownItems items)
  | [] => .pure []
  | item :: rest =>
      item.writes_shown.bind fun _ => (writes_shownItems rest).map _

theorem writes_shownPairs : ∀ items : List (Value × Value),
    Writes (numbersOfPairs items) (shownPairs items)
  | [] => .pure []
  | (left, right) :: rest =>
      left.writes_shown.bind fun _ =>
        right.writes_shown.bind fun _ => (writes_shownPairs rest).map _

theorem writes_shownEntries : ∀ entries : List (Value × Value),
    Writes (numbersOfPairs entries) (shownEntries entries)
  | [] => .pure []
  | (key, value) :: rest =>
      key.writes_shown.bind fun _ =>
        value.writes_shown.bind fun _ => (writes_shownEntries rest).map _

end

theorem Value.writes_asText (value : Value) :
    Writes value.numbers value.asText := by
  cases value with
  | text content => exact .pure _
  | date day => exact .pure _
  | moment point offset => exact .pure _
  | _ => exact writes_shown _

theorem writes_texts : ∀ items : List Value,
    Writes (numbersOf items) (items.mapM Value.asText)
  | [] => .pure []
  | item :: rest => by
      rw [List.mapM_cons]
      exact item.writes_asText.bind fun _ => (writes_texts rest).map _

end Yaml

namespace Settings

open Yaml (AreShort Writes)

/-! ## The entry for a setting -/

/-- The ways in which the entry for a setting is read. -/
inductive EntryKind where
  | text
  | names
  | patterns
  | switch

/-- The settings in the order in which they are looked at. -/
def readingOrder : List (String × EntryKind) :=
  [("source_root", .text), ("watched_functions", .names),
    ("safe_conversion_functions", .names), ("file_globs", .patterns),
    ("exclude_globs", .patterns), ("fail_on_high", .switch),
    ("min_level", .text)]

inductive IsList : Yaml.Value → Prop
  | list (items : List Yaml.Value) : IsList (.list items)
  | pairs (items : List (Yaml.Value × Yaml.Value)) : IsList (.pairs items)

/-- There is an entry for a setting, and it is of the wrong kind. -/
def IsRefused (entries : Entries) : String × EntryKind → Prop
  | (_, .text) => False
  | (setting, .names) =>
      ∃ value, given? entries setting = some value ∧ ¬ IsList value
  | (setting, .patterns) =>
      ∃ value, given? entries setting = some value ∧ ¬ IsList value ∧
        ∀ text, value ≠ .text text
  | (setting, .switch) =>
      ∃ value, entry? entries setting = some value ∧
        ∀ on, value ≠ .switch on

/-- The whole numbers in the values whose texts a setting takes. -/
def numbersAsked (entries : Entries) : String × EntryKind → List Int
  | (setting, .text) => ((given? entries setting).map Yaml.Value.numbers).getD []
  | (setting, .names) | (setting, .patterns) =>
      match given? entries setting with
      | some (.list items) => Yaml.numbersOf items
      | some (.pairs items) => Yaml.numbersOfPairs items
      | _ => []
  | (_, .switch) => []

/-- How an entry is answered: one of the wrong kind with a fault of the
settings, and any other exactly when no number in it is too long. -/
structure Reads {α : Type} (refused : Prop) (numbers : List Int)
    (answer : Except LoadFault α) : Prop where
  refuses : refused → ∃ fault, answer = .error (.settings fault)
  succeeds : ¬ refused → AreShort numbers → Succeeds answer
  fails : ¬ refused → ¬ AreShort numbers →
    answer = .error (.value .tooManyDigits)

namespace Reads

variable {α β : Type} {refused : Prop} {numbers : List Int}
  {answer : Except LoadFault α}

theorem ofWrites {computation : Except Yaml.ValueFault α}
    (writes : Writes numbers computation) (taken : ¬ refused) :
    Reads refused numbers (computation.mapError .value) where
  refuses isRefused := absurd isRefused taken
  succeeds _ short := (writes.succeeds short).mapError _
  fails _ long := by
    rw [writes.fails long]
    rfl

theorem map (reads : Reads refused numbers answer) (f : α → β) :
    Reads refused numbers (answer.map f) where
  refuses isRefused := by
    obtain ⟨fault, rfl⟩ := reads.refuses isRefused
    exact ⟨fault, rfl⟩
  succeeds taken short := (reads.succeeds taken short).map f
  fails taken long := by
    rw [reads.fails taken long]
    rfl

theorem accepted (value : α) (taken : ¬ refused) :
    Reads refused [] (.ok value : Except LoadFault α) :=
  ofWrites (.pure value) taken

theorem ofRefused (fault : SettingsFault) (isRefused : refused) :
    Reads refused numbers (.error (.settings fault) : Except LoadFault α) where
  refuses _ := ⟨fault, rfl⟩
  succeeds taken := absurd isRefused taken
  fails taken := absurd isRefused taken

end Reads

section Entry

variable (entries : Entries) (setting : String)

theorem reads_textEntry (fallback : String) :
    Reads (IsRefused entries (setting, .text))
      (numbersAsked entries (setting, .text))
      (textEntry entries setting fallback) := by
  rw [textEntry, numbersAsked]
  cases given? entries setting with
  | none => exact .accepted _ id
  | some value => exact .ofWrites value.writes_asText id

theorem reads_levelEntry (fallback : String) :
    Reads (IsRefused entries ("min_level", .text))
      (numbersAsked entries ("min_level", .text))
      (levelEntry entries fallback) := by
  rw [levelEntry, numbersAsked]
  cases given? entries "min_level" with
  | none => exact .accepted _ id
  | some value =>
      exact (Reads.ofWrites value.writes_asText id).map Text.upper

theorem reads_namesEntry (fallback : Names) :
    Reads (IsRefused entries (setting, .names))
      (numbersAsked entries (setting, .names))
      (namesEntry entries setting fallback) := by
  rw [namesEntry, numbersAsked, IsRefused]
  cases given? entries setting with
  | none => exact .accepted _ (by simp)
  | some value =>
      have refusedIff : (∃ other, some value = some other ∧ ¬ IsList other) ↔
          ¬ IsList value := by
        simp
      rw [refusedIff]
      cases value with
      | list items =>
          exact (Reads.ofWrites (Yaml.writes_texts items)
            (not_not_intro (.list items))).map Names.ofList
      | pairs items =>
          exact (Reads.ofWrites (Yaml.writes_shownPairs items)
            (not_not_intro (.pairs items))).map Names.ofList
      | _ =>
          exact .ofRefused _ (fun isList => by cases isList)

theorem reads_patternsEntry (fallback : List String) :
    Reads (IsRefused entries (setting, .patterns))
      (numbersAsked entries (setting, .patterns))
      (patternsEntry entries setting fallback) := by
  rw [patternsEntry, numbersAsked, IsRefused]
  cases given? entries setting with
  | none => exact .accepted _ (by simp)
  | some value =>
      have refusedIff :
          (∃ other, some value = some other ∧ ¬ IsList other ∧
              ∀ text, other ≠ .text text) ↔
            ¬ IsList value ∧ ∀ text, value ≠ .text text := by
        simp
      rw [refusedIff]
      cases value with
      | text pattern =>
          exact .accepted _ (fun refused => refused.2 pattern rfl)
      | list items =>
          exact .ofWrites (Yaml.writes_texts items)
            (fun refused => refused.1 (.list items))
      | pairs items =>
          exact .ofWrites (Yaml.writes_shownPairs items)
            (fun refused => refused.1 (.pairs items))
      | _ =>
          exact .ofRefused _
            ⟨(fun isList => by cases isList), (fun _ same => by cases same)⟩

theorem reads_switchEntry (fallback : Bool) :
    Reads (IsRefused entries (setting, .switch))
      (numbersAsked entries (setting, .switch))
      (switchEntry entries setting fallback) := by
  rw [switchEntry, numbersAsked, IsRefused]
  cases entry? entries setting with
  | none => exact .accepted _ (by simp)
  | some value =>
      have refusedIff :
          (∃ other, some value = some other ∧ ∀ on, other ≠ .switch on) ↔
            ∀ on, value ≠ .switch on := by
        simp
      rw [refusedIff]
      cases value with
      | switch on => exact .accepted _ (fun refused => refused on rfl)
      | _ => exact .ofRefused _ (fun _ same => by cases same)

end Entry

/-! ## All entries in their order -/

/-- Some setting asks for the text of a number that is too long, and no entry
that is looked at before is of the wrong kind. -/
def IsStuck (entries : Entries) (order : List (String × EntryKind)) : Prop :=
  ∃ before setting after, order = before ++ setting :: after ∧
    ¬ AreShort (numbersAsked entries setting) ∧
    ∀ earlier ∈ before, ¬ IsRefused entries earlier

section Order

variable {entries : Entries} {setting : String × EntryKind}
  {rest : List (String × EntryKind)}

theorem not_isStuck_nil : ¬ IsStuck entries [] := by
  rintro ⟨before, setting, after, shape, _⟩
  simp at shape

theorem isStuck_cons_iff :
    IsStuck entries (setting :: rest) ↔
      ¬ AreShort (numbersAsked entries setting) ∨
        ¬ IsRefused entries setting ∧ IsStuck entries rest := by
  constructor
  · rintro ⟨before, stuck, after, shape, long, taken⟩
    cases before with
    | nil =>
        obtain ⟨rfl, rfl⟩ := List.cons.inj shape
        exact Or.inl long
    | cons head before =>
        obtain ⟨rfl, rfl⟩ := List.cons.inj shape
        obtain ⟨first, later⟩ := List.forall_mem_cons.mp taken
        exact Or.inr ⟨first, before, stuck, after, rfl, long, later⟩
  · rintro (long | ⟨first, before, stuck, after, rfl, long, taken⟩)
    · exact ⟨[], setting, rest, rfl, long, by simp⟩
    · exact ⟨setting :: before, stuck, after, rfl, long,
        List.forall_mem_cons.mpr ⟨first, taken⟩⟩

theorem not_isRefused_of_absent {name : String} {kind : EntryKind}
    (absent : entry? entries name = none) :
    ¬ IsRefused entries (name, kind) := by
  have unset : given? entries name = none := by
    rw [given?, absent]
  cases kind with
  | text => exact id
  | names | patterns =>
      rintro ⟨value, given, _⟩
      rw [unset] at given
      cases given
  | switch =>
      rintro ⟨value, found, _⟩
      rw [absent] at found
      cases found

theorem areShort_of_not_isList {name : String} {value : Yaml.Value}
    (given : given? entries name = some value) (notList : ¬ IsList value) :
    AreShort (numbersAsked entries (name, .names)) := by
  rw [numbersAsked, given]
  cases value with
  | list items => exact absurd (.list items) notList
  | pairs items => exact absurd (.pairs items) notList
  | _ => exact Yaml.areShort_nil

/-- A refused entry asks for no text. -/
theorem areShort_of_isRefused (refused : IsRefused entries setting) :
    AreShort (numbersAsked entries setting) := by
  obtain ⟨name, kind⟩ := setting
  cases kind with
  | text => exact refused.elim
  | switch => exact Yaml.areShort_nil
  | names =>
      obtain ⟨value, given, notList⟩ := refused
      exact areShort_of_not_isList given notList
  | patterns =>
      obtain ⟨value, given, notList, _⟩ := refused
      exact areShort_of_not_isList given notList

end Order

/-- A fault that is none of the settings. -/
def Escapes {α : Type} (answer : Except LoadFault α) : Prop :=
  ∃ fault, answer = .error fault ∧ ∀ reason, fault ≠ .settings reason

section Escapes

variable {α β : Type} {answer : Except LoadFault α}

theorem not_escapes_ok (value : α) :
    ¬ Escapes (.ok value : Except LoadFault α) := by
  rintro ⟨fault, same, _⟩
  cases same

theorem not_escapes_settings (fault : SettingsFault) :
    ¬ Escapes (.error (.settings fault) : Except LoadFault α) := by
  rintro ⟨other, same, none⟩
  cases same
  exact none fault rfl

/-- What is answered does not escape, and the other way round. -/
theorem answered_iff_not_escapes :
    ((∃ value, answer = .ok value) ∨
        ∃ fault, answer = .error (.settings fault)) ↔ ¬ Escapes answer := by
  cases answer with
  | ok value => simp [not_escapes_ok]
  | error fault =>
      cases fault with
      | settings reason => simp [not_escapes_settings]
      | encoding => simp [Escapes]
      | value reason => simp [Escapes]

theorem Reads.escapes_bind {entries : Entries} {setting : String × EntryKind}
    {rest : List (String × EntryKind)} {next : α → Except LoadFault β}
    (reads : Reads (IsRefused entries setting) (numbersAsked entries setting)
      answer)
    (later : ∀ value, Escapes (next value) ↔ IsStuck entries rest) :
    Escapes (answer.bind next) ↔ IsStuck entries (setting :: rest) := by
  rw [isStuck_cons_iff]
  by_cases refused : IsRefused entries setting
  · obtain ⟨fault, rfl⟩ := reads.refuses refused
    have short := areShort_of_isRefused refused
    simp only [short, refused, not_true, false_and, or_false, iff_false]
    exact not_escapes_settings fault
  · by_cases short : AreShort (numbersAsked entries setting)
    · obtain ⟨value, rfl⟩ := reads.succeeds refused short
      simp only [short, refused, not_true, not_false_iff, true_and, false_or]
      exact later value
    · rw [reads.fails refused short]
      simp only [short, not_false_iff, true_or, iff_true]
      exact ⟨_, rfl, by simp⟩

end Escapes

theorem escapes_ofEntries_iff (path : String) (entries : Entries) :
    Escapes (ofEntries path entries) ↔ IsStuck entries readingOrder := by
  refine (reads_textEntry entries _ _).escapes_bind fun _ => ?_
  refine (reads_namesEntry entries _ _).escapes_bind fun _ => ?_
  refine (reads_namesEntry entries _ _).escapes_bind fun _ => ?_
  refine (reads_patternsEntry entries _ _).escapes_bind fun _ => ?_
  refine (reads_patternsEntry entries _ _).escapes_bind fun _ => ?_
  refine (reads_switchEntry entries _ _).escapes_bind fun _ => ?_
  refine (reads_levelEntry entries _).escapes_bind fun _ => ?_
  exact iff_of_false (not_escapes_ok _) not_isStuck_nil

/-- The check of settings lets nothing escape. -/
theorem escapes_ofMapping_iff (path : String) (entries : Entries) :
    Escapes (ofMapping path entries) ↔ IsStuck entries readingOrder := by
  rw [← escapes_ofEntries_iff path entries, ofMapping]
  cases ofEntries path entries with
  | error fault => exact Iff.rfl
  | ok settings =>
      refine iff_of_false ?_ (not_escapes_ok settings)
      simp only [Except.bind]
      cases settings.checked with
      | ok passed => exact not_escapes_ok passed
      | error fault => exact not_escapes_settings fault

theorem not_isStuck_of_void : ¬ IsStuck [] readingOrder := by
  rintro ⟨before, ⟨setting, kind⟩, after, _, long, _⟩
  apply long
  cases kind <;> exact Yaml.areShort_nil

/-! ## The value of a file -/

/-- No setting asks for a text that is not there.  A value that is no mapping is
answered anyway. -/
def IsReadable (value : Yaml.Value) : Prop :=
  ∀ entries, value = .mapping entries → ¬ IsStuck entries readingOrder

theorem escapes_ofValue_iff (path : String) (value : Yaml.Value) :
    Escapes (ofValue path value) ↔ ¬ IsReadable value := by
  have void : ¬ Escapes (ofMapping path []) := by
    rw [escapes_ofMapping_iff]
    exact not_isStuck_of_void
  cases value with
  | mapping entries =>
      have shape : ofValue path (.mapping entries) = ofMapping path entries := by
        cases entries <;> rfl
      rw [shape, escapes_ofMapping_iff, IsReadable]
      simp
  | _ =>
      refine iff_of_false ?_ (not_not_intro fun entries same => by cases same)
      unfold ofValue
      split
      · exact void
      · exact not_escapes_settings _

/-- A file is legible when it cannot be read, breaches the format, or holds a
value whose entries can be read. -/
inductive IsLegible (read : ValueReader) (path : String)
    (content : ByteArray) : Prop
  | unreadable {detail : String} :
      read path content = .error (.unreadable detail) →
      IsLegible read path content
  | malformed {detail : String} :
      read path content = .error (.malformed detail) →
      IsLegible read path content
  | value {value : Yaml.Value} :
      read path content = .ok value →
      IsReadable value →
      IsLegible read path content

section Legible

variable {read : ValueReader} {path : String} {content : ByteArray}

theorem isLegible_iff_of_value {value : Yaml.Value}
    (holds : read path content = .ok value) :
    IsLegible read path content ↔ IsReadable value := by
  constructor
  · rintro (unread | breached | ⟨again, readable⟩)
    · rw [holds] at unread
      cases unread
    · rw [holds] at breached
      cases breached
    · rw [holds, Except.ok.injEq] at again
      exact again ▸ readable
  · exact .value holds

theorem not_isLegible_of_fault {fault : Yaml.ReadFault}
    (fails : read path content = .error fault)
    (other : ∀ detail, fault ≠ .unreadable detail ∧ fault ≠ .malformed detail) :
    ¬ IsLegible read path content := by
  rintro (unread | breached | ⟨holds, _⟩)
  · rw [fails, Except.error.injEq] at unread
    exact (other _).1 unread
  · rw [fails, Except.error.injEq] at breached
    exact (other _).2 breached
  · rw [fails] at holds
    cases holds

theorem escapes_ofContent_iff :
    Escapes (ofContent read path content) ↔ ¬ IsLegible read path content := by
  cases holds : read path content with
  | ok value =>
      rw [ofContent_of_read holds, escapes_ofValue_iff,
        isLegible_iff_of_value holds]
  | error fault =>
      rw [ofContent, holds]
      cases fault with
      | unreadable detail =>
          exact iff_of_false (not_escapes_settings _)
            (not_not_intro (.unreadable holds))
      | malformed detail =>
          exact iff_of_false (not_escapes_settings _)
            (not_not_intro (.malformed holds))
      | encoding =>
          exact iff_of_true ⟨.encoding, rfl, by simp⟩
            (not_isLegible_of_fault holds (by simp))
      | value reason =>
          exact iff_of_true ⟨.value reason, rfl, by simp⟩
            (not_isLegible_of_fault holds (by simp))

/-- A file answers with settings or with a fault of the settings exactly when
its content is legible. -/
theorem ofContent_answers_iff :
    ((∃ settings, ofContent read path content = .ok settings) ∨
        ∃ fault, ofContent read path content = .error (.settings fault)) ↔
      IsLegible read path content := by
  rw [answered_iff_not_escapes, escapes_ofContent_iff, Classical.not_not]

end Legible

end Settings

/-! ## Decoding -/

/-- What is known of the decoding of settings files.  Their bytes are taken as
UTF-8, and all of them are taken before there is a value.  A file comes in
pieces of 4096 characters, and the first piece is decoded before any of it is
parsed. -/
structure ValueReader.Decodes (read : ValueReader) : Prop where
  takesAll : ∀ {path content value},
    read path content = .ok value → content.IsValidUTF8
  startsDecoded : ∀ {path content},
    content.size ≤ 4096 → ¬ content.IsValidUTF8 →
      (∀ detail, read path content ≠ .error (.unreadable detail)) →
        read path content = .error .encoding

namespace ValueReader.Decodes

variable {read : ValueReader} {path : String} {content : ByteArray}
  (decodes : read.Decodes) (invalid : ¬ content.IsValidUTF8)

include decodes invalid

theorem no_settings (settings : Settings) :
    Settings.ofContent read path content ≠ .ok settings := by
  intro made
  rw [Settings.ofContent] at made
  split at made
  · simp at made
  · next value holds => exact invalid (decodes.takesAll holds)

theorem not_isLegible (opened : ∀ detail,
      read path content ≠ .error (.unreadable detail))
    (small : content.size ≤ 4096) :
    ¬ Settings.IsLegible read path content := by
  have undecoded := decodes.startsDecoded small invalid opened
  exact Settings.not_isLegible_of_fault undecoded (by simp)

end ValueReader.Decodes

end CallAudit
