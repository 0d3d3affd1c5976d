import CallAudit.Proofs.Risk.Access

/-!
# Quoted keys

One string literal can stand between the brackets of an access and as a key of
the pattern that takes the accessed property apart.  The two are read in
different ways: an access drops the first and the last character of the literal,
an entry of a pattern drops all quotation marks at both ends.

The readings agree exactly on literals whose body neither begins nor ends with a
quotation mark (`stripsTo_literal_iff`).  For any other body no quoted key of a
pattern gives the property a default, and the access stays graded low although
the pattern has a default for it.
-/

namespace CallAudit

/-! ## Literals -/

/-- The string literal with a given body: the body between two equal quotation
marks. -/
def literal (quote : Char) (body : String) : String :=
  String.ofList (quote :: (body.toList ++ [quote]))

/-- A text with no quotation mark at either end. -/
def HasPlainEnds (body : String) : Prop :=
  (∀ c ∈ body.toList.head?, isQuote c = false) ∧
    ∀ c ∈ body.toList.getLast?, isQuote c = false

@[simp]
theorem unquoted_literal (quote : Char) (body : String) :
    unquoted (literal quote body) = body := by
  simp [unquoted, literal]

/-- What is left after stripping never has a quotation mark at an end. -/
theorem StripsTo.hasPlainEnds {text key : String} (strips : StripsTo text key) :
    HasPlainEnds key := by
  obtain ⟨_, _, _, _, _, first, last⟩ := strips
  exact ⟨first, last⟩

theorem stripsTo_literal_iff {quote : Char} (marks : isQuote quote = true)
    (body : String) :
    StripsTo (literal quote body) body ↔ HasPlainEnds body := by
  constructor
  · intro strips
    exact strips.hasPlainEnds
  · rintro ⟨first, last⟩
    have shape : (literal quote body).toList =
        [quote] ++ body.toList ++ [quote] := by
      simp [literal]
    exact ⟨[quote], [quote], shape, by simpa using marks, by simpa using marks,
      first, last⟩

/-! ## One literal in two places -/

/-- An entry like `rate = 0` for the property with a given key. -/
def Node.IsShorthandFor (entry : Node) (key : String) : Prop :=
  entry.kind = "object_assignment_pattern" ∧
    ∃ left, entry.child? "left" = some left ∧ left.text = key

/-- An entry like `'rate': base = 0`, whose key is written as a given token. -/
structure Node.IsPairWritten (entry : Node) (token : String) : Prop where
  isPair : entry.kind = "pair_pattern"
  written : ∃ name, entry.child? "key" = some name ∧ name.text = token
  defaulted : ∃ value, entry.child? "value" = some value ∧
    value.kind = "assignment_pattern"

/-- An access like `item['rate']` without short-circuiting, with a given token
between the brackets, below a declarator that takes an object apart. -/
structure Site.IsIndexedBy (site : Site) (token : String) (pattern : Node) :
    Prop where
  isSubscript : site.kind = "subscript_expression"
  index : ∃ index, site.node.child? "index" = some index ∧
    index.kind = "string" ∧ index.text = token
  unguarded : ¬ site.ShortCircuits
  declared : ∃ declarator, site.HasNearestDeclarator declarator ∧
    declarator.child? "name" = some pattern
  isPattern : pattern.kind = "object_pattern"

/-- A key that ends in a quotation mark is never that of a quoted entry. -/
theorem Node.DefaultsKey.plain_or_shorthand {entry : Node} {key : String}
    (defaults : entry.DefaultsKey key) :
    HasPlainEnds key ∨ entry.IsShorthandFor key := by
  cases defaults with
  | shorthand isShorthand found =>
      exact Or.inr ⟨isShorthand, _, found, rfl⟩
  | pair _ _ strips _ _ =>
      exact Or.inl strips.hasPlainEnds

theorem Node.IsShorthandFor.defaultsKey {entry : Node} {key : String}
    (shorthand : entry.IsShorthandFor key) : entry.DefaultsKey key := by
  obtain ⟨isShorthand, left, found, rfl⟩ := shorthand
  exact .shorthand isShorthand found

theorem Node.IsPairWritten.defaultsKey {entry : Node} {quote : Char}
    {body : String} (pair : entry.IsPairWritten (literal quote body))
    (marks : isQuote quote = true) (plain : HasPlainEnds body) :
    entry.DefaultsKey body := by
  obtain ⟨isPair, ⟨name, named, written⟩, value, valued, assigned⟩ := pair
  have strips : StripsTo name.text body := by
    rw [written]
    exact (stripsTo_literal_iff marks body).mpr plain
  exact .pair isPair named strips valued assigned

namespace Site

variable {site : Site} {pattern : Node}

theorem HasNearestDeclarator.unique {declarator other : Node}
    (nearest : site.HasNearestDeclarator declarator)
    (again : site.HasNearestDeclarator other) : declarator = other := by
  rw [← find?_declarator_iff] at nearest again
  rw [nearest] at again
  exact Option.some.inj again

theorem IsIndexedBy.isAccess {token : String}
    (indexed : site.IsIndexedBy token pattern) : site.kind ∈ memberKinds := by
  rw [indexed.isSubscript]
  decide

theorem IsIndexedBy.hasKey_iff {token key : String}
    (indexed : site.IsIndexedBy token pattern) :
    site.node.HasKey key ↔ key = unquoted token := by
  obtain ⟨index, found, isLiteral, rfl⟩ := indexed.index
  have subscript : site.node.kind = "subscript_expression" :=
    indexed.isSubscript
  constructor
  · intro hasKey
    cases hasKey with
    | property isMember _ =>
        rw [subscript] at isMember
        exact absurd isMember (by decide)
    | index _ again _ =>
        rw [found] at again
        rw [Option.some.inj again]
  · rintro rfl
    exact .index subscript found isLiteral

/-- The defaults for such an access are those in the pattern around it. -/
theorem IsIndexedBy.isDefaulted_iff {token : String}
    (indexed : site.IsIndexedBy token pattern) :
    site.IsDefaulted ↔
      ∃ entry ∈ pattern.namedChildren, entry.DefaultsKey (unquoted token) := by
  obtain ⟨declarator, nearest, named⟩ := indexed.declared
  constructor
  · rintro ⟨key, other, found, hasKey, otherNearest, otherNamed, _, entry,
      listed, defaults⟩
    obtain rfl := indexed.hasKey_iff.mp hasKey
    obtain rfl := nearest.unique otherNearest
    rw [named] at otherNamed
    obtain rfl := Option.some.inj otherNamed
    exact ⟨entry, listed, defaults⟩
  · rintro ⟨entry, listed, defaults⟩
    exact ⟨unquoted token, declarator, pattern, indexed.hasKey_iff.mpr rfl,
      nearest, named, indexed.isPattern, entry, listed, defaults⟩

end Site

/-! ## The verdict -/

namespace Verdict

variable (vocabulary : Vocabulary) (resolve : Site → Option Binding)

/-- An access is harmless or graded low, by what its declarator says about the
key between the brackets. -/
theorem ofArgument_of_isIndexedBy {site : Site} {token : String}
    {pattern : Node} (indexed : site.IsIndexedBy token pattern) :
    (site.IsDefaulted ∧ ofArgument vocabulary resolve site = .harmless) ∨
      (¬ site.IsDefaulted ∧
        (ofArgument vocabulary resolve site).level = .low) := by
  have guarded := ofAccess_guarded_iff indexed.isAccess
  rw [or_iff_right indexed.unguarded] at guarded
  rw [ofArgument_of_access vocabulary resolve indexed.isAccess, ofAccess]
  by_cases defaulted : site.IsDefaulted
  · rw [if_pos (guarded.mpr defaulted)]
    exact Or.inl ⟨defaulted, rfl⟩
  · rw [if_neg (mt guarded.mp defaulted)]
    exact Or.inr ⟨defaulted, rfl⟩

/-- An access whose literal is also a key with a default in the pattern around it
is harmless exactly when the body of the literal has no quotation mark at either
end, or a shorthand entry happens to have that body as its name.  Otherwise the
default is missed and the access is graded low. -/
theorem repeated_literal_harmless_iff
    {site : Site} {pattern entry : Node} {quote : Char} {body : String}
    (marks : isQuote quote = true)
    (indexed : site.IsIndexedBy (literal quote body) pattern)
    (listed : entry ∈ pattern.namedChildren)
    (repeated : entry.IsPairWritten (literal quote body)) :
    (ofArgument vocabulary resolve site = .harmless ↔
        HasPlainEnds body ∨
          ∃ other ∈ pattern.namedChildren, other.IsShorthandFor body) ∧
      (ofArgument vocabulary resolve site ≠ .harmless →
        (ofArgument vocabulary resolve site).level = .low) := by
  have defaultedIff : site.IsDefaulted ↔
      HasPlainEnds body ∨
        ∃ other ∈ pattern.namedChildren, other.IsShorthandFor body := by
    rw [indexed.isDefaulted_iff, unquoted_literal]
    constructor
    · rintro ⟨other, isListed, defaults⟩
      rcases defaults.plain_or_shorthand with plain | shorthand
      · exact Or.inl plain
      · exact Or.inr ⟨other, isListed, shorthand⟩
    · rintro (plain | ⟨other, isListed, shorthand⟩)
      · exact ⟨entry, listed, repeated.defaultsKey marks plain⟩
      · exact ⟨other, isListed, shorthand.defaultsKey⟩
  rw [← defaultedIff]
  rcases ofArgument_of_isIndexedBy vocabulary resolve indexed with
    ⟨defaulted, harmless⟩ | ⟨missed, low⟩
  · exact ⟨iff_of_true harmless defaulted, fun risky => absurd harmless risky⟩
  · have risky : ofArgument vocabulary resolve site ≠ .harmless := by
      intro harmless
      rw [harmless] at low
      cases low
    exact ⟨iff_of_false risky missed, fun _ => low⟩

/-- The entry `'rate': base = 0` of a pattern, with any token as its key. -/
def repeatedEntry (token : String) : Node :=
  .node { kind := "pair_pattern" }
    [.node { kind := "string", field := some "key", text := token } [],
      .node { kind := "assignment_pattern", field := some "value" } []]

def repeatedPattern (token : String) : Node :=
  .node { kind := "object_pattern", field := some "name" }
    [repeatedEntry token]

/-- The access `item['rate']`, with any token between the brackets. -/
def repeatedAccess (token : String) : Node :=
  .node { kind := "subscript_expression" }
    [.node { kind := "identifier", field := some "object", text := "item" } [],
      .node { kind := "string", field := some "index", text := token } []]

def repeatedArguments (token : String) : Node :=
  .node { kind := "arguments", field := some "arguments" }
    [repeatedAccess token]

def repeatedCall (token : String) : Node :=
  .node { kind := "call_expression", field := some "value" }
    [.node { kind := "identifier", field := some "function" } [],
      repeatedArguments token]

/-- The access at its place in `{ 'rate': base = 0 } = compute(item['rate'])`. -/
def declaredRepeatedAccess (token : String) : Site :=
  ⟨[0, 1, 1],
    [repeatedArguments token, repeatedCall token,
      .node { kind := "variable_declarator" }
        [repeatedPattern token, repeatedCall token]],
    repeatedAccess token⟩

theorem declaredRepeatedAccess_isIndexedBy (token : String) :
    (declaredRepeatedAccess token).IsIndexedBy token
      (repeatedPattern token) where
  isSubscript := rfl
  index := ⟨_, rfl, rfl, rfl⟩
  unguarded := by
    have chain := (declaredRepeatedAccess token).shortCircuits_unwrap_iff
    intro shortCircuits
    exact absurd (chain.mpr shortCircuits) Bool.false_ne_true
  declared := by
    refine ⟨_, ⟨rfl, [repeatedArguments token, repeatedCall token], [], rfl,
      ?_⟩, rfl⟩
    simp [repeatedArguments, repeatedCall, Node.kind]
  isPattern := rfl

theorem repeatedEntry_isPairWritten (token : String) :
    (repeatedEntry token).IsPairWritten token :=
  ⟨rfl, ⟨_, rfl, rfl⟩, ⟨_, rfl, rfl⟩⟩

/-- The key `'rate'` matches itself, and `"'rate'"` does not. -/
theorem repeated_literal_rate_and_quotedRate :
    ofArgument ⟨[], []⟩ (fun _ => none)
        (declaredRepeatedAccess (literal '\'' "rate")) = .harmless ∧
      (ofArgument ⟨[], []⟩ (fun _ => none)
        (declaredRepeatedAccess (literal '"' "'rate'"))).level = .low := by
  constructor
  · have rule := repeated_literal_harmless_iff ⟨[], []⟩ (fun _ => none)
      (by decide) (declaredRepeatedAccess_isIndexedBy (literal '\'' "rate"))
      List.mem_cons_self (repeatedEntry_isPairWritten _)
    have plain : HasPlainEnds "rate" := by
      simp [HasPlainEnds, isQuote]
    exact rule.1.mpr (Or.inl plain)
  · have rule := repeated_literal_harmless_iff ⟨[], []⟩ (fun _ => none)
      (by decide) (declaredRepeatedAccess_isIndexedBy (literal '"' "'rate'"))
      List.mem_cons_self (repeatedEntry_isPairWritten _)
    apply rule.2
    intro harmless
    rcases rule.1.mp harmless with plain | ⟨other, listed, shorthand, _⟩
    · simp [HasPlainEnds, isQuote] at plain
    · rw [List.mem_singleton.mp listed] at shorthand
      exact absurd shorthand (by decide)

end Verdict

end CallAudit
