import CallAudit.Proofs.Scope.Counterpart
import CallAudit.Proofs.Scope.Resolution
import CallAudit.Proofs.Tree.Replace

/-!
# Names in a tree with counterparts

When every site of a tree has a counterpart in another tree, and only comments
and parentheses are added, the two trees declare the same names, and a name
resolves in the second tree to the counterpart of what it resolves to in the
first one.
-/

namespace CallAudit

/-- Every site of the first tree has its counterpart in the second one, where
only extra sites stand between them. -/
structure Counterparts.Covers (twins : Counterparts) (old new : Node) :
    Prop where
  kept : ∀ site ∈ old.sites, twins.Kept site
  sites : Woven twins.Extra (old.sites.map twins.twin) new.sites
  move_injective : Function.Injective twins.move
  move_ne : ∀ {extra}, twins.Extra extra →
    ∀ path, twins.move path ≠ extra.path

namespace Counterparts

theorem declarations_of_extra (twins : Counterparts) {site : Site}
    (extra : twins.Extra site) : site.declarations = [] := by
  have notFunction : functionScopeKinds.contains site.kind = false :=
    twins.isFunctionScope_of_extra extra
  rw [Site.declarations, notFunction]
  rcases twins.extra_kind extra with kind | kind
  · simp [kind, classDeclarationKinds]
  · simp [kind, parenthesesKind, classDeclarationKinds]

namespace Covers

variable {twins : Counterparts} {old new : Node}
  (covers : twins.Covers old new)

include covers

theorem twin_mem_sites {site : Site} (member : site ∈ old.sites) :
    twins.twin site ∈ new.sites :=
  covers.sites.sublist.subset (List.mem_map_of_mem member)

theorem declarations :
    new.declarations = old.declarations.map twins.declaration := by
  rw [Node.declarations, Node.declarations, Node.walk_eq_sites,
    Node.walk_eq_sites,
    covers.sites.flatMap_eq fun _ extra => twins.declarations_of_extra extra,
    List.flatMap_map, List.map_flatMap]
  apply List.flatMap_congr
  intro site member
  exact twins.twin_declarations (covers.kept site member)

/-- A scope and its counterpart say the same about a name. -/
theorem lookup_move (owner : Path) (name : String) :
    (ScopeTable.ofTree new).lookup (twins.move owner) name =
      ((ScopeTable.ofTree old).lookup owner name).map twins.binding := by
  have about : Node.isAbout (twins.move owner) name ∘ twins.declaration =
      Node.isAbout owner name := by
    funext declaration
    rw [Bool.eq_iff_iff, Function.comp_apply, Node.isAbout_iff,
      Node.isAbout_iff]
    have sameOwner : twins.move declaration.owner = twins.move owner ↔
        declaration.owner = owner :=
      covers.move_injective.eq_iff
    exact and_congr_right fun _ => sameOwner
  rw [ScopeTable.lookup_ofTree, ScopeTable.lookup_ofTree, covers.declarations,
    List.find?_map, about, Option.map_map, Option.map_map]
  rfl

/-- What comes in between owns no name. -/
theorem lookup_extra {extra : Site} (isExtra : twins.Extra extra)
    (name : String) :
    (ScopeTable.ofTree new).lookup extra.path name = none := by
  rw [ScopeTable.lookup_ofTree, Option.map_eq_none_iff, covers.declarations,
    List.find?_eq_none]
  intro declaration listed about
  obtain ⟨original, _, rfl⟩ := List.mem_map.mp listed
  exact covers.move_ne isExtra original.owner (Node.isAbout_iff.mp about).2

/-- A name resolves to the counterpart of its binding. -/
theorem resolve_twin {site : Site} (member : site ∈ old.sites) :
    (ScopeTable.ofTree new).resolve (twins.twin site) =
      ((ScopeTable.ofTree old).resolve site).map twins.binding := by
  have kept := covers.kept site member
  have silent : ∀ extra, twins.Extra extra →
      (ScopeTable.ofTree new).lookup extra.path site.text = none :=
    fun extra isExtra => covers.lookup_extra isExtra site.text
  have each : ∀ scope ∈ site.above,
      (ScopeTable.ofTree new).lookup (twins.twin scope).path site.text =
        ((ScopeTable.ofTree old).lookup scope.path site.text).map
          twins.binding := by
    intro scope above
    rw [twins.twin_path (twins.kept_above kept scope above),
      covers.lookup_move]
  rw [ScopeTable.resolve_eq_findSome? _ (covers.twin_mem_sites member),
    ScopeTable.resolve_eq_findSome? _ member, twins.twin_text kept,
    (twins.twin_above kept).findSome?_eq silent, List.findSome?_map,
    List.map_findSome?, ← List.head?_filterMap, ← List.head?_filterMap]
  exact congrArg List.head? (List.filterMap_congr each)

end Covers

end Counterparts

end CallAudit
