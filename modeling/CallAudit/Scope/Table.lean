import CallAudit.Scope.Declaration

/-!
# Scope tables

A scope table remembers, for each scope and each name, the first declaration
of the name in that scope.  Looking a name up climbs from the place of use
through the proper ancestors and stops at the nearest scope that knows it.
-/

namespace CallAudit

/-- The declarations of a tree, at most one for each scope and name. -/
structure ScopeTable where
  entries : List Declaration
  deriving Inhabited

namespace ScopeTable

def empty : ScopeTable :=
  ⟨[]⟩

def lookup (table : ScopeTable) (owner : Path) (name : String) :
    Option Binding :=
  (table.entries.find? fun entry =>
      entry.binding.name == name && entry.owner == owner).map
    Declaration.binding

/-- Record a declaration unless its scope already knows the name. -/
def declare (table : ScopeTable) (declaration : Declaration) : ScopeTable :=
  if (table.lookup declaration.owner declaration.binding.name).isSome then
    table
  else
    ⟨table.entries ++ [declaration]⟩

def ofDeclarations (declarations : List Declaration) : ScopeTable :=
  declarations.foldl declare empty

def ofTree (tree : Node) : ScopeTable :=
  ofDeclarations tree.declarations

/-- The binding of a name used at a path: the nearest scope that is a proper
ancestor of the place decides. -/
def resolveName (table : ScopeTable) (name : String) : Path → Option Binding
  | [] => none
  | _ :: owner =>
      (table.lookup owner name).or (table.resolveName name owner)

def resolve (table : ScopeTable) (site : Site) : Option Binding :=
  table.resolveName site.text site.path

end ScopeTable

end CallAudit
