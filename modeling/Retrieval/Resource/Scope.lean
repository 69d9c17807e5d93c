import Retrieval.Resource.Naming
import Retrieval.Resource.Registry

/-!
# Scopes

A request is read for one main resource, against a registry in which the other resources are looked
up. A key of the request names the main resource, a declared relation of it, or, by the naming
convention, a type beside the main type.
-/

namespace Retrieval

/-- A main resource and the registry it is part of. -/
structure Scope where
  registry : Registry
  resourceType : String
  main : Metadata

namespace Scope

/-- Whether a key names the main resource. -/
def isMain (scope : Scope) (key : String) : Bool := key = scope.main.name

/-- The type that a key names: its own type for the main resource, the target of a declared
relation, or else the type of the naming convention. -/
def typeOf (scope : Scope) (key : String) : String :=
  if scope.isMain key then scope.resourceType
  else match scope.main.relation? key with
    | some relation => relation.target
    | none => Naming.siblingType scope.resourceType key

/-- The description of the resource that a key names. -/
def metadata? (scope : Scope) (key : String) : Option Metadata :=
  if scope.isMain key then some scope.main else scope.registry.find? (scope.typeOf key)

/-- The declared relation of a name together with the resource it leads to. -/
def related? (scope : Scope) (key : String) : Option (Relation × Metadata) := do
  let relation ← scope.main.relation? key
  return (relation, ← scope.registry.find? relation.target)

end Scope

end Retrieval
