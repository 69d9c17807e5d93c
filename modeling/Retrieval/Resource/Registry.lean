import Retrieval.Resource.Metadata

/-!
# Registries

A registry holds the descriptions of resources under their types. Only valid descriptions enter, so
whatever comes out of a registry has identifiers for names.
-/

namespace Retrieval

/-- Valid descriptions of resources, under their types. -/
structure Registry where
  resources : OrderedMap Metadata
  valid : ∀ entry ∈ resources.entries, entry.2.Valid

/-- A relation whose target is not registered. -/
structure Registry.Dangling where
  resourceType : String
  relation : String
  target : String
deriving DecidableEq

/-- The wording of a report on a relation that leads nowhere. -/
def Registry.Dangling.message (d : Dangling) : String :=
  s!"{d.resourceType}.{d.relation}: target type '{d.target}' is not registered"

/-- A description that passes the check is valid. -/
theorem Metadata.valid_of_validate {metadata : Metadata} (h : metadata.validate = .ok ()) :
    metadata.Valid := by
  unfold Metadata.validate at h
  split at h
  · simp at h
  · next none => simpa [Metadata.Valid] using none

namespace Registry

/-- The registry without resources. -/
def empty : Registry := ⟨.empty, by simp [OrderedMap.empty]⟩

instance : EmptyCollection Registry := ⟨empty⟩

instance : Inhabited Registry := ⟨empty⟩

/-- The description of a type. -/
def find? (registry : Registry) (resourceType : String) : Option Metadata :=
  registry.resources.find? resourceType

/-- The registry with one more valid description, over one of the same type. -/
def insert (registry : Registry) (resourceType : String) (metadata : Metadata)
    (valid : metadata.Valid) : Registry :=
  ⟨registry.resources.insert resourceType metadata, fun entry mem => by
    rcases OrderedMap.mem_insertEntry mem with rfl | mem
    · exact valid
    · exact registry.valid entry mem⟩

/-- Puts in a description. An invalid one is a failure, which is found before anything is put in. -/
def register (resourceType : String) (metadata : Metadata) : Editing Registry Unit :=
  match h : metadata.validate with
  | .error failure => throw failure
  | .ok () => modify (·.insert resourceType metadata (Metadata.valid_of_validate h))

/-- The number of resources. -/
def size (registry : Registry) : Nat := registry.resources.size

/-- Whether there is no resource. -/
def isEmpty (registry : Registry) : Bool := registry.resources.isEmpty

/-- The types, in order. -/
def types (registry : Registry) : List String := registry.resources.keys

/-- The relations whose target is not registered, by type and name. -/
def dangling (registry : Registry) : List Dangling :=
  registry.resources.entries.flatMap fun (resourceType, metadata) =>
    metadata.relations.entries.filterMap fun (name, relation) =>
      if registry.resources.contains relation.target then none
      else some ⟨resourceType, name, relation.target⟩

end Registry

end Retrieval
