/-!
# Field sets

Lists of columns are short and their order shows in every answer, so a set of fields is a list
without repetition in the order in which the names were added.
-/

namespace Retrieval

/-- Field names in the order of their addition, each once. -/
structure FieldSet where
  toList : List String
  nodup : toList.Nodup
deriving DecidableEq

namespace FieldSet

/-- The set without names. -/
def empty : FieldSet := ⟨[], .nil⟩

instance : EmptyCollection FieldSet := ⟨empty⟩

instance : Inhabited FieldSet := ⟨empty⟩

instance : Membership String FieldSet := ⟨fun fields name => name ∈ fields.toList⟩

instance (name : String) (fields : FieldSet) : Decidable (name ∈ fields) :=
  inferInstanceAs (Decidable (name ∈ fields.toList))

/-- Whether a name is in the set. -/
def contains (fields : FieldSet) (name : String) : Bool := decide (name ∈ fields)

/-- The number of names. -/
def size (fields : FieldSet) : Nat := fields.toList.length

/-- Whether there is no name. -/
def isEmpty (fields : FieldSet) : Bool := fields.toList.isEmpty

/-! ## Changes -/

/-- Adds a name at the end unless the set has it. -/
def ensure (fields : FieldSet) (name : String) : FieldSet :=
  if h : name ∈ fields.toList then fields
  else ⟨fields.toList ++ [name], List.nodup_append.2 ⟨fields.nodup, by simp, by
    rintro a ha b hb rfl
    exact h (List.mem_singleton.1 hb ▸ ha)⟩⟩

/-- Takes a name out and leaves the others in their order. -/
def remove (fields : FieldSet) (name : String) : FieldSet :=
  ⟨fields.toList.erase name, fields.nodup.erase name⟩

@[simp] theorem toList_empty : empty.toList = [] := rfl

/-- A name that is there already stays where it is; a new one goes behind the others. -/
@[simp] theorem toList_ensure (fields : FieldSet) (name : String) :
    (fields.ensure name).toList =
      if name ∈ fields.toList then fields.toList else fields.toList ++ [name] := by
  rw [ensure]
  split <;> rfl

@[simp] theorem toList_remove (fields : FieldSet) (name : String) :
    (fields.remove name).toList = fields.toList.erase name := rfl

theorem mem_iff {fields : FieldSet} {name : String} : name ∈ fields ↔ name ∈ fields.toList := .rfl

/-- Adding a name keeps all others. -/
theorem mem_ensure {fields : FieldSet} {name other : String} :
    other ∈ fields.ensure name ↔ other ∈ fields ∨ other = name := by
  rw [mem_iff, mem_iff, toList_ensure]
  split
  case isTrue mem => exact ⟨.inl, fun h => h.elim id (· ▸ mem)⟩
  case isFalse => simp

/-- No name is there twice, so that taking one out leaves none behind. -/
theorem mem_remove {fields : FieldSet} {name other : String} :
    other ∈ fields.remove name ↔ other ≠ name ∧ other ∈ fields :=
  fields.nodup.mem_erase_iff

/-- Adds each name of a list in turn. -/
def ensureAll (fields : FieldSet) (names : List String) : FieldSet := names.foldl ensure fields

/-- The names of a list, each at its first place. -/
def ofList (names : List String) : FieldSet := empty.ensureAll names

/-! ## Calls -/

/-- A question or a change put to a set, each about one name. -/
inductive Call where
  | ensure (name : String)
  | remove (name : String)
  | contains (name : String)
deriving DecidableEq

/-- What a call answers, and the set after it: adding answers whether the name was new, removing and
asking whether it was there. -/
def call (fields : FieldSet) : Call → Bool × FieldSet
  | .ensure name => (!fields.contains name, fields.ensure name)
  | .remove name => (fields.contains name, fields.remove name)
  | .contains name => (fields.contains name, fields)

end FieldSet

end Retrieval
