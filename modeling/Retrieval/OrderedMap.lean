/-!
# Maps ordered by name

Parameters, relations, resources and the parts of a request are all kept under names, and every
listing of them follows the names in the order of their characters. `OrderedMap` is a list of
entries whose names increase strictly, so two maps with the same content are equal and a listing is
the list itself.

Insertion is a single pass (`insertEntry`), which makes its look-up laws hold without any premise
about order.
-/

namespace Retrieval

/-- Entries under names, the names strictly increasing. -/
structure OrderedMap (α : Type) where
  entries : List (String × α)
  sorted : entries.Pairwise (fun a b => a.1 < b.1)
deriving DecidableEq

namespace OrderedMap

variable {α β : Type}

/-- The map without entries. -/
def empty : OrderedMap α := ⟨[], .nil⟩

instance : EmptyCollection (OrderedMap α) := ⟨empty⟩

instance : Inhabited (OrderedMap α) := ⟨empty⟩

/-- The names, in order. -/
def keys (m : OrderedMap α) : List String := m.entries.map (·.1)

/-- The number of entries. -/
def size (m : OrderedMap α) : Nat := m.entries.length

/-- Whether there is no entry. -/
def isEmpty (m : OrderedMap α) : Bool := m.entries.isEmpty

/-- What stands under a name. -/
def find? (m : OrderedMap α) (key : String) : Option α := m.entries.lookup key

/-- Whether a name has an entry. -/
def contains (m : OrderedMap α) (key : String) : Bool := (m.find? key).isSome

/-! ## Insertion into an ordered list -/

/-- Puts an entry at its place in an ordered list, over an entry of the same name. -/
def insertEntry (key : String) (value : α) : List (String × α) → List (String × α)
  | [] => [(key, value)]
  | entry :: rest =>
    if key < entry.1 then (key, value) :: entry :: rest
    else if key = entry.1 then (key, value) :: rest
    else entry :: insertEntry key value rest

/-- Insertion brings no entry but the one inserted. -/
theorem mem_insertEntry {key : String} {value : α} {entry : String × α}
    {entries : List (String × α)} (h : entry ∈ insertEntry key value entries) :
    entry = (key, value) ∨ entry ∈ entries := by
  induction entries with
  | nil => simpa [insertEntry] using h
  | cons head rest ih =>
    rw [insertEntry] at h
    split at h
    · simpa using h
    · split at h
      · rcases List.mem_cons.1 h with h | h
        · exact .inl h
        · exact .inr (List.mem_cons_of_mem _ h)
      · rcases List.mem_cons.1 h with h | h
        · exact .inr (h ▸ List.mem_cons_self)
        · exact (ih h).imp id (List.mem_cons_of_mem _)

/-- Insertion keeps names in order, also where it replaces an entry. -/
theorem insertEntry_sorted (key : String) (value : α) {entries : List (String × α)}
    (h : entries.Pairwise (fun a b => a.1 < b.1)) :
    (insertEntry key value entries).Pairwise (fun a b => a.1 < b.1) := by
  induction entries with
  | nil => simp [insertEntry]
  | cons head rest ih =>
    obtain ⟨first, tail⟩ := List.pairwise_cons.1 h
    rw [insertEntry]
    split
    case isTrue lt =>
      refine List.pairwise_cons.2 ⟨fun entry mem => ?_, h⟩
      rcases List.mem_cons.1 mem with rfl | mem
      · exact lt
      · exact String.lt_trans lt (first _ mem)
    case isFalse ge =>
      split
      case isTrue eq =>
        exact List.pairwise_cons.2 ⟨fun entry mem => eq ▸ first _ mem, tail⟩
      case isFalse ne =>
        refine List.pairwise_cons.2 ⟨fun entry mem => ?_, ih tail⟩
        rcases mem_insertEntry mem with rfl | mem
        · -- the key is neither below the head nor the head itself
          exact Classical.not_not.1 fun above =>
            ne (String.le_antisymm (String.not_lt.1 above) (String.not_lt.1 ge))
        · exact first _ mem

/-- The first entry of a name decides. -/
theorem lookup_cons (name : String) (entry : String × α) (entries : List (String × α)) :
    (entry :: entries).lookup name =
      if name = entry.1 then some entry.2 else entries.lookup name := by
  obtain ⟨key, value⟩ := entry
  by_cases h : name = key
  · subst h
    rw [List.lookup_cons_self, if_pos rfl]
  · rw [List.lookup_cons, beq_false_of_ne h, if_neg h]

/-- Other names are found as before. -/
theorem lookup_insertEntry (key name : String) (value : α) (entries : List (String × α)) :
    (insertEntry key value entries).lookup name =
      if name = key then some value else entries.lookup name := by
  induction entries with
  | nil => simp [insertEntry, lookup_cons]
  | cons head rest ih =>
    rw [insertEntry]
    split
    · rw [lookup_cons]
    · split
      case isTrue eq =>
        subst eq
        by_cases h : name = head.1 <;> simp [lookup_cons, h]
      case isFalse ne =>
        rw [lookup_cons, lookup_cons, ih]
        by_cases h : name = key
        · subst h
          simp [ne]
        · simp [h]

/-! ## Changes -/

/-- Puts a value under a name, over the value that stood there. -/
def insert (m : OrderedMap α) (key : String) (value : α) : OrderedMap α :=
  ⟨insertEntry key value m.entries, insertEntry_sorted key value m.sorted⟩

/-- Takes a name out. -/
def erase (m : OrderedMap α) (key : String) : OrderedMap α :=
  ⟨m.entries.filter (·.1 ≠ key), m.sorted.filter _⟩

/-- Changes every value, knowing its name. -/
def map (f : String → α → β) (m : OrderedMap α) : OrderedMap β :=
  ⟨m.entries.map fun entry => (entry.1, f entry.1 entry.2), by
    simpa [List.pairwise_map] using m.sorted⟩

/-- Changes the value under one name, if there is one. -/
def modify (m : OrderedMap α) (key : String) (f : α → α) : OrderedMap α :=
  m.map fun name value => if name = key then f value else value

/-- The map of a list of entries, a later entry over an earlier one of the same name. -/
def ofList (entries : List (String × α)) : OrderedMap α :=
  entries.foldl (fun m entry => m.insert entry.1 entry.2) empty

/-! ## Look-up after a change -/

@[simp] theorem find?_empty (name : String) : (empty : OrderedMap α).find? name = none := rfl

/-- What is stored is found, and other names are found as before. -/
@[simp] theorem find?_insert (m : OrderedMap α) (key : String) (value : α) (name : String) :
    (m.insert key value).find? name = if name = key then some value else m.find? name :=
  lookup_insertEntry key name value m.entries

/-- A name that was taken out is not found, and other names are found as before. -/
@[simp] theorem find?_erase (m : OrderedMap α) (key name : String) :
    (m.erase key).find? name = if name = key then none else m.find? name := by
  simp only [erase, find?]
  induction m.entries with
  | nil => simp
  | cons head rest ih =>
    by_cases h : head.1 = key
    · rw [List.filter_cons_of_neg (by simp [h]), ih, lookup_cons]
      by_cases hn : name = key
      · simp [hn]
      · simp [hn, h]
    · rw [List.filter_cons_of_pos (by simp [h]), lookup_cons, lookup_cons, ih]
      by_cases hn : name = head.1
      · simp [hn, h]
      · simp [hn]

@[simp] theorem find?_map (f : String → α → β) (m : OrderedMap α) (name : String) :
    (m.map f).find? name = (m.find? name).map (f name) := by
  simp only [map, find?]
  induction m.entries with
  | nil => rfl
  | cons head rest ih =>
    rw [List.map_cons, lookup_cons, lookup_cons, ih]
    by_cases h : name = head.1 <;> simp [h]

@[simp] theorem keys_map (f : String → α → β) (m : OrderedMap α) : (m.map f).keys = m.keys := by
  simp [keys, map, Function.comp_def]

/-- A map is its entries: what stands under a name is found there. -/
theorem mem_entries_iff (m : OrderedMap α) (name : String) (value : α) :
    (name, value) ∈ m.entries ↔ m.find? name = some value := by
  obtain ⟨entries, sorted⟩ := m
  simp only [find?]
  induction entries with
  | nil => simp
  | cons head rest ih =>
    obtain ⟨least, tail⟩ := List.pairwise_cons.1 sorted
    rw [List.mem_cons, lookup_cons, ih tail]
    by_cases h : name = head.1
    · subst h
      have absent : rest.lookup head.1 ≠ some value := fun found =>
        String.lt_irrefl _ (least (head.1, value) ((ih tail).2 found))
      simp [absent, Prod.ext_iff, eq_comm]
    · simp [h, Prod.ext_iff]

end OrderedMap

end Retrieval
