import Mathlib.Data.List.Sort
import Retrieval.OrderedMap

/-!
# Passes over ordered maps

The parts of a request are read by passes that go through the entries of a map in the order of the
names, and every step of a pass concerns one name. What a pass leaves under a name is therefore what
the step of that name alone leaves there: `foldl_keys` says it for a pass over names and
`foldl_entries` for a pass over entries. The names are strictly ordered, so a list of names is
determined by its members (`eq_of_mem_iff`), and so is a list of entries (`eq_of_mem_iff_by`). Hence
a map is determined by what is found in it (`ext_find?`), and its entries in any order make it
(`ofList_of_perm`).
-/

namespace Retrieval.OrderedMap

variable {α β σ : Type}

/-! ## Names -/

/-- Names come in increasing order. -/
theorem keys_sorted (m : OrderedMap α) : m.keys.Pairwise (· < ·) := by
  rw [keys, List.pairwise_map]
  exact m.sorted

/-- No name comes twice. -/
theorem keys_nodup (m : OrderedMap α) : m.keys.Nodup := by
  refine m.keys_sorted.imp ?_
  intro a b lt eq
  subst eq
  exact String.lt_irrefl a lt

/-- A name is listed exactly when something stands under it. -/
theorem mem_keys_iff {m : OrderedMap α} {name : String} :
    name ∈ m.keys ↔ ∃ value, m.find? name = some value := by
  rw [keys, List.mem_map]
  constructor
  · rintro ⟨⟨_, value⟩, mem, rfl⟩
    exact ⟨value, (m.mem_entries_iff _ value).1 mem⟩
  · rintro ⟨value, found⟩
    exact ⟨(name, value), (m.mem_entries_iff name value).2 found, rfl⟩

/-- What is not found is no key. -/
theorem find?_eq_none_iff {m : OrderedMap α} {name : String} :
    m.find? name = none ↔ name ∉ m.keys := by
  rw [mem_keys_iff, not_exists, Option.eq_none_iff_forall_ne_some]

/-- What holds of all entries holds of all that can be found. -/
theorem forall_mem_entries_iff (m : OrderedMap α) (p : String → α → Prop) :
    (∀ entry ∈ m.entries, p entry.1 entry.2) ↔
      ∀ name value, m.find? name = some value → p name value := by
  constructor
  · intro every name value found
    exact every (name, value) ((m.mem_entries_iff name value).2 found)
  · intro every entry mem
    exact every entry.1 entry.2 ((m.mem_entries_iff entry.1 entry.2).1 mem)

/-- Two lists that are strictly ordered by name and have the same members are one list. -/
theorem eq_of_mem_iff_by (name : α → String) {l others : List α}
    (h : l.Pairwise (name · < name ·)) (h' : others.Pairwise (name · < name ·))
    (same : ∀ a, a ∈ l ↔ a ∈ others) : l = others := by
  have antisymm : Std.Antisymm (fun a b : α => name a < name b) :=
    ⟨fun a b lt gt => absurd gt (String.lt_asymm lt)⟩
  have irrefl : Std.Irrefl (fun a b : α => name a < name b) := ⟨fun a => String.lt_irrefl (name a)⟩
  exact List.Pairwise.eq_of_mem_iff h h' same

/-- Two strictly ordered lists of names with the same members are one list. -/
theorem eq_of_mem_iff {names others : List String} (h : names.Pairwise (· < ·))
    (h' : others.Pairwise (· < ·)) (same : ∀ name, name ∈ names ↔ name ∈ others) :
    names = others :=
  eq_of_mem_iff_by id h h' same

/-- Maps under whose names the same stands are one map. -/
theorem ext_find? {m other : OrderedMap α} (same : ∀ name, m.find? name = other.find? name) :
    m = other := by
  have entries : m.entries = other.entries := by
    refine eq_of_mem_iff_by (·.1) m.sorted other.sorted ?_
    rintro ⟨name, value⟩
    rw [mem_entries_iff, mem_entries_iff, same name]
  cases m
  cases other
  exact (OrderedMap.mk.injEq ..).mpr entries

/-- Only the value under the key is changed, if there is one. -/
@[simp] theorem find?_modify (m : OrderedMap α) (key : String) (f : α → α) (name : String) :
    (m.modify key f).find? name = if name = key then (m.find? name).map f else m.find? name := by
  rw [modify, find?_map]
  split
  · rfl
  · exact Option.map_id'

@[simp] theorem keys_erase (m : OrderedMap α) (key : String) :
    (m.erase key).keys = m.keys.filter (· ≠ key) := by
  rw [keys, keys, List.filter_map]
  rfl

@[simp] theorem contains_iff {m : OrderedMap α} {name : String} :
    m.contains name = true ↔ name ∈ m.keys := by
  rw [contains, Option.isSome_iff_exists, mem_keys_iff]

/-! ## Maps of lists -/

/-- What stands under a name does not depend on the order of the entries. -/
theorem lookup_perm {entries others : List (String × α)} (perm : entries.Perm others)
    (nodup : (entries.map (·.1)).Nodup) (name : String) :
    others.lookup name = entries.lookup name := by
  induction perm with
  | nil => rfl
  | cons entry _ ih =>
    rw [lookup_cons, lookup_cons, ih (List.nodup_cons.1 nodup).2]
  | swap entry other rest =>
    have ne : other.1 ≠ entry.1 := fun eq => (List.nodup_cons.1 nodup).1 (by simp [eq])
    simp only [lookup_cons]
    by_cases h : name = entry.1
    · rw [if_pos h, if_pos h, if_neg fun h' => ne (h'.symm.trans h)]
    · rw [if_neg h, if_neg h]
  | trans perm _ ih ih' =>
    rw [ih' ((perm.map (·.1)).nodup_iff.1 nodup), ih nodup]

/-- A map of entries with different names holds them. -/
theorem find?_ofList {entries : List (String × α)} (nodup : (entries.map (·.1)).Nodup)
    (name : String) : (ofList entries).find? name = entries.lookup name := by
  suffices run : ∀ m : OrderedMap α,
      (entries.foldl (fun m entry => m.insert entry.1 entry.2) m).find? name =
        (entries.lookup name).or (m.find? name) by
    rw [ofList, run, find?_empty, Option.or_none]
  induction entries with
  | nil => exact fun m => rfl
  | cons entry rest ih =>
    intro m
    obtain ⟨absent, nodup⟩ := List.nodup_cons.1 nodup
    rw [List.foldl_cons, ih nodup, find?_insert, lookup_cons]
    by_cases h : name = entry.1
    · -- the name does not come again, so no later entry stands over this one
      have none : rest.lookup name = none := by
        rw [List.lookup_eq_none_iff]
        intro other mem
        have ne : name ≠ other.1 := fun eq => absent (List.mem_map.2 ⟨other, mem, eq.symm.trans h⟩)
        simp [ne]
      rw [none, if_pos h, if_pos h, Option.none_or, Option.some_or]
    · rw [if_neg h, if_neg h]

/-- The entries of a map in any order are the map. -/
theorem ofList_of_perm {m : OrderedMap α} {entries : List (String × α)}
    (perm : m.entries.Perm entries) : ofList entries = m := by
  have nodup : (m.entries.map (·.1)).Nodup := m.keys_nodup
  refine ext_find? fun name => ?_
  rw [find?_ofList ((perm.map (·.1)).nodup_iff.1 nodup), lookup_perm perm nodup, find?]

/-! ## Passes

`view` is what a reader of one name sees of a state. -/

/-- A pass over names that occur once changes what is seen of a name only at that name's step. -/
theorem foldl_keys {keys : List String} (nodup : keys.Nodup) {step : σ → String → σ} (view : σ → β)
    (name : String) (change : β → β) (own : ∀ s, view (step s name) = change (view s))
    (other : ∀ s, ∀ key ∈ keys, key ≠ name → view (step s key) = view s) (s : σ) :
    view (keys.foldl step s) = if name ∈ keys then change (view s) else view s := by
  induction keys generalizing s with
  | nil => rw [List.foldl_nil, if_neg List.not_mem_nil]
  | cons key rest ih =>
    obtain ⟨absent, nodup⟩ := List.nodup_cons.1 nodup
    have later : ∀ s, ∀ key ∈ rest, key ≠ name → view (step s key) = view s :=
      fun s key mem => other s key (List.mem_cons_of_mem _ mem)
    rw [List.foldl_cons, ih nodup later]
    by_cases h : key = name
    · -- the name does not come again, so the rest of the pass leaves what its step made
      subst h
      rw [if_neg absent, if_pos List.mem_cons_self, own]
    · rw [other s key List.mem_cons_self h]
      simp [List.mem_cons, Ne.symm h]

/-- A pass over the entries of a map changes what is seen of a name only at that name's entry. -/
theorem foldl_entries (m : OrderedMap α) {step : σ → String × α → σ} (view : σ → β)
    (name : String) (change : α → β → β)
    (own : ∀ s value, view (step s (name, value)) = change value (view s))
    (other : ∀ s key value, key ≠ name → view (step s (key, value)) = view s) (s : σ) :
    view (m.entries.foldl step s) =
      match m.find? name with
      | some value => change value (view s)
      | none => view s := by
  obtain ⟨entries, sorted⟩ := m
  simp only [find?]
  induction entries generalizing s with
  | nil => rfl
  | cons entry rest ih =>
    obtain ⟨least, tail⟩ := List.pairwise_cons.1 sorted
    obtain ⟨key, value⟩ := entry
    rw [List.foldl_cons, ih _ tail, lookup_cons]
    by_cases h : name = key
    · subst h
      -- later entries have greater names, so the name has no second entry
      have absent : rest.lookup name = none := by
        rw [List.lookup_eq_none_iff]
        intro entry mem
        have ne : name ≠ entry.1 := fun eq => String.lt_irrefl name (eq ▸ least entry mem)
        simp [ne]
      rw [absent, if_pos rfl, own]
    · rw [if_neg h, other s key value (Ne.symm h)]

end Retrieval.OrderedMap
