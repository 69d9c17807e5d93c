import Mathlib.Data.List.Induction
import Retrieval.FieldSet

/-!
# Field sets as lists

Adding names one after another gives the names of the set and of the list, each at its first place
(`toList_ensureAll`). So a set of fields is described by the list of the names that were added, and
adding twice is adding once the two lists together.
-/

namespace Retrieval

/-- Without repetitions nothing is erased. -/
theorem eraseDups_of_nodup {names : List String} (h : names.Nodup) : names.eraseDups = names := by
  induction names with
  | nil => rfl
  | cons name rest ih =>
    obtain ⟨absent, nodup⟩ := List.nodup_cons.1 h
    have kept : rest.filter (fun other => !other == name) = rest := by
      refine List.filter_eq_self.2 ?_
      intro other mem
      have ne : other ≠ name := fun eq => absent (eq ▸ mem)
      simp [ne]
    rw [List.eraseDups_cons, kept, ih nodup]

namespace FieldSet

/-- A set of fields is its list of names. -/
@[ext] theorem ext {fields others : FieldSet} (h : fields.toList = others.toList) :
    fields = others := by
  cases fields
  cases others
  simp_all

@[simp] theorem contains_iff {fields : FieldSet} {name : String} :
    fields.contains name = true ↔ name ∈ fields.toList := by
  rw [contains, decide_eq_true_iff, mem_iff]

/-- Names added in two goes are added in one. -/
theorem ensureAll_ensureAll (fields : FieldSet) (names others : List String) :
    (fields.ensureAll names).ensureAll others = fields.ensureAll (names ++ others) := by
  rw [ensureAll, ensureAll, ensureAll, List.foldl_append]

/-- The names of a set, then those of a list, each at its first place. -/
theorem toList_ensureAll (fields : FieldSet) (names : List String) :
    (fields.ensureAll names).toList = (fields.toList ++ names).eraseDups := by
  induction names generalizing fields with
  | nil => rw [List.append_nil, eraseDups_of_nodup fields.nodup, ensureAll, List.foldl_nil]
  | cons name rest ih =>
    have step : fields.ensureAll (name :: rest) = (fields.ensure name).ensureAll rest := rfl
    rw [step, ih, toList_ensure]
    split
    case isTrue mem =>
      -- a name that is there already is not put behind the others
      have skip : (name :: rest).removeAll fields.toList = rest.removeAll fields.toList := by
        rw [List.cons_removeAll, if_neg (by simpa using mem)]
      rw [List.eraseDups_append, List.eraseDups_append, skip]
    case isFalse => rw [List.append_assoc, List.singleton_append]

/-- The set of a list holds each name where it stands first. -/
theorem toList_ofList (names : List String) : (ofList names).toList = names.eraseDups := by
  rw [ofList, toList_ensureAll, toList_empty, List.nil_append]

@[simp] theorem mem_toList_ofList {names : List String} {name : String} :
    name ∈ (ofList names).toList ↔ name ∈ names := by
  rw [toList_ofList, List.mem_eraseDups]

theorem nodup_eraseDups (names : List String) : names.eraseDups.Nodup := by
  rw [← toList_ofList]
  exact (ofList names).nodup

/-- Taking names out before or after repetitions are dropped makes no difference. -/
theorem filter_eraseDups (p : String → Bool) (names : List String) :
    names.eraseDups.filter p = (names.filter p).eraseDups := by
  induction names using List.reverseRecOn with
  | nil => rfl
  | append_singleton rest name ih =>
    rw [List.eraseDups_append, List.filter_append, List.filter_append, List.eraseDups_append, ih]
    -- the last name counts if it did not come before, and taking others out does not change that
    apply congrArg ((rest.filter p).eraseDups ++ ·)
    by_cases kept : p name = true
    · by_cases mem : name ∈ rest <;> simp [List.removeAll, kept, mem]
    · by_cases mem : name ∈ rest <;> simp [List.removeAll, kept, mem]

/-- Dropping repetitions of a beginning first makes no difference. -/
theorem eraseDups_append_left (names others : List String) :
    (names.eraseDups ++ others).eraseDups = (names ++ others).eraseDups := by
  rw [← toList_ofList names, ← toList_ensureAll, ofList, ensureAll_ensureAll, ← ofList,
    toList_ofList]

/-- Names that are among the first ones need not be put behind them. -/
theorem eraseDups_append_filter (names others : List String) :
    (names ++ others.filter (· ∉ names)).eraseDups = (names ++ others).eraseDups := by
  have removed : (others.filter (· ∉ names)).removeAll names = others.removeAll names := by
    rw [List.removeAll, List.removeAll, List.filter_filter]
    refine List.filter_congr fun name _ => ?_
    by_cases mem : name ∈ names <;> simp [mem]
  rw [List.eraseDups_append, List.eraseDups_append, removed]

/-- An empty set has no names. -/
theorem isEmpty_iff {fields : FieldSet} : fields.isEmpty = true ↔ fields.toList = [] := by
  rw [isEmpty, List.isEmpty_iff]

end FieldSet

end Retrieval
