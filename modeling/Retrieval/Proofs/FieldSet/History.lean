import Mathlib.Data.List.Nodup
import Retrieval.Proofs.FieldSet

/-!
# Histories of field sets

A set begins with the names of a list and then takes calls in any order. `Holds` says from the calls
alone whether a name is in it, by the last call that adds the name or takes it out, and `AddedAt`
which of them add a name: those that find it absent. The names of the list come first in this
history, as if each had been added by a call (`ofList_after`).

What one call does is said by `Answers`. From it, by induction on the calls, follows what is in the
set after all of them (`mem_after_iff`) and that the names stand in the order in which each was
added last (`inOrder_after`).
-/

namespace Retrieval.FieldSet

/-- The set after some calls. -/
def after (fields : FieldSet) (calls : List Call) : FieldSet :=
  calls.foldl (fun fields call => (fields.call call).2) fields

/-- What a call settles about a name: that it is there, that it is not, or nothing. -/
def Call.settles? (name : String) : Call → Option Bool
  | .ensure other => if other = name then some true else none
  | .remove other => if other = name then some false else none
  | .contains _ => none

/-- Whether a set that began with some names has a name, by the last call that settles it, or by the
names at the beginning if there is none. -/
def Holds (names : List String) (calls : List Call) (name : String) : Prop :=
  (calls.filterMap (Call.settles? name)).getLast?.getD (decide (name ∈ names)) = true

instance (names : List String) (calls : List Call) (name : String) :
    Decidable (Holds names calls name) := inferInstanceAs (Decidable (_ = true))

/-- Whether the call at a place of a history adds a name: it finds the name absent. -/
def AddedAt (history : List Call) (name : String) (place : Nat) : Prop :=
  history[place]? = some (.ensure name) ∧ ¬Holds [] (history.take place) name

/-- Whether a place is the last one at which a history adds a name. -/
def LastAddedAt (history : List Call) (name : String) (place : Nat) : Prop :=
  AddedAt history name place ∧ ∀ other, AddedAt history name other → other ≤ place

/-- What a set answers to a call, and the set after it. -/
inductive Answers (fields : FieldSet) : Call → Bool → FieldSet → Prop where
  | added {name : String} {next : FieldSet} (absent : name ∉ fields.toList)
      (behind : next.toList = fields.toList ++ [name]) : Answers fields (.ensure name) true next
  | kept {name : String} (present : name ∈ fields.toList) :
      Answers fields (.ensure name) false fields
  | removed {name : String} {next : FieldSet} {before behind : List String}
      (present : fields.toList = before ++ name :: behind)
      (others : next.toList = before ++ behind) : Answers fields (.remove name) true next
  | missing {name : String} (absent : name ∉ fields.toList) :
      Answers fields (.remove name) false fields
  | found {name : String} (present : name ∈ fields.toList) :
      Answers fields (.contains name) true fields
  | lacking {name : String} (absent : name ∉ fields.toList) :
      Answers fields (.contains name) false fields

variable {fields next : FieldSet} {name : String} {call : Call}

/-! ## One call -/

theorem contains_eq_false_iff : fields.contains name = false ↔ name ∉ fields.toList := by
  rw [← Bool.not_eq_true, contains_iff]

/-- Every call answers as it is described. -/
theorem answers_call (fields : FieldSet) (call : Call) :
    fields.Answers call (fields.call call).1 (fields.call call).2 := by
  cases call with
  | ensure name =>
    by_cases mem : name ∈ fields.toList
    · have same : fields.ensure name = fields := by rw [ensure, dif_pos mem]
      rw [call, contains_iff.2 mem, same]
      exact .kept mem
    · rw [call, contains_eq_false_iff.2 mem]
      exact .added mem (by rw [toList_ensure, if_neg mem])
  | remove name =>
    by_cases mem : name ∈ fields.toList
    · obtain ⟨before, behind, -, present, others⟩ := List.exists_erase_eq mem
      rw [call, contains_iff.2 mem]
      exact .removed present others
    · have same : fields.remove name = fields := FieldSet.ext (List.erase_of_not_mem mem)
      rw [call, contains_eq_false_iff.2 mem, same]
      exact .missing mem
  | contains name =>
    by_cases mem : name ∈ fields.toList
    · rw [call, contains_iff.2 mem]
      exact .found mem
    · rw [call, contains_eq_false_iff.2 mem]
      exact .lacking mem

/-- There is one answer to a call, and one set after it. -/
theorem call_eq_iff {answer : Bool} :
    fields.call call = (answer, next) ↔ fields.Answers call answer next := by
  constructor
  · intro h
    have answers := answers_call fields call
    rwa [h] at answers
  · intro h
    cases h with
    | @added name _ absent behind =>
      have eq : fields.ensure name = next :=
        FieldSet.ext (by rw [toList_ensure, if_neg absent, behind])
      rw [FieldSet.call, contains_eq_false_iff.2 absent, eq, Bool.not_false]
    | @kept name present =>
      rw [FieldSet.call, contains_iff.2 present, ensure, dif_pos present, Bool.not_true]
    | @removed name _ before behind present others =>
      -- no name stands twice, so the one in front of the others is the only one
      have nodup := fields.nodup
      rw [present, List.nodup_middle, List.nodup_cons, List.mem_append, not_or] at nodup
      have eq : fields.remove name = next := by
        refine FieldSet.ext ?_
        rw [toList_remove, present, List.erase_append_right _ nodup.1.1, List.erase_cons_head,
          others]
      have mem : name ∈ fields.toList := by simp [present]
      rw [FieldSet.call, contains_iff.2 mem, eq]
    | missing absent =>
      rw [FieldSet.call, contains_eq_false_iff.2 absent, remove]
      simp only [List.erase_of_not_mem absent]
    | found present => rw [FieldSet.call, contains_iff.2 present]
    | lacking absent => rw [FieldSet.call, contains_eq_false_iff.2 absent]

/-- A call decides on the name that it settles and leaves the others. -/
theorem mem_call_iff : name ∈ (fields.call call).2.toList ↔
    (call.settles? name).getD (decide (name ∈ fields.toList)) = true := by
  cases call with
  | ensure other =>
    rw [FieldSet.call, ← mem_iff, mem_ensure, Call.settles?]
    by_cases eq : other = name
    · simp [eq]
    · simp [eq, Ne.symm eq, mem_iff]
  | remove other =>
    rw [FieldSet.call, ← mem_iff, mem_remove, Call.settles?]
    by_cases eq : other = name
    · simp [eq]
    · simp [eq, Ne.symm eq, mem_iff]
  | contains other => simp [FieldSet.call, Call.settles?]

/-! ## Runs -/

/-- The last call meets what the calls before it leave. -/
theorem after_concat (fields : FieldSet) (calls : List Call) (call : Call) :
    fields.after (calls ++ [call]) = ((fields.after calls).call call).2 :=
  List.foldl_append

/-- Naming a list at the beginning is adding its names one by one. -/
theorem ofList_after (names : List String) (calls : List Call) :
    (ofList names).after calls = empty.after (names.map .ensure ++ calls) := by
  rw [after, after, List.foldl_append, List.foldl_map]
  rfl

/-- A call that adds a name or takes it out settles whether it is there; others leave that. -/
theorem holds_concat {names : List String} {calls : List Call} :
    Holds names (calls ++ [call]) name ↔
      (call.settles? name).getD (decide (Holds names calls name)) = true := by
  rw [Holds, List.filterMap_append, List.getLast?_append]
  cases settled : call.settles? name <;> simp [Holds, settled]

/-- A set has the names that its history says it has. -/
theorem mem_after_iff (names : List String) (calls : List Call) :
    name ∈ ((ofList names).after calls).toList ↔ Holds names calls name := by
  induction calls using List.reverseRecOn with
  | nil => simp [after, Holds]
  | append_singleton calls call ih => simp only [after_concat, mem_call_iff, holds_concat, ih]

/-! ## The order of names -/

variable {history : List Call} {place : Nat}

/-- A name is added at a call of the history. -/
theorem AddedAt.lt (h : AddedAt history name place) : place < history.length :=
  (List.getElem?_eq_some_iff.1 h.1).1

/-- A further call adds its name behind the others if it finds it absent. -/
theorem addedAt_concat_iff : AddedAt (history ++ [call]) name place ↔
    AddedAt history name place ∨
      place = history.length ∧ call = .ensure name ∧ ¬Holds [] history name := by
  rcases Nat.lt_trichotomy place history.length with lt | rfl | gt
  · rw [AddedAt, AddedAt, List.getElem?_append_left lt,
      List.take_append_of_le_length (Nat.le_of_lt lt)]
    simp [Nat.ne_of_lt lt]
  · have none : ¬AddedAt history name history.length := fun h => Nat.lt_irrefl _ h.lt
    rw [or_iff_right none, AddedAt, List.getElem?_concat_length, List.take_left' rfl,
      Option.some.injEq]
    exact (and_iff_right rfl).symm
  · have none : ¬AddedAt history name place := fun h => Nat.lt_asymm gt h.lt
    have none' : ¬AddedAt (history ++ [call]) name place := by
      intro h
      have lt := h.lt
      rw [List.length_append, List.length_singleton] at lt
      omega
    simp [none, none', Nat.ne_of_gt gt]

/-- A name that is not held is added by a call that ensures it. -/
theorem lastAddedAt_concat_of_added (added : call = .ensure name) (absent : ¬Holds [] history name) :
    LastAddedAt (history ++ [call]) name place ↔ place = history.length := by
  constructor
  · rintro ⟨now, last⟩
    have later := last history.length (addedAt_concat_iff.2 (.inr ⟨rfl, added, absent⟩))
    have lt := now.lt
    rw [List.length_append, List.length_singleton] at lt
    omega
  · rintro rfl
    refine ⟨addedAt_concat_iff.2 (.inr ⟨rfl, added, absent⟩), fun other now => ?_⟩
    have lt := now.lt
    rw [List.length_append, List.length_singleton] at lt
    omega

/-- A name that is held is not added again. -/
theorem lastAddedAt_concat_of_holds (held : Holds [] history name) :
    LastAddedAt (history ++ [call]) name place ↔ LastAddedAt history name place := by
  have same (place : Nat) : AddedAt (history ++ [call]) name place ↔ AddedAt history name place := by
    rw [addedAt_concat_iff, or_iff_left fun h => h.2.2 held]
  simp only [LastAddedAt, same]

/-- Whether names stand in the order in which a history added each of them last. -/
structure InOrder (history : List Call) (names : List String) : Prop where
  added : ∀ name ∈ names, ∃ place, LastAddedAt history name place
  order : names.Pairwise fun name other => ∀ place later, LastAddedAt history name place →
    LastAddedAt history other later → place < later

/-- Taking names out keeps the order of the others. -/
theorem InOrder.sublist {names others : List String} (h : InOrder history names)
    (sub : others.Sublist names) : InOrder history others :=
  ⟨fun name mem => h.added name (sub.subset mem), h.order.sublist sub⟩

/-- No call changes the order of the names that are there. -/
theorem InOrder.concat {names : List String} (h : InOrder history names)
    (held : ∀ name ∈ names, Holds [] history name) (call : Call) :
    InOrder (history ++ [call]) names := by
  constructor
  · intro name mem
    obtain ⟨place, last⟩ := h.added name mem
    exact ⟨place, (lastAddedAt_concat_of_holds (held name mem)).2 last⟩
  · refine h.order.imp_of_mem ?_
    intro name other mem mem' order place later last last'
    rw [lastAddedAt_concat_of_holds (held name mem)] at last
    rw [lastAddedAt_concat_of_holds (held other mem')] at last'
    exact order place later last last'

/-- A name that is added comes behind those that are there. -/
theorem InOrder.concat_ensure {names : List String} (h : InOrder history names)
    (held : ∀ other ∈ names, Holds [] history other) (absent : ¬Holds [] history name) :
    InOrder (history ++ [.ensure name]) (names ++ [name]) := by
  have before := h.concat held (.ensure name)
  constructor
  · intro other mem
    rcases List.mem_append.1 mem with mem | mem
    · exact before.added other mem
    · obtain rfl := List.mem_singleton.1 mem
      exact ⟨history.length, (lastAddedAt_concat_of_added rfl absent).2 rfl⟩
  · refine List.pairwise_append.2 ⟨before.order, List.pairwise_singleton _ _, ?_⟩
    intro other mem name' mem' place later last last'
    obtain rfl := List.mem_singleton.1 mem'
    rw [(lastAddedAt_concat_of_added rfl absent).1 last']
    exact ((lastAddedAt_concat_of_holds (held other mem)).1 last).1.lt

/-- The names of a set stand in the order in which each was added last. -/
theorem inOrder_after (history : List Call) : InOrder history (empty.after history).toList := by
  induction history using List.reverseRecOn with
  | nil => exact ⟨fun name mem => absurd mem List.not_mem_nil, .nil⟩
  | append_singleton history call ih =>
    have held (name : String) : name ∈ (empty.after history).toList ↔ Holds [] history name :=
      mem_after_iff [] history
    rw [after_concat]
    -- one more call puts a name behind the others, takes one out, or changes nothing
    generalize empty.after history = fields at ih held
    have same := ih.concat (fun name mem => (held name).1 mem) call
    have answers := answers_call fields call
    generalize (fields.call call).1 = answer, (fields.call call).2 = next at answers
    cases answers with
    | added absent behind =>
      rw [behind]
      exact ih.concat_ensure (fun name mem => (held name).1 mem) (mt (held _).2 absent)
    | removed present others =>
      rw [others]
      rw [present] at same
      exact same.sublist (.append_left (List.sublist_cons_self ..) _)
    | kept | missing | found | lacking => exact same

/-! ## What a history leads to -/

/-- What is true of a set that began with some names and then took some calls. -/
structure Remembers (names : List String) (calls : List Call) (fields : FieldSet) : Prop where
  once : fields.toList.Nodup
  held : ∀ name, name ∈ fields.toList ↔ Holds names calls name
  inOrder : InOrder (names.map .ensure ++ calls) fields.toList
  next : ∀ call answer next, fields.call call = (answer, next) ↔ fields.Answers call answer next

/-- A list names each field at its first place, and whatever calls come after it, the set keeps the
record of them. -/
theorem remembers_after : (∀ names, (ofList names).toList = names.eraseDups) ∧
    ∀ names calls, Remembers names calls ((ofList names).after calls) := by
  refine ⟨toList_ofList, fun names calls => ?_⟩
  refine ⟨FieldSet.nodup _, fun name => mem_after_iff names calls, ?_, fun _ _ _ => call_eq_iff⟩
  rw [ofList_after]
  exact inOrder_after _

/-- What is taken out and added again comes last. -/
example : ((ofList ["id", "name", "id"]).after [.remove "id", .ensure "name", .ensure "id"]).toList =
    ["name", "id"] := by decide

end Retrieval.FieldSet
