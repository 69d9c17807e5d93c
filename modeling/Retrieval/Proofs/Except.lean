import Mathlib.Data.List.Forall2
import Retrieval.Failure

/-!
# Computations that may fail

A computation in steps gives a result when each step does (`Except.bind_eq_ok_iff`), and one for
every member of a list gives the results one by one (`Except.forall₂_of_mapM`). If it gives none,
the error is that of the first step that fails (`Except.error?_bind`, `Except.error?_mapM`).

Two computations agree when they fail alike or give related results (`Except.Agree`). Agreement is
shown step by step, for both at once.
-/

namespace Except

variable {ε α β : Type}

/-- Two steps give a result if both do. -/
theorem bind_eq_ok_iff {x : Except ε α} {f : α → Except ε β} {b : β} :
    x >>= f = .ok b ↔ ∃ a, x = .ok a ∧ f a = .ok b := by
  cases x with
  | error => simp [bind, Except.bind]
  | ok => simp [bind, Except.bind]

/-- The second step is taken only if the first gives a result. -/
theorem bind_eq_error_iff {x : Except ε α} {f : α → Except ε β} {e : ε} :
    x >>= f = .error e ↔ x = .error e ∨ ∃ a, x = .ok a ∧ f a = .error e := by
  cases x with
  | error => simp [bind, Except.bind]
  | ok => simp [bind, Except.bind]

theorem pure_eq_ok_iff {a b : α} : (pure a : Except ε α) = .ok b ↔ a = b := by
  simp [pure, Except.pure]

theorem pure_ne_error {a : α} {e : ε} : (pure a : Except ε α) ≠ .error e := by
  simp [pure, Except.pure]

/-- A mapped result comes from a result. -/
theorem map_eq_ok_iff {x : Except ε α} {f : α → β} {b : β} :
    x.map f = .ok b ↔ ∃ a, x = .ok a ∧ f a = b := by
  cases x with
  | error => simp [Except.map]
  | ok => simp [Except.map]

/-- What is made of a result is no reason to fail. -/
theorem map_eq_error_iff {x : Except ε α} {f : α → β} {e : ε} :
    x.map f = .error e ↔ x = .error e := by
  cases x with
  | error => simp [Except.map]
  | ok => simp [Except.map]

/-- A computation whose error is told in other words gives the result that it gave. -/
theorem mapError_eq_ok_iff {ε' : Type} {x : Except ε α} {f : ε → ε'} {a : α} :
    x.mapError f = .ok a ↔ x = .ok a := by
  cases x with
  | error e =>
    show Except.error (f e) = .ok a ↔ _
    simp
  | ok b =>
    show Except.ok b = .ok a ↔ _
    simp

/-- A renamed failure comes from a failure. -/
theorem mapError_eq_error_iff {ε' : Type} {x : Except ε α} {f : ε → ε'} {e : ε'} :
    x.mapError f = .error e ↔ ∃ cause, x = .error cause ∧ f cause = e := by
  cases x with
  | error cause =>
    show Except.error (f cause) = .error e ↔ _
    simp
  | ok a =>
    show Except.ok a = .error e ↔ _
    simp

/-- The results for a list stand at the places of its members. -/
theorem forall₂_of_mapM {f : α → Except ε β} {l : List α} {results : List β}
    (h : l.mapM f = .ok results) : List.Forall₂ (fun a b => f a = .ok b) l results := by
  induction l generalizing results with
  | nil =>
    rw [List.mapM_nil, pure_eq_ok_iff] at h
    exact h ▸ .nil
  | cons a rest ih =>
    simp only [List.mapM_cons, bind_eq_ok_iff, pure_eq_ok_iff] at h
    obtain ⟨b, first, others, later, rfl⟩ := h
    exact .cons first (ih later)

/-- A list of results is put together of the single ones. -/
theorem mapM_of_forall₂ {f : α → Except ε β} {l : List α} {results : List β}
    (h : List.Forall₂ (fun a b => f a = .ok b) l results) : l.mapM f = .ok results := by
  induction h with
  | nil => rfl
  | cons first _ ih =>
    rw [List.mapM_cons, first, ih]
    rfl

/-- Every result is that of some entry. -/
theorem exists_of_mem_mapM {f : α → Except ε β} {l : List α} {results : List β}
    (h : l.mapM f = .ok results) {b : β} (mem : b ∈ results) : ∃ a ∈ l, f a = .ok b := by
  have results_of := forall₂_of_mapM h
  clear h
  induction results_of with
  | nil => exact absurd mem List.not_mem_nil
  | @cons a _ _ _ first _ ih =>
    rcases List.mem_cons.1 mem with rfl | mem
    · exact ⟨a, List.mem_cons_self, first⟩
    · obtain ⟨a, inRest, found⟩ := ih mem
      exact ⟨a, List.mem_cons_of_mem _ inRest, found⟩

/-- Every entry has a result. -/
theorem exists_result_of_mem {f : α → Except ε β} {l : List α} {results : List β}
    (h : l.mapM f = .ok results) {a : α} (mem : a ∈ l) : ∃ b ∈ results, f a = .ok b := by
  have results_of := forall₂_of_mapM h
  clear h
  induction results_of with
  | nil => exact absurd mem List.not_mem_nil
  | @cons _ b _ _ first _ ih =>
    rcases List.mem_cons.1 mem with rfl | mem
    · exact ⟨b, List.mem_cons_self, first⟩
    · obtain ⟨b, inRest, found⟩ := ih mem
      exact ⟨b, List.mem_cons_of_mem _ inRest, found⟩

/-! ## Errors -/

/-- The error of a computation, if it fails. -/
def error? : Except ε α → Option ε
  | .error e => some e
  | .ok _ => none

theorem error?_eq_none_iff {x : Except ε α} : x.error? = none ↔ ∃ a, x = .ok a := by
  cases x with
  | error => simp [error?]
  | ok => simp [error?]

theorem error?_eq_some_iff {x : Except ε α} {e : ε} : x.error? = some e ↔ x = .error e := by
  cases x with
  | error => simp [error?]
  | ok => simp [error?]

/-- The error of two steps is that of the first, or else that of the second. -/
theorem error?_bind {x : Except ε α} {f : α → Except ε β} {e : Option ε}
    (second : ∀ a, x = .ok a → (f a).error? = e) : (x >>= f).error? = x.error?.or e := by
  cases x with
  | error => rfl
  | ok a => exact second a rfl

/-- A list fails as the first of its entries that fails. -/
theorem error?_mapM (f : α → Except ε β) (l : List α) :
    (l.mapM f).error? = l.findSome? fun a => (f a).error? := by
  induction l with
  | nil => rfl
  | cons a rest ih =>
    have others : ∀ b, f a = .ok b →
        (rest.mapM f >>= fun results => pure (b :: results)).error? = (rest.mapM f).error? := by
      intro b _
      cases rest.mapM f with
      | error => rfl
      | ok => rfl
    rw [List.mapM_cons, error?_bind others, ih, List.findSome?_cons]
    cases (f a).error? with
    | none => rfl
    | some => rfl

/-! ## Two computations -/

/-- Two computations that have the same error or give related results. -/
inductive Agree (Related : α → β → Prop) : Except ε α → Except ε β → Prop where
  | error (e : ε) : Agree Related (.error e) (.error e)
  | ok {a : α} {b : β} (related : Related a b) : Agree Related (.ok a) (.ok b)

namespace Agree

variable {α' β' : Type} {Related : α → α' → Prop} {Related' : β → β' → Prop}

theorem pure {a : α} {a' : α'} (h : Related a a') :
    Agree Related (Pure.pure a : Except ε α) (Pure.pure a') := .ok h

/-- Steps that agree go on with related results, and fail alike. -/
theorem bind {x : Except ε α} {x' : Except ε α'} {f : α → Except ε β} {f' : α' → Except ε β'}
    (h : Agree Related x x') (h' : ∀ a a', Related a a' → Agree Related' (f a) (f' a')) :
    Agree Related' (x >>= f) (x' >>= f') := by
  cases h with
  | error e => exact .error e
  | ok related => exact h' _ _ related

/-- Two computations that begin with the same step. -/
theorem step {x : Except ε α} {f : α → Except ε β} {f' : α → Except ε β'}
    (h : ∀ a, Agree Related' (f a) (f' a)) : Agree Related' (x >>= f) (x >>= f') := by
  cases x with
  | error e => exact .error e
  | ok a => exact h a

/-- Two computations for the members of a list. -/
theorem each {f : α → Except ε β} {f' : α → Except ε β'} (h : ∀ a, Agree Related' (f a) (f' a))
    (l : List α) : Agree (List.Forall₂ Related') (l.mapM f) (l.mapM f') := by
  induction l with
  | nil => exact .ok .nil
  | cons a rest ih =>
    rw [List.mapM_cons, List.mapM_cons]
    refine (h a).bind fun b b' first => ih.bind fun others others' later => ?_
    exact .pure (.cons first later)

/-- Two computations for the members of a list, each before and after a change. -/
theorem mapM {change : α → α'} {f : α → Except ε β} {f' : α' → Except ε β'}
    (h : ∀ a, Agree Related' (f a) (f' (change a))) (l : List α) :
    Agree (List.Forall₂ Related') (l.mapM f) ((l.map change).mapM f') := by
  rw [List.mapM_map]
  exact each h l

/-- Two computations that agree with a third one agree with each other. -/
theorem of_third {Same : α → α → Prop} (same : Equivalence Same) {x y z : Except ε α}
    (h : Agree Same x z) (h' : Agree Same y z) : Agree Same x y := by
  cases h with
  | error e =>
    cases h'
    exact .error e
  | ok left =>
    cases h' with
    | ok right => exact .ok (same.trans left (same.symm right))

/-- Of two that agree both fail or neither. -/
theorem error_iff {x : Except ε α} {x' : Except ε α'} (h : Agree Related x x') (e : ε) :
    x = .error e ↔ x' = .error e := by
  cases h with
  | error e' => rw [Except.error.injEq, Except.error.injEq]
  | ok => simp

theorem error?_eq {x : Except ε α} {x' : Except ε α'} (h : Agree Related x x') :
    x.error? = x'.error? := by
  cases h <;> rfl

/-- Of two that agree both give a result or neither, and the results are related. -/
theorem exists_ok {x : Except ε α} {x' : Except ε α'} (h : Agree Related x x') {a : α}
    (given : x = .ok a) : ∃ a', x' = .ok a' ∧ Related a a' := by
  cases h with
  | error => exact absurd given (by simp)
  | ok related => exact ⟨_, rfl, Except.ok.inj given ▸ related⟩

/-- The first gives a result when the second does. -/
theorem exists_ok_left {x : Except ε α} {x' : Except ε α'} (h : Agree Related x x') {a' : α'}
    (given : x' = .ok a') : ∃ a, x = .ok a ∧ Related a a' := by
  cases h with
  | error => exact absurd given (by simp)
  | ok related => exact ⟨_, rfl, Except.ok.inj given ▸ related⟩

end Agree

end Except

/-! ## Work in place -/

namespace Retrieval.Editing

variable {σ α β : Type}

/-- What is done next is done to the state that is left, unless the work before fails. -/
theorem apply_bind (edit : Editing σ α) (next : α → Editing σ β) (state : σ) :
    (edit >>= next).apply state =
      match edit.apply state with
      | (.ok a, left) => (next a).apply left
      | (.error failure, left) => (.error failure, left) := by
  simp only [apply, ExceptT.run_bind, StateT.run_bind]
  rcases edit.run.run state with ⟨_ | _, left⟩ <;> rfl

/-- Where all that can fail is done before anything is changed, a failure leaves the state as it
was. -/
theorem apply_resolve (x : Except Failure α) (change : α → σ → σ) (state : σ) :
    (liftM x >>= fun a => modify (change a) : Editing σ Unit).apply state =
      match x with
      | .ok a => (.ok (), change a state)
      | .error failure => (.error failure, state) := by
  cases x <;> rfl

end Retrieval.Editing
