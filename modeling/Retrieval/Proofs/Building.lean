import Retrieval.Proofs.Plan.References

/-!
# Statements built in steps

However deep fragments are put into fragments, what is built says what a flat list of texts and
values says, its leaves (`Step.leaves`). A step adds its leaves behind those that are there, and one
that begins again puts its own in their place. How the leaves lie in the pieces of the statement is
another matter: text is written into text that stands before it, and spliced pieces stay apart.

A step fails when a name in it does not resolve, wherever it stands. All names are resolved before
the statement is touched, so it is then left as it was (`Step.apply_run`). So a statement
says what the leaves of the steps that did not fail say, and its text and its values are read off
them (`Statement.composes_build`).

Steps contain lists of steps and lists of such lists. The lemmas on runs come in threes, one for
each of these, and every case refers to the parts of its step only.
-/

namespace Retrieval

namespace Reference

instance (reference : Reference) : Decidable reference.Resolves :=
  match reference with
  | .name _ => inferInstanceAs (Decidable (_ = true))
  | .column _ _ => inferInstanceAs (Decidable (_ ∧ _))

/-- A name as it is written: every piece in quotes, behind the qualifier unless it is dotted. -/
def text : Reference → String
  | .name text =>
    String.ofList (List.intercalate ['.'] ((Text.split '.' text.toList).map Ident.quotePart))
  | .column qualifier text => columnText qualifier text

/-- A resolved name is written piece by piece in quotes. -/
theorem quoted_of_ident {reference : Reference} {i : Ident} (h : reference.ident = .ok i) :
    i.quoted = reference.text := by
  cases reference with
  | name name => rw [Ident.quoted, Ident.get_eq_ok_iff.1 h, text]
  | column qualifier name => rw [Ident.quoted, Ident.parts_of_column h, text, columnText]

end Reference

namespace Statement

/-! ## Leaves -/

/-- What a finished statement is made of. -/
inductive Leaf where
  | text (s : String)
  | value (param : Param)
deriving DecidableEq

namespace Leaf

/-- The bound value, if the leaf is one. -/
def param? : Leaf → Option Param
  | text _ => none
  | value param => some param

/-- The piece of a leaf. -/
def part : Leaf → Part
  | text s => .text s
  | value _ => .placeholder

/-- A leaf as it is written if its value has a given number. -/
def sql (number : Nat) : Leaf → String
  | text s => s
  | value _ => "$" ++ toString number

/-- Leaves one behind the other, every value written as its number among the values. -/
def written (leaves : List Leaf) : String :=
  String.join (leaves.mapIdx fun i leaf => leaf.sql (((leaves.take i).filterMap param?).length + 1))

end Leaf

/-- The statement of some leaves. -/
def ofLeaves (leaves : List Leaf) : Statement :=
  ⟨leaves.map Leaf.part, leaves.filterMap Leaf.param?⟩

namespace Step

/-- Whether a step begins again. -/
def isStart : Step → Bool
  | .start _ => true
  | _ => false

mutual

/-- The leaves that a step adds. -/
def leaves : Step → List Leaf
  | .start text => [.text text]
  | .push text => [.text text]
  | .bindText literal => [.value (.text literal)]
  | .bindInt n => [.value (.int8 n)]
  | .ident name => [.text (Reference.name name).text]
  | .column qualifier name => [.text (Reference.column qualifier name).text]
  | .splice steps => leavesAll steps
  | .join fragments separator => List.intercalate [.text separator] (leavesEach fragments)

/-- The leaves that several steps add: those from the last one on that begins again. -/
def leavesAll : List Step → List Leaf
  | [] => []
  | step :: rest => if rest.any isStart then leavesAll rest else leaves step ++ leavesAll rest

/-- The leaves of several fragments. -/
def leavesEach : List (List Step) → List (List Leaf)
  | [] => []
  | steps :: rest => leavesAll steps :: leavesEach rest

end

mutual

/-- The names in a step, in the order in which they are resolved. -/
def references : Step → List Reference
  | .ident name => [.name name]
  | .column qualifier name => [.column qualifier name]
  | .splice steps => referencesAll steps
  | .join fragments _ => referencesEach fragments
  | .start _ | .push _ | .bindText _ | .bindInt _ => []

/-- The names in several steps. -/
def referencesAll : List Step → List Reference
  | [] => []
  | step :: rest => references step ++ referencesAll rest

/-- The names in several fragments. -/
def referencesEach : List (List Step) → List Reference
  | [] => []
  | steps :: rest => referencesAll steps ++ referencesEach rest

end

/-- Whether every name in a step is an identifier where it stands. -/
def Sound (step : Step) : Prop := ∀ reference ∈ step.references, reference.Resolves

instance (step : Step) : Decidable step.Sound :=
  inferInstanceAs (Decidable (∀ reference ∈ step.references, _))

end Step

/-- The statement that a step leaves, whether or not it fails. -/
def after (statement : Statement) (step : Step) : Statement := (step.run.apply statement).2

/-- The statement that steps build from nothing, some of which may fail. -/
def build (steps : List Step) : Statement := steps.foldl after empty

/-- What is asked of a statement with some leaves. -/
structure Composes (statement : Statement) (leaves : List Leaf) : Prop where
  text : statement.text = Leaf.written leaves
  params : statement.params = leaves.filterMap Leaf.param?
  placeholders : statement.placeholders = statement.params.length
  validate : statement.validate = .ok ()
  isEmpty : statement.isEmpty = true ↔ statement.text = ""

/-! ## The statement of leaves -/

/-- Leaves behind leaves make one statement behind another. -/
theorem ofLeaves_append (leaves others : List Leaf) :
    ofLeaves (leaves ++ others) = ofLeaves leaves ++ ofLeaves others := by
  rw [ofLeaves, List.map_append, List.filterMap_append]
  rfl

/-- The separator is a leaf of its own between the leaves of any two fragments. -/
theorem joined_ofLeaves (separator : String) (fragments : List (List Leaf)) :
    joined separator (fragments.map ofLeaves) =
      ofLeaves (List.intercalate [.text separator] fragments) := by
  induction fragments with
  | nil => rfl
  | cons first rest ih =>
    cases rest with
    | nil =>
      rw [List.intercalate_singleton]
      exact append_empty (ofLeaves first)
    | cons second rest =>
      rw [List.intercalate_cons_cons, ofLeaves_append, ← ih, ofLeaves_append, append_assoc]
      rfl

/-- The number of a placeholder is one more than the values before it. -/
theorem textFrom_leaves (count : Nat) (leaves : List Leaf) :
    textFrom count (leaves.map Leaf.part) = String.join (leaves.mapIdx fun i leaf =>
      leaf.sql (count + ((leaves.take i).filterMap Leaf.param?).length + 1)) := by
  induction leaves generalizing count with
  | nil => rfl
  | cons leaf rest ih =>
    rw [List.map_cons, List.mapIdx_cons, String.join_cons]
    cases leaf with
    | text s => exact congrArg (s ++ ·) (ih count)
    | value param =>
      have number (n : Nat) : count + (n + 1) + 1 = count + 1 + n + 1 := by omega
      simp only [List.take_succ_cons, List.filterMap_cons, Leaf.param?, List.length_cons, number]
      exact congrArg (("$" ++ toString (count + 1)) ++ ·) (ih (count + 1))

/-- The text of a statement of leaves is written leaf by leaf. -/
theorem text_ofLeaves (leaves : List Leaf) : (ofLeaves leaves).text = Leaf.written leaves := by
  have numbered := textFrom_leaves 0 leaves
  simp only [Nat.zero_add] at numbered
  exact numbered

/-- Every value among the leaves has one placeholder. -/
theorem placeholders_ofLeaves (leaves : List Leaf) :
    (ofLeaves leaves).placeholders = (ofLeaves leaves).params.length := by
  induction leaves with
  | nil => rfl
  | cons leaf rest ih =>
    rw [← List.singleton_append, ofLeaves_append, placeholders_append, params_append,
      List.length_append, ih]
    cases leaf <;> rfl

/-- A placeholder is written, so only empty texts leave a statement empty. -/
theorem isEmpty_iff (statement : Statement) : statement.isEmpty = true ↔ statement.text = "" := by
  obtain ⟨parts, params⟩ := statement
  rw [isEmpty, text]
  dsimp only
  generalize 0 = count
  induction parts generalizing count with
  | nil => exact iff_of_true rfl rfl
  | cons part rest ih =>
    rw [List.all_cons, Bool.and_eq_true, ih]
    cases part with
    | text s => rw [textFrom, String.append_eq_empty_iff, String.isEmpty_iff]
    | placeholder =>
      refine iff_of_false (fun both => Bool.noConfusion both.1) fun none => ?_
      have sign := toList_placeholder count rest
      rw [none] at sign
      exact List.cons_ne_nil _ _ sign.symm

/-- What says the same as the leaves is made of them. -/
theorem composes_of_alike {statement : Statement} {leaves : List Leaf}
    (same : statement.Alike (ofLeaves leaves)) : statement.Composes leaves where
  text := same.text.trans (text_ofLeaves leaves)
  params := same.params
  placeholders := by rw [same.placeholders, same.params, placeholders_ofLeaves]
  validate := same.validate.trans (if_pos (placeholders_ofLeaves leaves))
  isEmpty := isEmpty_iff statement

/-! ## Runs -/

/-- The statement that some work leaves, if it does not fail. -/
def result (edit : Editing Statement Unit) (statement : Statement) : Except Failure Statement :=
  match edit.apply statement with
  | (.ok (), next) => .ok next
  | (.error failure, _) => .error failure

namespace Step

/-- What a step does to a statement once the names in it are resolved. -/
def effect : Step → Except Failure (Statement → Statement)
  | .start text => return fun _ => raw text
  | .push text => return (·.push text)
  | .bindText literal => return (·.pushValue (.text literal))
  | .bindInt n => return (·.pushValue (.int8 n))
  | .ident name => do
    let i ← Ident.get name
    return (·.pushIdent i)
  | .column qualifier name => do
    let i ← Ident.column qualifier name
    return (·.pushIdent i)
  | .splice steps => do
    let added ← result (runAll steps) empty
    return (· ++ added)
  | .join fragments separator => do
    let added ← runEach fragments
    return (·.pushJoined added separator)

/-- All names are resolved before anything is changed. -/
theorem apply_run (step : Step) (statement : Statement) : step.run.apply statement =
    match step.effect with
    | .ok effect => (.ok (), effect statement)
    | .error failure => (.error failure, statement) := by
  cases step with
  | start | push | bindText | bindInt => rfl
  | ident name =>
    rw [run, effect]
    refine (Editing.apply_resolve (Ident.get name) _ statement).trans ?_
    cases Ident.get name <;> rfl
  | column qualifier name =>
    rw [run, effect]
    refine (Editing.apply_resolve (Ident.column qualifier name) _ statement).trans ?_
    cases Ident.column qualifier name <;> rfl
  | splice steps =>
    rw [run, effect]
    refine (Editing.apply_resolve (result (runAll steps) empty) _ statement).trans ?_
    cases result (runAll steps) empty <;> rfl
  | join fragments separator =>
    rw [run, effect]
    refine (Editing.apply_resolve (runEach fragments) _ statement).trans ?_
    cases runEach fragments <;> rfl

/-- The steps behind a step go on from what it leaves. -/
theorem result_runAll_cons (step : Step) (rest : List Step) (statement : Statement) :
    result (runAll (step :: rest)) statement =
      step.effect >>= fun effect => result (runAll rest) (effect statement) := by
  rw [result, runAll, Editing.apply_bind, apply_run]
  cases step.effect <;> rfl

mutual

/-- A step fails as the first name in it that does not resolve. -/
theorem checks_effect : (step : Step) → Checks step.references step.effect
  | .start _ | .push _ | .bindText _ | .bindInt _ => .pure _
  | .ident name => .map (.ident (.name name))
  | .column qualifier name => .map (.ident (.column qualifier name))
  | .splice steps => by
    rw [references, effect]
    exact .map (checks_runAll empty steps)
  | .join fragments _ => by
    rw [references, effect]
    exact .map (checks_runEach fragments)

/-- Steps fail as the first name in them that does not resolve. -/
theorem checks_runAll (statement : Statement) : (steps : List Step) →
    Checks (referencesAll steps) (result (runAll steps) statement)
  | [] => .pure statement
  | step :: rest => by
    rw [referencesAll, result_runAll_cons]
    exact (checks_effect step).bind fun effect => checks_runAll (effect statement) rest

/-- Fragments fail as the first name in them that does not resolve. -/
theorem checks_runEach : (fragments : List (List Step)) →
    Checks (referencesEach fragments) (runEach fragments)
  | [] => .pure []
  | steps :: rest => by
    rw [referencesEach, runEach]
    exact (checks_runAll empty steps).bind fun _ => .map (checks_runEach rest)

end

mutual

/-- A step without a bad name adds its leaves, in place of all others if it begins again. -/
theorem exists_effect : (step : Step) → (∀ reference ∈ step.references, reference.Resolves) →
    ∃ effect, step.effect = .ok effect ∧ ∀ statement shown, Alike statement shown →
      Alike (effect statement) ((if step.isStart then empty else shown) ++ ofLeaves step.leaves)
  | .start text, _ => ⟨_, rfl, fun _ _ _ => .refl _⟩
  | .push text, _ => ⟨_, rfl, fun _ _ same => same.push text⟩
  | .bindText literal, _ => ⟨_, rfl, fun _ _ same => same.pushValue (.text literal)⟩
  | .bindInt n, _ => ⟨_, rfl, fun _ _ same => same.pushValue (.int8 n)⟩
  | .ident name, resolves => by
    obtain ⟨i, read⟩ := (Reference.exists_ident_iff (.name name)).2 (resolves _ List.mem_cons_self)
    rw [leaves, ← Reference.quoted_of_ident read, effect, show Ident.get name = .ok i from read]
    exact ⟨_, rfl, fun _ _ same => same.pushIdent i⟩
  | .column qualifier name, resolves => by
    obtain ⟨i, read⟩ := (Reference.exists_ident_iff (.column qualifier name)).2
      (resolves _ List.mem_cons_self)
    rw [leaves, ← Reference.quoted_of_ident read, effect,
      show Ident.column qualifier name = .ok i from read]
    exact ⟨_, rfl, fun _ _ same => same.pushIdent i⟩
  | .splice steps, resolves => by
    rw [references] at resolves
    -- what is spliced in was built from nothing, so it makes no difference whether it began again
    obtain ⟨added, built, alike⟩ := exists_runAll steps resolves (.refl empty)
    rw [ite_self, empty_append] at alike
    rw [effect, built]
    exact ⟨_, rfl, fun _ _ same => same.append alike⟩
  | .join fragments separator, resolves => by
    rw [references] at resolves
    obtain ⟨added, built, each⟩ := exists_runEach fragments resolves
    rw [effect, built, leaves, ← joined_ofLeaves]
    exact ⟨_, rfl, fun _ _ same => same.pushJoined each separator⟩

/-- Steps without a bad name add their leaves, and forget what was there if one of them begins
again. -/
theorem exists_runAll : (steps : List Step) →
    (∀ reference ∈ referencesAll steps, reference.Resolves) → ∀ {statement shown : Statement},
      Alike statement shown → ∃ next, result (runAll steps) statement = .ok next ∧
        Alike next ((if steps.any isStart then empty else shown) ++ ofLeaves (leavesAll steps))
  | [], _, statement, _, same => ⟨statement, rfl, same.before_empty⟩
  | step :: rest, resolves, statement, shown, same => by
    rw [referencesAll, List.forall_mem_append] at resolves
    obtain ⟨effect, resolved, adds⟩ := exists_effect step resolves.1
    obtain ⟨next, built, alike⟩ := exists_runAll rest resolves.2 (adds statement shown same)
    refine ⟨next, ?_, ?_⟩
    · rw [result_runAll_cons, resolved]
      exact built
    · rw [List.any_cons, leavesAll]
      -- what a later step throws away is not among the leaves
      cases later : rest.any isStart with
      | true =>
        rw [later, if_pos rfl] at alike
        rw [Bool.or_true, if_pos rfl, if_pos rfl]
        exact alike
      | false =>
        rw [later, if_neg Bool.false_ne_true, append_assoc, ← ofLeaves_append] at alike
        rw [Bool.or_false, if_neg Bool.false_ne_true]
        exact alike

/-- Fragments without a bad name are each built of their leaves. -/
theorem exists_runEach : (fragments : List (List Step)) →
    (∀ reference ∈ referencesEach fragments, reference.Resolves) →
      ∃ built, runEach fragments = .ok built ∧
        List.Forall₂ Alike built ((leavesEach fragments).map ofLeaves)
  | [], _ => ⟨[], rfl, .nil⟩
  | steps :: rest, resolves => by
    rw [referencesEach, List.forall_mem_append] at resolves
    obtain ⟨first, built, alike⟩ := exists_runAll steps resolves.1 (.refl empty)
    obtain ⟨others, built', each⟩ := exists_runEach rest resolves.2
    rw [ite_self, empty_append] at alike
    refine ⟨first :: others, ?_, .cons alike each⟩
    rw [runEach, show fragment (runAll steps) = .ok first from built, built']
    rfl

end

/-- A step whose names resolve does what it does to a statement. -/
theorem exists_effect_iff (step : Step) : (∃ effect, step.effect = .ok effect) ↔ step.Sound :=
  (checks_effect step).exists_iff

/-- The steps that fail may as well be left out. -/
theorem result_filter (statement : Statement) (steps : List Step) :
    result (runAll (steps.filter (·.Sound))) statement = .ok (steps.foldl after statement) := by
  induction steps generalizing statement with
  | nil => rfl
  | cons step rest ih =>
    rw [List.foldl_cons, after, apply_run]
    by_cases sound : step.Sound
    case pos =>
      obtain ⟨effect, resolved⟩ := (exists_effect_iff step).2 sound
      rw [List.filter_cons, if_pos (decide_eq_true sound), result_runAll_cons, resolved]
      exact ih (effect statement)
    case neg =>
      rw [List.filter_cons, if_neg (mt of_decide_eq_true sound), ih statement]
      cases failed : step.effect with
      | ok effect => exact absurd ((exists_effect_iff step).1 ⟨effect, failed⟩) sound
      | error => rfl

/-- The names in steps are those in each of them. -/
theorem referencesAll_eq (steps : List Step) : referencesAll steps = steps.flatMap references := by
  induction steps with
  | nil => rfl
  | cons step rest ih => rw [referencesAll, List.flatMap_cons, ih]

end Step

/-- A statement says what the leaves of the steps that did not fail say. -/
theorem alike_build (steps : List Step) :
    (build steps).Alike (ofLeaves (Step.leavesAll (steps.filter (·.Sound)))) := by
  have sound : ∀ reference ∈ Step.referencesAll (steps.filter (·.Sound)), reference.Resolves := by
    intro reference mem
    rw [Step.referencesAll_eq] at mem
    obtain ⟨step, inSteps, mem⟩ := List.mem_flatMap.1 mem
    exact of_decide_eq_true (List.mem_filter.1 inSteps).2 reference mem
  obtain ⟨next, built, alike⟩ := Step.exists_runAll _ sound (.refl empty)
  rw [ite_self, empty_append] at alike
  obtain rfl := Except.ok.inj ((Step.result_filter empty steps).symm.trans built)
  exact alike

/-- A statement that steps build, some of which may fail, is made of their leaves: texts that meet
are read as one whether or not they are one piece. A step fails exactly if a name in it does not
resolve, and leaves the statement as it was then. -/
theorem composes_build (steps : List Step) :
    (build steps).Composes (Step.leavesAll (steps.filter (·.Sound))) ∧
      ∀ step : Step, if step.Sound then
        step.run.apply (build steps) = (.ok (), build (steps ++ [step]))
      else
        build (steps ++ [step]) = build steps ∧
          ∃ error, step.run.apply (build steps) = (.error (.badIdent error), build steps) := by
  refine ⟨composes_of_alike (alike_build steps), fun step => ?_⟩
  have next : build (steps ++ [step]) = (step.run.apply (build steps)).2 := by
    rw [build, List.foldl_append]
    rfl
  rw [next, Step.apply_run]
  split
  case isTrue sound =>
    obtain ⟨effect, resolved⟩ := (Step.exists_effect_iff step).2 sound
    rw [resolved]
  case isFalse unsound =>
    cases failed : step.effect with
    | ok effect => exact absurd ((Step.exists_effect_iff step).1 ⟨effect, failed⟩) unsound
    | error failure =>
      obtain ⟨error, rfl⟩ := (Step.checks_effect step).badIdent_of_error failed
      exact ⟨rfl, error, rfl⟩

example : (build [.push "x", .start "SELECT 1 WHERE ", .ident "1x", .join [[.push "x = ",
    .bindText "a"], [.splice [.column "t" "y", .push " = "], .bindInt 2]] " AND "]).text =
      "SELECT 1 WHERE x = $1 AND \"t\".\"y\" = $2" := by
  decide +kernel

-- what is spliced in stays a piece of its own, and what is written behind it goes into it
example : (build [.push "a", .ident "b", .bindInt 1, .push "c", .splice [.push "d"],
    .push "e"]).parts = [.text "a\"b\"", .placeholder, .text "c", .text "de"] := by
  decide +kernel

end Statement

end Retrieval
