import Mathlib.Data.List.Perm.Basic
import Retrieval.Proofs.Command.Arguments

/-!
# Groups of arguments

A command line that is complete falls into groups: flags, options with their values, and a query.
Reading a group takes what it says into the draft (`Draft.scan?_group`), so by induction a list of
groups leads to the draft that takes all of them in turn, or to help if one of them asks for it
(`Draft.scan?_groups`).

What a draft holds in the end depends on the groups in few ways: on the last value for each option
(`Draft.value?_takeAll`), on the query, of which there is one at most, and on whether the steps are
to be reported. `Group.command` is the command by these alone, and none of them changes when groups
are put in another order in which the values for each option keep theirs (`Reorders`).
-/

namespace Retrieval.Command

/-- Arguments that belong together and leave nothing open. -/
inductive Group (kind : Kind) where
  | help (word : String) (spelled : word ∈ ["-h", "--help"])
  | verbose (word : String) (spelled : word ∈ ["-v", "--verbose"])
  | apart (option : Opt) (accepted : option ∈ kind.options) (value : String)
  | joined (option : Opt) (accepted : option ∈ kind.options) (value : String)
  | query (text : String) (taken : kind.hasQuery) (plain : text.toList.head? ≠ some '-')
deriving DecidableEq

variable {kind : Kind}

namespace Group

/-- The arguments of a group. -/
def arguments : Group kind → List String
  | help word _ | verbose word _ | query word _ _ => [word]
  | apart option _ value => [option.spelling, value]
  | joined option _ value => [option.joined value]

/-- The value that a group gives to an option. Joined to its option, it is without repetitions of
the option. -/
def value? (option : Opt) : Group kind → Option String
  | apart other _ value => if other = option then some value else none
  | joined other _ value => if other = option then some (option.stripped value) else none
  | help .. | verbose .. | query .. => none

/-- The query of a group. -/
def query? : Group kind → Option String
  | query text _ _ => some text
  | help .. | verbose .. | apart .. | joined .. => none

/-- Whether a group asks for help. -/
def asksHelp : Group kind → Bool
  | help .. => true
  | verbose .. | apart .. | joined .. | query .. => false

/-- Whether a group asks for a report of the steps. -/
def asksReport : Group kind → Bool
  | verbose .. => true
  | help .. | apart .. | joined .. | query .. => false

/-! ## The command of some groups -/

/-- The last value that is given to an option. -/
def last? (groups : List (Group kind)) (option : Opt) : Option String :=
  (groups.filterMap (value? option)).getLast?

/-- The query without the question marks at its beginning; empty if there is none. -/
def queryText (groups : List (Group kind)) : String :=
  match (groups.filterMap query?).getLast? with
  | none => ""
  | some text => String.ofList (text.toList.dropWhile (· = '?'))

/-- What some groups tell a command on a query, for which they have to name a resource. -/
def queryOptions (groups : List (Group kind)) : Except UsageError QueryOptions :=
  match last? groups .resource with
  | none => .error .missingResource
  | some resource => .ok
    { config := (last? groups .config).getD "reqplan.toml", database := last? groups .database
      resource, entity := last? groups .entity, query := queryText groups
      verbose := groups.any asksReport }

/-- What some groups tell a check. -/
def checkOptions (groups : List (Group kind)) : CheckOptions :=
  { config := (last? groups .config).getD "reqplan.toml", verbose := groups.any asksReport }

end Group

/-- The command of a kind, by what commands on queries and checks are told. -/
def Kind.telling (queryOptions : Except UsageError QueryOptions) (checkOptions : CheckOptions) :
    Kind → Except UsageError Command
  | explain => queryOptions.map .explain
  | run => queryOptions.map .run
  | check => .ok (.check checkOptions)

/-- The command of some groups: help if one of them asks for it, and else what they say. -/
def Group.command (groups : List (Group kind)) : Except UsageError Command :=
  if groups.any asksHelp then .ok (.help kind)
  else kind.telling (queryOptions groups) (checkOptions groups)

/-- Whether some groups are others in an order in which the values for each option keep theirs. -/
structure Reorders (groups others : List (Group kind)) : Prop where
  perm : groups.Perm others
  values : ∀ option, groups.filterMap (Group.value? option) = others.filterMap (Group.value? option)

/-! ## Drafts -/

namespace Draft

variable {draft : Draft} {group : Group kind}

/-- The draft with what a group says. -/
def take (draft : Draft) : Group kind → Draft
  | .help .. => draft
  | .verbose .. => { draft with verbose := true }
  | .apart option _ value => draft.set option value
  | .joined option _ value => draft.set option (option.stripped value)
  | .query text _ _ => { draft with query := some (queryOf text) }

/-- The value of an option in a draft. -/
def value? (draft : Draft) : Opt → Option String
  | .config => some draft.config
  | .database => draft.database
  | .resource => draft.resource
  | .entity => draft.entity

/-- Setting an option leaves the values of the others. -/
theorem value?_set (draft : Draft) (option other : Opt) (value : String) :
    (draft.set other value).value? option =
      if other = option then some value else draft.value? option := by
  cases option <;> cases other <;> rfl

/-- A group gives its own option a value and leaves the others. -/
theorem value?_take (draft : Draft) (group : Group kind) (option : Opt) :
    (draft.take group).value? option = (group.value? option).or (draft.value? option) := by
  cases group with
  | help | verbose | query => cases option <;> rfl
  | apart other _ value =>
    rw [take, value?_set, Group.value?]
    split <;> rfl
  | joined other _ value =>
    rw [take, value?_set, Group.value?]
    split
    case isTrue same => rw [same]; rfl
    case isFalse => rfl

/-- Only the group of a query changes the query. -/
theorem query_take (draft : Draft) (group : Group kind) :
    (draft.take group).query = (group.query?.map queryOf).or draft.query := by
  cases group with
  | help | verbose | query => rfl
  | apart option | joined option => cases option <;> rfl

/-- Only the group that asks for a report changes that. -/
theorem verbose_take (draft : Draft) (group : Group kind) :
    (draft.take group).verbose = (draft.verbose || group.asksReport) := by
  cases group with
  | help | query => exact (Bool.or_false _).symm
  | verbose => exact (Bool.or_true _).symm
  | apart option | joined option => cases option <;> exact (Bool.or_false _).symm

/-- What each group may give goes into the draft over what was there, so the last that is given
stays. -/
theorem takeAll_last {α : Type} (held : Draft → Option α) (given : Group kind → Option α)
    (step : ∀ draft group, held (draft.take group) = (given group).or (held draft))
    (draft : Draft) (groups : List (Group kind)) :
    held (groups.foldl take draft) = (groups.filterMap given).getLast?.or (held draft) := by
  induction groups generalizing draft with
  | nil => rfl
  | cons group groups ih =>
    rw [List.foldl_cons, ih, step, List.filterMap_cons]
    cases given group with
    | none => rfl
    | some value =>
      rw [List.getLast?_cons]
      cases (groups.filterMap given).getLast? <;> rfl

/-- Of all values for an option the last counts. -/
theorem value?_takeAll (draft : Draft) (groups : List (Group kind)) (option : Opt) :
    (groups.foldl take draft).value? option = (Group.last? groups option).or (draft.value? option) :=
  takeAll_last (·.value? option) (Group.value? option)
    (fun draft group => value?_take draft group option) draft groups

/-- Of all queries the last counts. -/
theorem query_takeAll (draft : Draft) (groups : List (Group kind)) :
    (groups.foldl take draft).query =
      ((groups.filterMap Group.query?).getLast?.map queryOf).or draft.query := by
  rw [takeAll_last (·.query) (·.query?.map queryOf) query_take, ← List.map_filterMap, List.getLast?_map]

/-- One request for a report is enough. -/
theorem verbose_takeAll (draft : Draft) (groups : List (Group kind)) :
    (groups.foldl take draft).verbose = (draft.verbose || groups.any Group.asksReport) := by
  induction groups generalizing draft with
  | nil => exact (Bool.or_false _).symm
  | cons group groups ih => rw [List.foldl_cons, ih, verbose_take, List.any_cons, Bool.or_assoc]

/-! ## Reading groups -/

/-- Reading a group takes what it says, unless it asks for help or for a second query. -/
theorem scan?_group (group : Group kind) (rest : List String)
    (single : group.query?.isSome → draft.query = none) :
    draft.scan? kind (group.arguments ++ rest) =
      if group.asksHelp then .ok none else (draft.take group).scan? kind rest := by
  cases group with
  | help word spelled =>
    refine scan?_of_help (if_pos ?_)
    simpa using spelled
  | verbose word spelled =>
    refine scan?_of_verbose ?_
    rcases List.mem_pair.1 spelled with rfl | rfl <;> rfl
  | apart option accepted value => exact scan?_of_option (Argument.ofText_option accepted) value
  | joined option accepted value => exact scan?_of_setting (Argument.ofText_joined accepted)
  | query text taken plain =>
    have none : ¬draft.query.isSome := by simp [single rfl]
    exact (scan?_of_query (Argument.ofText_query taken plain)).trans (if_neg none)

/-- Groups with one query at most lead to the draft that takes all of them, or to help. -/
theorem scan?_groups (groups : List (Group kind))
    (single : draft.query.toList.length + (groups.filterMap Group.query?).length ≤ 1) :
    draft.scan? kind (groups.flatMap Group.arguments) =
      .ok (if groups.any Group.asksHelp then none else some (groups.foldl take draft)) := by
  induction groups generalizing draft with
  | nil => rfl
  | cons group groups ih =>
    rw [List.filterMap_cons] at single
    rw [List.flatMap_cons, scan?_group, List.any_cons]
    · -- help ends the scan; otherwise the draft has taken the group and at most one query
      cases help : group.asksHelp with
      | true => rfl
      | false =>
        refine ih ?_
        rw [query_take]
        cases query : group.query? with
        | none => simpa [query] using single
        | some text =>
          simp only [query, List.length_cons] at single
          show 1 + (groups.filterMap Group.query?).length ≤ 1
          omega
    · intro some
      obtain ⟨text, query⟩ := Option.isSome_iff_exists.1 some
      simp only [query, List.length_cons] at single
      rw [← Option.toList_eq_nil_iff, ← List.length_eq_zero_iff]
      omega

end Draft

/-! ## Command lines of groups -/

/-- A missing query is read like an empty one. -/
theorem queryText_eq (groups : List (Group kind)) :
    (groups.foldl Draft.take .start).query.getD "" = Group.queryText groups := by
  rw [Draft.query_takeAll, Group.queryText]
  cases (groups.filterMap Group.query?).getLast? with
  | none => rfl
  | some text => exact congrArg String.ofList (Text.dropRepeated_singleton '?' text.toList)

/-- In the end a draft says what the groups do. -/
theorem command_takeAll (groups : List (Group kind)) :
    (groups.foldl Draft.take .start).command kind =
      kind.telling (Group.queryOptions groups) (Group.checkOptions groups) := by
  have config : some (groups.foldl Draft.take .start).config =
      some ((Group.last? groups .config).getD "reqplan.toml") :=
    (Draft.value?_takeAll .start groups .config).trans Option.or_some
  have database : (groups.foldl Draft.take .start).database = Group.last? groups .database :=
    (Draft.value?_takeAll .start groups .database).trans Option.or_none
  have resource : (groups.foldl Draft.take .start).resource = Group.last? groups .resource :=
    (Draft.value?_takeAll .start groups .resource).trans Option.or_none
  have entity : (groups.foldl Draft.take .start).entity = Group.last? groups .entity :=
    (Draft.value?_takeAll .start groups .entity).trans Option.or_none
  have query := queryText_eq groups
  have verbose : (groups.foldl Draft.take .start).verbose = groups.any Group.asksReport :=
    (Draft.verbose_takeAll .start groups).trans (Bool.false_or _)
  generalize groups.foldl Draft.take .start = draft at config database resource entity query verbose
  rw [Option.some.injEq] at config
  have options : draft.queryOptions = Group.queryOptions groups := by
    rw [Draft.queryOptions, Group.queryOptions, resource]
    cases Group.last? groups .resource with
    | none => rfl
    | some name => simp only [config, database, entity, query, verbose]
  cases kind with
  | explain => exact congrArg (Except.map Command.explain) options
  | run => exact congrArg (Except.map Command.run) options
  | check => rw [Draft.command, config, verbose]; rfl

/-- A command line of groups is the command of the groups. -/
theorem ofArguments_arguments (groups : List (Group kind))
    (single : (groups.filterMap Group.query?).length ≤ 1) :
    ofArguments (kind.word :: groups.flatMap Group.arguments) = Group.command groups := by
  have scanned : Draft.start.scan? kind (groups.flatMap Group.arguments) = _ :=
    Draft.scan?_groups groups (by simpa [Draft.start] using single)
  rw [ofArguments_word, Kind.command, scanned, Group.command]
  cases groups.any Group.asksHelp with
  | true => rfl
  | false => exact command_takeAll groups

/-! ## Other orders -/

namespace Reorders

variable {groups others : List (Group kind)}

/-- Every option has the same last value. -/
theorem last?_eq (h : Reorders groups others) : Group.last? others = Group.last? groups := by
  funext option
  rw [Group.last?, Group.last?, h.values]

/-- One query at most is the last in every order. -/
theorem queryText_eq (h : Reorders groups others)
    (single : (groups.filterMap Group.query?).length ≤ 1) :
    Group.queryText others = Group.queryText groups := by
  have perm := h.perm.filterMap Group.query?
  -- one query at most has one order only
  have same : groups.filterMap Group.query? = others.filterMap Group.query? := by
    match eq : groups.filterMap Group.query? with
    | [] =>
      rw [eq] at perm
      exact perm.nil_eq
    | [text] =>
      rw [eq] at perm
      exact (List.perm_singleton.1 perm.symm).symm
    | _ :: _ :: _ => simp [eq] at single
  rw [Group.queryText, Group.queryText, same]

/-- The order changes nothing that the command is made of. -/
theorem command_eq (h : Reorders groups others)
    (single : (groups.filterMap Group.query?).length ≤ 1) :
    Group.command others = Group.command groups := by
  rw [Group.command, Group.command, Group.queryOptions, Group.queryOptions, Group.checkOptions,
    Group.checkOptions, h.last?_eq, h.queryText_eq single, h.perm.any_eq, h.perm.any_eq]

end Reorders

/-- A command line of groups with one query at most is the command of its groups, in whatever order
they stand. -/
theorem ofArguments_reordered {groups others : List (Group kind)} (h : Reorders groups others)
    (single : (groups.filterMap Group.query?).length ≤ 1) :
    ofArguments (kind.word :: others.flatMap Group.arguments) = Group.command groups ∧
      ofArguments (kind.word :: others.flatMap Group.arguments) =
        ofArguments (kind.word :: groups.flatMap Group.arguments) ∧
      UsageError.missingResource.message = "--resource is required" := by
  have single' : (others.filterMap Group.query?).length ≤ 1 :=
    (h.perm.filterMap Group.query?).length_eq ▸ single
  rw [ofArguments_arguments others single', ofArguments_arguments groups single, h.command_eq single]
  exact ⟨rfl, rfl, rfl⟩

/-- Groups of an execution. A value looks like a request for help, and the resource is given twice.
-/
def Example.groups : List (Group .run) :=
  [.apart .resource (by decide) "Tag", .verbose "-v" (by decide),
    .apart .entity (by decide) "--help", .query "??page=2" rfl (by decide),
    .joined .config (by decide) "a=b", .apart .resource (by decide) "Post"]

/-- The same groups in another order; the resource that is given last stays behind the other one. -/
def Example.others : List (Group .run) :=
  [.query "??page=2" rfl (by decide), .apart .entity (by decide) "--help",
    .apart .resource (by decide) "Tag", .joined .config (by decide) "a=b",
    .apart .resource (by decide) "Post", .verbose "-v" (by decide)]

/-- One command line in two orders, with options given twice and values that look like options. -/
theorem ofArguments_reordered_run : Reorders Example.groups Example.others ∧
    (Example.groups.filterMap Group.query?).length ≤ 1 ∧
    ofArguments ["run", "??page=2", "--show", "--help", "--resource", "Tag", "--config=a=b",
        "--resource", "Post", "-v"] = .ok (.run
      { config := "a=b", database := none, resource := "Post", entity := some "--help"
        query := "page=2", verbose := true }) ∧
    ofArguments ["run", "--resource", "Tag", "-v", "--show", "--help", "??page=2", "--config=a=b",
        "--resource", "Post"] =
      ofArguments ["run", "??page=2", "--show", "--help", "--resource", "Tag", "--config=a=b",
        "--resource", "Post", "-v"] := by
  have reorders : Reorders Example.groups Example.others := by
    refine ⟨by decide, fun option => ?_⟩
    cases option <;> rfl
  have single : (Example.groups.filterMap Group.query?).length ≤ 1 := by decide
  obtain ⟨result, same, -⟩ := ofArguments_reordered reorders single
  have command : Group.command Example.groups = .ok (.run
      { config := "a=b", database := none, resource := "Post", entity := some "--help"
        query := "page=2", verbose := true }) := by cbv
  exact ⟨reorders, single, result.trans command, same.symm⟩

end Retrieval.Command
