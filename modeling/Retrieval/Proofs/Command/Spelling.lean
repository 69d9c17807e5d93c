import Retrieval.Proofs.Command.Arguments
import Retrieval.Proofs.Query.Items
import Retrieval.Proofs.Query.Marks

/-!
# Spellings of options and queries

An option stands apart from its value or is joined to it. Apart, the value is the next argument as
it is. Joined, it is what is left when every repetition of the option is taken off the argument, and
not only the first one; so the two spellings can be exchanged unless the value itself begins with
the option (`exchangeable_joined_iff`).

The question marks in front of a query are taken off in the same way. The query that a command holds
is read as the one that was given unless that begins with two of them.
-/

namespace Retrieval.Command

/-- Whether some arguments end in an option whose value is still to come. What stands behind them is
that value and no argument by itself. -/
def Kind.Awaits (kind : Kind) (arguments : List String) : Prop :=
  ∃ option, Draft.start.scan? kind arguments = .error (.missingValue option)

/-- Whether some arguments may stand for others wherever an argument is read by itself. -/
def Kind.Exchangeable (kind : Kind) (arguments others : List String) : Prop :=
  ∀ before after, ¬kind.Awaits before →
    ofArguments (kind.word :: (before ++ (arguments ++ after))) =
      ofArguments (kind.word :: (before ++ (others ++ after)))

/-- The query of a command. -/
def query? : Command → Option String
  | explain options | run options => some options.query
  | help _ | check _ => none

/-- What a command holds for an option. -/
def value? (option : Opt) : Command → Option String
  | help _ => none
  | explain options | run options =>
    match option with
    | .config => some options.config
    | .database => options.database
    | .resource => some options.resource
    | .entity => options.entity
  | check options => some options.config

variable {kind : Kind} {option : Opt} {value : String}

/-- Where no value is still to come, arguments go on from what those before them lead to. -/
theorem scan?_of_not_awaits {before : List String} (whole : ¬kind.Awaits before)
    (rest : List String) :
    Draft.start.scan? kind (before ++ rest) = Draft.goOn kind rest (Draft.start.scan? kind before) :=
  Draft.scan?_append rest fun option waits => whole ⟨option, waits⟩

/-! ## Options -/

/-- What a draft makes of some arguments is all that is made of them. -/
theorem exchangeable_of_scan? {arguments others : List String}
    (h : ∀ (draft : Draft) after,
      draft.scan? kind (arguments ++ after) = draft.scan? kind (others ++ after)) :
    kind.Exchangeable arguments others := by
  intro before after whole
  have same : Draft.goOn kind (arguments ++ after) = Draft.goOn kind (others ++ after) := by
    funext result
    match result with
    | .error _ | .ok none => rfl
    | .ok (some draft) => exact h draft after
  rw [ofArguments_word, ofArguments_word, Kind.command, Kind.command, scan?_of_not_awaits whole,
    scan?_of_not_awaits whole, same]

/-- Joined to its option, a value is read without the repetitions of the option. -/
theorem exchangeable_stripped (accepted : option ∈ kind.options) (value : String) :
    kind.Exchangeable [option.joined value] [option.spelling, option.stripped value] := by
  refine exchangeable_of_scan? fun draft after => ?_
  exact (Draft.scan?_of_setting (Argument.ofText_joined accepted)).trans
    (Draft.scan?_of_option (Argument.ofText_option accepted) _).symm

/-- What is taken off a joined value is its beginning, as often as it is there. -/
theorem Opt.repeats_stripped (option : Opt) (value : String) :
    Text.Repeats option.opening value.toList (option.stripped value).toList := by
  rw [stripped, String.toList_ofList]
  exact (Text.dropRepeated_eq_iff option.opening_ne_nil).1 rfl

/-- A joined value is kept as it is unless it begins like an option and `=`. -/
theorem Opt.stripped_eq_self_iff : option.stripped value = value ↔ ¬option.opening <+: value.toList := by
  rw [← Text.dropRepeated_eq_self_iff option.opening_ne_nil, stripped, ← String.toList_inj,
    String.toList_ofList]

/-- The fewest arguments of a command. -/
def Kind.fewest : Kind → List String
  | explain | run => [Opt.resource.spelling, ""]
  | check => []

/-- The fewest arguments that a command can do with leave no option without a value. -/
theorem not_awaits_fewest (kind : Kind) : ¬kind.Awaits kind.fewest := by
  rintro ⟨option, waits⟩
  cases kind <;> cases waits

/-- Behind the fewest arguments, an option gets its value into the command. -/
theorem exists_value?_fewest (accepted : option ∈ kind.options) (value : String) :
    ∃ command, ofArguments (kind.word :: (kind.fewest ++ ([option.spelling, value] ++ []))) =
      .ok command ∧ command.value? option = some value := by
  cases kind <;> cases option <;> first
    | exact ⟨_, rfl, rfl⟩
    | exact absurd accepted (by decide)

/-- The spellings of an option and a value can be exchanged if and only if the value does not begin
with the option. -/
theorem exchangeable_joined_iff (accepted : option ∈ kind.options) :
    kind.Exchangeable [option.joined value] [option.spelling, value] ↔
      ¬option.opening <+: value.toList := by
  have stripped := exchangeable_stripped accepted value
  rw [← Opt.stripped_eq_self_iff]
  constructor
  · intro verbatim
    have eq := (stripped kind.fewest [] (not_awaits_fewest kind)).symm.trans
      (verbatim kind.fewest [] (not_awaits_fewest kind))
    obtain ⟨command, read, held⟩ := exists_value?_fewest accepted (option.stripped value)
    obtain ⟨command', read', held'⟩ := exists_value?_fewest accepted value
    rw [read, read', Except.ok.injEq] at eq
    rw [eq, held', Option.some.injEq] at held
    exact held.symm
  · intro eq
    rwa [eq] at stripped

/-! ## Queries -/

/-- Setting an option leaves the query. -/
theorem Draft.query_set (draft : Draft) (option : Opt) (value : String) :
    (draft.set option value).query = draft.query := by
  cases option <;> rfl

/-- A draft keeps its query. -/
theorem Draft.query_of_scan? {draft next : Draft} {text : String} {arguments : List String}
    (given : draft.query = some text) (h : draft.scan? kind arguments = .ok (some next)) :
    next.query = some text := by
  fun_induction scan? kind draft arguments with
  | case1 =>
    cases h
    exact given
  | case2 | case4 | case7 | case9 => cases h
  | case3 _ _ _ _ ih => exact ih given h
  | case5 draft _ _ value _ _ ih => exact ih ((draft.query_set _ value).trans given) h
  | case6 draft _ _ value _ _ ih => exact ih ((draft.query_set _ value).trans given) h
  | case8 _ _ _ _ _ none =>
    rw [given] at none
    exact absurd rfl none

/-- A command has the query of the draft, or the empty one. -/
theorem Draft.query_of_command {draft : Draft} {command : Command} {stored : String}
    (h : draft.command kind = .ok command) (held : command.query? = some stored) :
    stored = draft.query.getD "" := by
  cases kind with
  | explain | run =>
    rw [Draft.command, Draft.queryOptions] at h
    cases resource : draft.resource with
    | none =>
      rw [resource] at h
      cases h
    | some name =>
      rw [resource] at h
      cases h
      exact (Option.some.inj held).symm
  | check =>
    cases h
    cases held

/-- The query of a command is the one among its arguments, without the question marks in front. -/
theorem query_of_ofArguments {before after : List String} {query stored : String} {command : Command}
    (taken : kind.hasQuery) (plain : query.toList.head? ≠ some '-') (whole : ¬kind.Awaits before)
    (h : ofArguments (kind.word :: (before ++ query :: after)) = .ok command)
    (held : command.query? = some stored) : stored = queryOf query := by
  rw [ofArguments_word, Kind.command, scan?_of_not_awaits whole] at h
  -- what stands before the query can end the scan, and then there is no command on a query
  match read : Draft.start.scan? kind before with
  | .error error =>
    rw [read] at h
    cases h
  | .ok none =>
    rw [read] at h
    cases h
    cases held
  | .ok (some draft) =>
    rw [read, Draft.goOn, Draft.scan?_of_query (Argument.ofText_query taken plain)] at h
    split at h
    case isTrue => cases h
    case isFalse =>
      match behind : Draft.scan? kind { draft with query := some (queryOf query) } after with
      | .error error =>
        rw [behind] at h
        cases h
      | .ok none =>
        rw [behind] at h
        cases h
        cases held
      | .ok (some next) =>
        rw [behind] at h
        rw [Draft.query_of_command h held, Draft.query_of_scan? rfl behind]
        rfl

/-! ## Both spellings -/

/-- Joined to its option, a value is read as it is apart, without the repetitions of the option: so
the spellings can be exchanged if and only if the value does not begin with the option. A command
holds its query without the question marks in front, which is read as the query itself unless that
begins with two of them; the query itself is then read without its first pair. -/
theorem spellings_exchangeable (kind : Kind) :
    (∀ option ∈ kind.options, ∀ value,
      Text.Repeats option.opening value.toList (option.stripped value).toList ∧
      kind.Exchangeable [option.joined value] [option.spelling, option.stripped value] ∧
      (kind.Exchangeable [option.joined value] [option.spelling, value] ↔
        ¬option.opening <+: value.toList)) ∧
    ∀ before query after command stored, kind.hasQuery → query.toList.head? ≠ some '-' →
      ¬kind.Awaits before → ofArguments (kind.word :: (before ++ query :: after)) = .ok command →
      command.query? = some stored → stored = queryOf query ∧
      (¬['?', '?'] <+: query.toList → RawParams.ofQuery stored = RawParams.ofQuery query) ∧
      (['?', '?'] <+: query.toList → RawParams.ofQuery query =
        RawParams.ofQuery (String.ofList (query.toList.dropWhile (· ≠ '&')))) := by
  constructor
  · intro option accepted value
    exact ⟨option.repeats_stripped value, exchangeable_stripped accepted value,
      exchangeable_joined_iff accepted⟩
  · intro before query after command stored taken plain whole read held
    obtain rfl := query_of_ofArguments taken plain whole read held
    exact ⟨rfl, RawParams.ofQuery_queryOf, RawParams.ofQuery_of_marks⟩

/-- A value that looks like a flag is exchanged, and one question mark makes no difference. -/
theorem spellings_exchangeable_run :
    Opt.entity ∈ Kind.run.options ∧ ¬Opt.entity.opening <+: "--help".toList ∧
    ¬Kind.run.Awaits ["--resource", "Post"] ∧
    ofArguments ["run", "--resource", "Post", "--show=--help", "-v"] =
      ofArguments ["run", "--resource", "Post", "--show", "--help", "-v"] ∧
    ∃ command, ofArguments ["run", "--resource", "Post", "?page=2"] = .ok command ∧
      command.query? = some "page=2" ∧
      RawParams.ofQuery "page=2" = RawParams.ofQuery "?page=2" := by
  obtain ⟨options, queries⟩ := spellings_exchangeable .run
  have whole : ¬Kind.run.Awaits ["--resource", "Post"] := by
    rintro ⟨option, waits⟩
    cases waits
  have bare : ¬Opt.entity.opening <+: "--help".toList := by decide
  have exchanged := (options .entity (by decide) "--help").2.2.2 bare _ ["-v"] whole
  have read : ofArguments ["run", "--resource", "Post", "?page=2"] = .ok (.run
      { config := "reqplan.toml", database := none, resource := "Post", entity := none
        query := queryOf "?page=2", verbose := false }) := rfl
  have stored : queryOf "?page=2" = "page=2" := by cbv
  obtain ⟨-, same, -⟩ := queries ["--resource", "Post"] "?page=2" [] _ _ rfl (by decide) whole read rfl
  exact ⟨by decide, bare, whole, exchanged, _, read, congrArg some stored,
    stored ▸ same (by decide)⟩

/-- A project whose name begins with the option, and a query behind two question marks. -/
theorem ofArguments_repeated_ne :
    ofArguments ["check", "--config=--config=a"] ≠ ofArguments ["check", "--config", "--config=a"] ∧
    ∃ options, ofArguments ["explain", "--resource", "Post", "??page=2"] = .ok (.explain options) ∧
      RawParams.ofQuery options.query ≠ RawParams.ofQuery "??page=2" := by
  have joined : ofArguments ["check", "--config=--config=a"] = .ok (.check ⟨"a", false⟩) := by cbv
  have apart : ofArguments ["check", "--config", "--config=a"] =
      .ok (.check ⟨"--config=a", false⟩) := by
    cbv
  have stored : queryOf "??page=2" = "page=2" := by cbv
  have explained : ofArguments ["explain", "--resource", "Post", "??page=2"] = .ok (.explain
      { config := "reqplan.toml", database := none, resource := "Post", entity := none
        query := queryOf "??page=2", verbose := false }) := rfl
  have written : RawParams.WritesQuery [.page "2"] "page=2".toList :=
    ⟨_, .item (.page ⟨_, .plain (by decide), .refl_of_plain (by decide)⟩ (.refl_of_plain (by decide)))
      .nil, .inl rfl⟩
  have read : (RawParams.ofQuery "page=2").page = some "2" := by
    rw [RawParams.ofQuery, RawParams.items_of_writesQuery written]
    rfl
  have unread : (RawParams.ofQuery "??page=2").page = none := by
    rw [RawParams.ofQuery_of_marks (by decide)]
    rfl
  refine ⟨by rw [joined, apart]; decide, _, explained, fun same => ?_⟩
  rw [← same, stored, read] at unread
  cases unread

end Retrieval.Command
