import Retrieval.Command.Query
import Retrieval.Proofs.Fetch.Pages

/-!
# Lists and single entities

Whether a list or a single entity is asked for is tested by the passes that read sort keys and
pages, by the plan for its conditions, its order and its page, and for its lookup, and later by
commands and by what fetches rows, which see only the plan. `Plan.IsFor` is what they agree on: it
holds of the plan of every conversion (`Converter.isFor_of_convert`), it says which of the two a
plan is (`Plan.IsFor.isSingle_iff`), and then the command asks for what there is to fetch
(`Plan.IsFor.run_fetch`).

So a parameter that belongs to lists is not seen by a request for an entity, and the key of an
entity is not seen by a request for a list.
-/

namespace Retrieval

/-- Whether a plan is one for an action. -/
inductive Plan.IsFor (plan : Plan) : Action → Prop where
  | entity (lookup : plan.lookup.isSome) (window : plan.window = none)
      (predicates : plan.predicates = []) (sort : plan.sort = []) : IsFor plan .entity
  | index (window : plan.window.isSome) (lookup : plan.lookup = none) : IsFor plan .index

/-- Why a conversion is refused. The type is looked at first. -/
inductive Converter.Refuses (converter : Converter) (resourceType : String) (action : Action)
    (id : Option String) : Failure → Prop where
  | unknownResource (unknown : converter.registry.find? resourceType = none) :
      Refuses converter resourceType action id (.unknownResource resourceType)
  | missingId (known : (converter.registry.find? resourceType).isSome) (entity : action = .entity)
      (missing : id = none) : Refuses converter resourceType action id (.missingId resourceType)

namespace Plan

/-- What a command makes of the rows of a plan: the page, or the first row. -/
def shown (plan : Plan) (rows : List Value) : Except Failure Value :=
  match plan.window with
  | some window => (Page.ofLookahead rows window).map Page.toValue
  | none => .ok (rows.head?.getD .null)

variable {plan : Plan} {action : Action}

/-- A plan has one row just when an entity was asked for. -/
theorem IsFor.isSingle_iff (h : plan.IsFor action) : plan.isSingle ↔ action = .entity := by
  cases h with
  | entity lookup => simp [isSingle, lookup]
  | index window lookup => simp [isSingle, lookup]

/-- A command asks for what the plan is for, so it gets the rows or the failure to fetch them. -/
theorem IsFor.run_fetch (h : plan.IsFor action) (connection : Connection) :
    (Command.fetch plan).run connection = ⟨(plan.fetchAll.run connection).sent,
      (plan.fetchAll.run connection).result >>= plan.shown⟩ := by
  unfold Command.fetch
  cases h with
  | entity lookup window =>
    have single : plan.isSingle := lookup
    rw [if_pos single]
    -- the command fetches one row, which is the first of all rows
    show (plan.fetchOne >>= fun row => .done (.ok (row.getD .null))).run connection = _
    rw [Session.run_bind_done, fetchOne, if_pos single]
    show Exchange.mk ((plan.fetchAll >>= fun rows => .done (.ok rows.head?)).run connection).sent
      (((plan.fetchAll >>= fun rows => .done (.ok rows.head?)).run connection).result >>= _) = _
    rw [Session.run_bind_done]
    unfold shown
    rw [window]
    cases (plan.fetchAll.run connection).result <;> rfl
  | index window lookup =>
    obtain ⟨window, paged⟩ := Option.isSome_iff_exists.1 window
    have list : ¬plan.isSingle := by simp [isSingle, lookup]
    rw [if_neg list]
    -- the command fetches a page, which is cut out of all rows
    show (plan.fetchPage >>= fun page => .done (.ok page.toValue)).run connection = _
    rw [Session.run_bind_done, fetchPage, paged]
    show Exchange.mk
      ((plan.fetchAll >>= fun rows => .done (Page.ofLookahead rows window)).run connection).sent
      (((plan.fetchAll >>= fun rows => .done (Page.ofLookahead rows window)).run
        connection).result >>= _) = _
    rw [Session.run_bind_done]
    unfold shown
    rw [paged]
    cases (plan.fetchAll.run connection).result <;> rfl

/-- The plan of a list does not depend on the key of an entity. -/
theorem ofRequest_of_index (scope : Scope) {request : Request} (list : request.action = .index)
    (id other : Option String) : ofRequest scope request id = ofRequest scope request other := by
  unfold ofRequest
  simp only [if_pos list]

end Plan

/-! ## Fetching -/

/-- Whether a failure says that a plan is not of the kind that was asked of it. -/
def Failure.IsMismatch : Failure → Prop
  | .noLookup _ | .noWindow _ => True
  | _ => False

namespace Plan

variable {plan : Plan} {failure : Failure}

/-- Fetching rows from a client fails for a name that is none, in the words of the client, or for a
row that is no value. -/
theorem not_isMismatch_of_fetchAll {client : Client}
    (h : (plan.fetchAll.run client.connection).result = .error failure) : ¬failure.IsMismatch := by
  -- of the four ways in which rows are obtained, three fail, each in its own words
  have obtained := run_fetchAll_eq_iff.1 (rfl : plan.fetchAll.run client.connection = _)
  generalize plan.fetchAll.run client.connection = exchange at h obtained
  cases obtained with
  | unwritten unwritten =>
    obtain rfl := Except.error.inj h
    obtain ⟨error, rfl⟩ := badIdent_of_sql unwritten
    exact id
  | failed written answer =>
    obtain rfl := Except.error.inj h
    obtain ⟨words, -, rfl⟩ := Except.mapError_eq_error_iff.1 answer
    exact id
  | undecoded =>
    obtain rfl := Except.error.inj h
    exact id
  | decoded written answer each made => exact absurd (made.symm.trans h) (by simp)

/-- What is made of the rows fails only if there are more pages than numbers. -/
theorem not_isMismatch_of_shown {rows : List Value} (h : plan.shown rows = .error failure) :
    ¬failure.IsMismatch := by
  unfold shown at h
  split at h
  case h_1 window paged =>
    rw [Except.map_eq_error_iff, Page.ofLookahead_eq_iff] at h
    cases h
    exact id
  case h_2 => exact absurd h (by simp)

/-- No failure of a command is one of a plan that is fetched the wrong way. -/
theorem IsFor.not_isMismatch {action : Action} (h : plan.IsFor action) {client : Client}
    (failed : ((Command.fetch plan).run client.connection).result = .error failure) :
    ¬failure.IsMismatch := by
  rw [h.run_fetch, Except.bind_eq_error_iff] at failed
  obtain unfetched | ⟨rows, -, unshown⟩ := failed
  · exact not_isMismatch_of_fetchAll unfetched
  · exact not_isMismatch_of_shown unshown

end Plan

/-! ## Conversions -/

namespace Converter

variable {converter : Converter} {resourceType : String} {params : RawParams} {action : Action}
  {id : Option String} {failure : Failure} {conversion : Conversion}

/-- A conversion is refused for its type, or else for a missing key, or else for nothing. -/
theorem convert_eq : converter.convert resourceType params action id =
    match converter.registry.find? resourceType with
    | none => .error (.unknownResource resourceType)
    | some main =>
      if action = .entity ∧ id = none then .error (.missingId resourceType)
      else
        let scope : Scope := ⟨converter.registry, resourceType, main⟩
        let request := Request.read scope converter.settings params action
        .ok ⟨request, .ofRequest scope request id⟩ := by
  unfold convert scope
  cases converter.registry.find? resourceType with
  | none => rfl
  | some main =>
    show ite _ _ _ = ite _ _ _
    split <;> rfl

/-- An unknown resource is noticed before a missing key. -/
theorem convert_eq_error_iff : converter.convert resourceType params action id = .error failure ↔
    converter.Refuses resourceType action id failure := by
  rw [convert_eq]
  constructor
  · intro h
    split at h
    case h_1 unknown =>
      obtain rfl := Except.error.inj h
      exact .unknownResource unknown
    case h_2 main known =>
      split at h
      case isTrue keyless =>
        obtain rfl := Except.error.inj h
        exact .missingId (by rw [known]; rfl) keyless.1 keyless.2
      case isFalse => exact absurd h (by simp)
  · -- a missing key is noticed only where the type is known
    rintro (unknown | ⟨known, entity, missing⟩)
    · rw [unknown]
    · obtain ⟨main, known⟩ := Option.isSome_iff_exists.1 known
      rw [known]
      exact if_pos ⟨entity, missing⟩

/-- The plan of a conversion is one for its action. -/
theorem isFor_of_convert (h : converter.convert resourceType params action id = .ok conversion) :
    conversion.plan.IsFor action := by
  cases action with
  | index =>
    obtain ⟨list, paged⟩ := plan_of_convert_index h
    exact .index (by rw [paged]; rfl) list
  | entity =>
    obtain ⟨scope, -, keyed, rfl⟩ := convert_eq_ok_iff.1 h
    -- an entity without a key has been refused
    obtain ⟨key, rfl⟩ : ∃ key, id = some key :=
      Option.ne_none_iff_exists'.1 fun missing => keyed ⟨rfl, missing⟩
    have action := Request.read_action scope converter.settings params .entity
    have other : ¬(Request.read scope converter.settings params .entity).action = .index := by
      rw [action]
      exact Action.noConfusion
    refine .entity ?_ ?_ ?_ ?_
    · rw [Plan.ofRequest]
      dsimp only
      rw [if_neg other]
      rfl
    all_goals exact if_neg other

/-- A request for an entity has no sort keys and no page. -/
theorem request_of_convert_entity
    (h : converter.convert resourceType params .entity id = .ok conversion) :
    conversion.request.sorting = [] ∧ conversion.request.window = none := by
  obtain ⟨scope, -, -, rfl⟩ := convert_eq_ok_iff.1 h
  obtain ⟨limits, problems, limited⟩ := Request.readLimits_frame params.limit
    (((Request.unjoined scope converter.settings params .entity).joinRelations scope).resolveFilters
      scope)
  obtain ⟨fields, filters, problems, resolved⟩ :=
    Request.resolved_frame scope converter.settings params .entity
  have read : Request.read scope converter.settings params .entity =
      Request.limited scope converter.settings params .entity := rfl
  rw [read, Request.limited, limited, resolved]
  exact ⟨rfl, rfl⟩

/-- A request for an entity does not see the parameters of lists. -/
theorem convert_entity_eq (sorting page perPage : Option String) :
    converter.convert resourceType { params with sorting, page, perPage } .entity id =
      converter.convert resourceType params .entity id :=
  rfl

/-- A request for a list does not see the key of an entity. -/
theorem convert_index_eq (other : Option String) :
    converter.convert resourceType params .index other =
      converter.convert resourceType params .index id := by
  have list (key : Option String) : ¬(Action.index = .entity ∧ key = none) := by simp
  rw [convert_eq, convert_eq]
  cases converter.registry.find? resourceType with
  | none => rfl
  | some main =>
    dsimp only
    rw [if_neg (list other), if_neg (list id),
      Plan.ofRequest_of_index _ (Request.read_action _ _ params .index) other id]

end Converter

/-! ## Commands -/

/-- A command fails before it has an outcome, or the outcome tells of the failure. -/
theorem Outcome.failure_ofExcept {x : Except Command.Failure Outcome} {failure : Command.Failure} :
    (ofExcept x).failure = some failure ↔
      x = .error failure ∨ ∃ outcome, x = .ok outcome ∧ outcome.failure = some failure := by
  cases x with
  | error => simp [ofExcept, failed]
  | ok => simp [ofExcept]

namespace Command

variable {host : Host} {options : QueryOptions} {failure : Retrieval.Failure}

/-- A conclusion is a failure just when the rows were not fetched. -/
theorem failure_conclude {conversion : Conversion} {output : Except Command.Failure String}
    {failure : Command.Failure} :
    (conclude conversion output).failure = some failure ↔ output = .error failure := by
  cases output with
  | error => simp [conclude]
  | ok => simp [conclude]

/-- A command fails for its query in the conversion of a query. -/
theorem query_of_convert {project : Project}
    (h : convert project options = .error (.query failure)) :
    ∃ (converter : Converter) (action : Action), converter.convertQuery options.resource
      options.query action options.entity = .error failure := by
  rw [convert, Except.bind_eq_error_iff] at h
  obtain unreadable | ⟨converter, -, unconverted⟩ := h
  · obtain ⟨_, -, eq⟩ := Except.mapError_eq_error_iff.1 unreadable
    exact Failure.noConfusion eq
  · obtain ⟨cause, unconverted, eq⟩ := Except.mapError_eq_error_iff.1 unconverted
    exact ⟨converter, _, Failure.query.inj eq ▸ unconverted⟩

/-- The command of a query converts with the settings of some project. -/
theorem exists_of_convert {project : Project} {conversion : Conversion}
    (h : convert project options = .ok conversion) :
    ∃ (converter : Converter) (action : Action), converter.convertQuery options.resource
      options.query action options.entity = .ok conversion := by
  rw [convert, Except.bind_eq_ok_iff] at h
  obtain ⟨converter, -, converted⟩ := h
  exact ⟨converter, _, Except.mapError_eq_ok_iff.1 converted⟩

/-- A run fails for its query because it is not converted or because its plan is not fetched. -/
theorem query_of_runQuery (h : (runQuery host options).failure = some (.query failure)) :
    ∃ (converter : Converter) (action : Action),
      converter.convertQuery options.resource options.query action options.entity =
        .error failure ∨
      ∃ conversion client, converter.convertQuery options.resource options.query action
        options.entity = .ok conversion ∧
          ((fetch conversion.plan).run (Client.connection client)).result = .error failure := by
  rw [runQuery, Outcome.failure_ofExcept] at h
  simp only [Except.bind_eq_error_iff, Except.bind_eq_ok_iff, Except.pure_eq_ok_iff, Host.project,
    Except.mapError_eq_error_iff, Except.mapError_eq_ok_iff, reduceCtorEq, and_false, exists_false,
    false_or] at h
  rcases h with ⟨project, -, _, -, unconverted | ⟨conversion, -, done⟩⟩ |
    ⟨_, ⟨project, -, _, -, conversion, converted, rfl⟩, failed⟩
  · obtain ⟨converter, action, unconverted⟩ := query_of_convert unconverted
    exact ⟨converter, action, .inl unconverted⟩
  · exact absurd done Except.pure_ne_error
  · obtain ⟨converter, action, converted⟩ := exists_of_convert converted
    refine ⟨converter, action, .inr ?_⟩
    obtain disconnected | ⟨client, -, unprinted⟩ :=
      Except.bind_eq_error_iff.1 (failure_conclude.1 failed)
    · obtain ⟨_, -, eq⟩ := Except.mapError_eq_error_iff.1 disconnected
      exact Failure.noConfusion eq
    · obtain unfetched | ⟨value, -, done⟩ := Except.bind_eq_error_iff.1 unprinted
      · obtain ⟨cause, unfetched, eq⟩ := Except.mapError_eq_error_iff.1 unfetched
        exact ⟨conversion, client, converted, Failure.query.inj eq ▸ unfetched⟩
      · exact absurd done Except.pure_ne_error

end Command

/-! ## What the action decides -/

namespace Converter

/-- What the action decides in the conversion of some parameters. -/
structure Obeys (converter : Converter) (resourceType : String) (params : RawParams)
    (action : Action) (id : Option String) : Prop where
  refused : ∀ failure, converter.convert resourceType params action id = .error failure ↔
    converter.Refuses resourceType action id failure
  entity : action = .entity → ∀ sorting page perPage,
    converter.convert resourceType { params with sorting, page, perPage } action id =
      converter.convert resourceType params action id
  index : action = .index → ∀ other, converter.convert resourceType params action other =
    converter.convert resourceType params action id
  request : action = .entity → ∀ conversion,
    converter.convert resourceType params action id = .ok conversion →
    conversion.request.sorting = [] ∧ conversion.request.window = none
  plan : ∀ conversion, converter.convert resourceType params action id = .ok conversion →
    conversion.plan.IsFor action ∧ (conversion.plan.isSingle ↔ action = .entity)
  /-- A command fetches the rows of the plan and makes of them what the action asks for, or fails
  where fetching the rows fails. -/
  fetched : ∀ conversion, converter.convert resourceType params action id = .ok conversion →
    (∀ connection : Connection, (Command.fetch conversion.plan).run connection =
        ⟨(conversion.plan.fetchAll.run connection).sent,
          (conversion.plan.fetchAll.run connection).result >>= conversion.plan.shown⟩) ∧
      ∀ (client : Client) (failure : Failure),
        ((Command.fetch conversion.plan).run client.connection).result = .error failure →
          ¬failure.IsMismatch

/-- Every conversion obeys its action, so a run never asks a plan for what it is not. -/
theorem convert_obeys :
    (∀ (converter : Converter) resourceType params action id,
      converter.Obeys resourceType params action id) ∧
    ∀ host options failure, (Command.runQuery host options).failure = some (.query failure) →
      ¬failure.IsMismatch := by
  refine ⟨fun converter resourceType params action id => ?_, fun host options failure failed => ?_⟩
  · constructor
    case refused =>
      intro failure
      exact convert_eq_error_iff
    case entity =>
      rintro rfl sorting page perPage
      exact convert_entity_eq sorting page perPage
    case index =>
      rintro rfl other
      exact convert_index_eq other
    case request =>
      rintro rfl conversion h
      exact request_of_convert_entity h
    case plan =>
      intro conversion h
      exact ⟨isFor_of_convert h, (isFor_of_convert h).isSingle_iff⟩
    case fetched =>
      intro conversion h
      exact ⟨(isFor_of_convert h).run_fetch,
        fun client failure => (isFor_of_convert h).not_isMismatch⟩
  · obtain ⟨converter, action, unconverted | ⟨conversion, client, converted, unfetched⟩⟩ :=
      Command.query_of_runQuery failed
    · -- the two failures of a conversion are about the type and the key
      rcases convert_eq_error_iff.1 unconverted with _ | _
      all_goals exact id
    · exact (isFor_of_convert converted).not_isMismatch unfetched

/-- A post is converted by its key, whatever is asked of lists, and posts are listed whatever the
key. The type is looked at before the key. -/
theorem convert_obeys_blog :
    (∃ conversion, Example.strict.convert "Post" Example.everything .entity (some "7") =
        .ok conversion ∧ conversion.plan.isSingle ∧
      Example.strict.convert "Post" { Example.everything with
        sorting := some "title", page := some "x", perPage := none } .entity (some "7") =
        .ok conversion) ∧
    (∃ conversion, Example.strict.convert "Post" Example.everything .index none = .ok conversion ∧
      ¬conversion.plan.isSingle ∧
      Example.strict.convert "Post" Example.everything .index (some "7") = .ok conversion) ∧
    Example.strict.convert "Page" Example.everything .entity none =
      .error (.unknownResource "Page") := by
  obtain ⟨obeys, -⟩ := convert_obeys
  have entity := obeys Example.strict "Post" Example.everything .entity (some "7")
  have list := obeys Example.strict "Post" Example.everything .index none
  have unregistered := obeys Example.strict "Page" Example.everything .entity none
  refine ⟨⟨_, rfl, (entity.plan _ rfl).2.2 rfl, (entity.entity rfl _ _ _).trans rfl⟩,
    ⟨_, rfl, fun single => ?_, (list.index rfl _).trans rfl⟩,
    (unregistered.refused _).2 (.unknownResource rfl)⟩
  exact Action.noConfusion ((list.plan _ rfl).2.1 single)

end Converter

end Retrieval
