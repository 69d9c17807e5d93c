import Retrieval.Project
import Retrieval.Proofs.Except
import Retrieval.Proofs.Request.Reading
import Retrieval.Proofs.Text.Numeral

/-!
# Limits and the page of a request

Which limits are kept, and which page a list is read with. A limit is kept under a relation that is
selected in the end, if it is a positive count (`Request.read_limits`). However settings are come
by, their page sizes are positive (`Settings.Built.positive`), so every page that is asked for has a
number and a size of at least one, and no more rows than the settings allow
(`Request.within_windowOf`).

The page is read last. A request for another page of the same list is therefore the same request but
for its page and the problems (`Request.read_of_number`).
-/

namespace Retrieval

/-! ## Settings -/

/-- Whether both page sizes are at least one. -/
structure Settings.Positive (settings : Settings) : Prop where
  defaultPerPage : 0 < settings.defaultPerPage
  maxPerPage : 0 < settings.maxPerPage

namespace Project

variable {env : Environment} {text : String} {project : Project}

/-- Nothing is wrong with a project that is read. -/
theorem problem?_of_ofText (h : ofText env text = .ok project) : project.problem? = none := by
  unfold ofText at h
  split at h
  case h_2 => cases h
  case h_1 =>
    split at h
    case h_2 => cases h
    case h_1 =>
      obtain ⟨expanded, -, h⟩ := Except.bind_eq_ok_iff.1 h
      split at h
      case h_1 => cases h
      case h_2 sound => exact Except.pure_eq_ok_iff.1 h ▸ sound

/-- The settings of a project file that is accepted have positive page sizes. -/
theorem positive_of_ofText (h : ofText env text = .ok project) : project.settings.Positive := by
  have sizes : ¬(project.settings.defaultPerPage = 0 ∨ project.settings.maxPerPage = 0) := by
    intro zero
    have sound := problem?_of_ofText h
    rw [problem?, if_pos zero] at sound
    -- every other branch is an error as well
    repeat' split at sound
    all_goals exact Option.some_ne_none _ sound
  rw [not_or] at sizes
  exact ⟨UInt64.pos_iff_ne_zero.2 sizes.1, UInt64.pos_iff_ne_zero.2 sizes.2⟩

end Project

/-- Settings that a program can come by: the standard ones, those of a project file, and what is
built from them. -/
inductive Settings.Built : Settings → Prop
  | standard : Built .standard
  | project {env : Environment} {text : String} {project : Project}
      (read : Project.ofText env text = .ok project) : Built project.settings
  | defaultPerPage {settings : Settings} (size : UInt64) (built : Built settings) :
      Built (settings.withDefaultPerPage size)
  | maxPerPage {settings : Settings} (size : UInt64) (built : Built settings) :
      Built (settings.withMaxPerPage size)
  | confined {settings : Settings} (built : Built settings) : Built settings.confined

/-- Settings that were built have positive page sizes. -/
theorem Settings.Built.positive {settings : Settings} (built : settings.Built) :
    settings.Positive := by
  have atLeastOne (size : UInt64) : 0 < max size 1 := by
    show 0 < if size ≤ 1 then 1 else size
    split
    case isTrue => decide
    case isFalse above => exact UInt64.lt_trans (by decide) (UInt64.not_le.1 above)
  induction built with
  | standard => exact ⟨by decide, by decide⟩
  | project read => exact Project.positive_of_ofText read
  | defaultPerPage size _ ih => exact ⟨atLeastOne size, ih.maxPerPage⟩
  | maxPerPage size _ ih => exact ⟨ih.defaultPerPage, atLeastOne size⟩
  | confined _ ih => exact ⟨ih.defaultPerPage, ih.maxPerPage⟩

/-! ## Windows -/

/-- Whether a window is a page that the settings allow. -/
structure Window.Within (window : Window) (settings : Settings) : Prop where
  page : 1 ≤ window.page
  perPage : 1 ≤ window.perPage
  size : window.perPage ≤ settings.maxPerPage

namespace Request

/-- A parameter that is no count is taken for its default. -/
theorem fst_pageParam (param : PageParam) (default : UInt64) (text : Option String) :
    (pageParam param default text).1 = (text.bind Text.positive?).getD default := by
  cases text with
  | none => rfl
  | some text =>
    rw [pageParam, Option.bind_some]
    cases Text.positive? text <;> rfl

variable (scope : Scope) (settings : Settings) (params : RawParams) (action : Action)

/-- The request once its limits are read, before the page. -/
def limited : Request :=
  (((unjoined scope settings params action).joinRelations scope).resolveFilters scope).readLimits
    params.limit

/-- The page is read last, and for lists only. -/
theorem read_eq : Request.read scope settings params action =
    if action = .index then
      (limited scope settings params action).readWindow settings params.page params.perPage
    else limited scope settings params action :=
  rfl

/-! ## Limits -/

/-- Only the last text under a key counts, and only for a relation with fields. -/
theorem limitBy_find? (request : Request) (key : String) (value : RawValue) (name : String) :
    (request.limitBy key value).limits.find? name =
      if name = key ∧ key ≠ request.resource ∧ request.fields.contains key then
        (value.texts.getLast?.bind Text.positive?).or (request.limits.find? name)
      else request.limits.find? name := by
  unfold limitBy
  cases value.texts.getLast? with
  | none => simp
  | some text =>
    by_cases main : key = request.resource
    · simp [main, report]
    · cases request.fields.contains key with
      | false => simp [main, report]
      | true =>
        cases read : Text.positive? text with
        | none => simp [main, read, report]
        | some limit => by_cases own : name = key <;> simp [main, read, own]

/-- Under a selected relation stands the last limit that was sent for it, if it is a count. -/
theorem readLimits_find? (raw : OrderedMap RawValue) {request : Request}
    (fresh : request.limits = .empty) (name : String) :
    (request.readLimits raw).limits.find? name =
      if name ≠ request.resource ∧ request.fields.contains name then
        ((raw.find? name).bind (·.texts.getLast?)).bind Text.positive?
      else none := by
  -- the pass changes neither the resource nor the fields, so they are seen along with the limit
  refine (congrArg (·.2.2) (raw.foldl_entries
    (fun s : Request => (s.resource, s.fields, s.limits.find? name)) name
    (fun value seen => (seen.1, seen.2.1, if name ≠ seen.1 ∧ seen.2.1.contains name then
      (value.texts.getLast?.bind Text.positive?).or seen.2.2 else seen.2.2))
    ?_ ?_ request)).trans ?_
  · intro s value
    have limit := limitBy_find? s name value name
    obtain ⟨limits, problems, eq⟩ := limitBy_frame s name value
    rw [eq] at limit ⊢
    simpa using limit
  · intro s key value ne
    have limit := limitBy_find? s key value name
    obtain ⟨limits, problems, eq⟩ := limitBy_frame s key value
    rw [eq] at limit ⊢
    simpa [Ne.symm ne] using limit
  · cases raw.find? name with
    | none => simp [fresh]
    | some value => simp [fresh]

/-- The limit of a relation that is selected is the last one sent for it, if that is a count. -/
theorem read_limits (key : String) :
    (Request.read scope settings params action).limits.find? key =
      if key ≠ scope.main.name ∧
          (Request.read scope settings params action).fields.contains key then
        (params.lastLimit key).bind Text.positive?
      else none := by
  have limits : (Request.read scope settings params action).limits =
      (limited scope settings params action).limits := by
    rw [read_eq]
    split <;> rfl
  obtain ⟨fields, filters, problems, resolved⟩ := resolved_frame scope settings params action
  obtain ⟨sorting, problems, start⟩ := sorted_frame scope params action
  have fresh : (((unjoined scope settings params action).joinRelations scope).resolveFilters
      scope).limits = .empty := by
    rw [resolved, start]
    rfl
  obtain ⟨_, window, problems, read⟩ := read_frame scope settings params action
  have resource := read_resource scope settings params action
  rw [limits, limited, readLimits_find? params.limit fresh]
  rw [read] at resource ⊢
  rw [← resource, RawParams.lastLimit]

/-! ## Pages -/

/-- The page that some parameters ask for: the first one if they do not say which, of the default
size if they do not say how large. -/
def windowOf : Window :=
  ⟨(params.page.bind Text.positive?).getD 1,
    min ((params.perPage.bind Text.positive?).getD settings.defaultPerPage) settings.maxPerPage⟩

/-- The page is the only thing that a list has beside its limits. -/
theorem read_index_frame : ∃ problems, Request.read scope settings params .index =
    { limited scope settings params .index with
      window := some (windowOf settings params), problems } := by
  rw [windowOf, ← fst_pageParam .page, ← fst_pageParam .perPage]
  exact ⟨_, rfl⟩

/-- The page of a list is that of the parameters. -/
theorem read_window :
    (Request.read scope settings params .index).window = some (windowOf settings params) := by
  obtain ⟨problems, eq⟩ := read_index_frame scope settings params
  rw [eq]

variable {settings} in
/-- A page lies within positive settings. -/
theorem within_windowOf (positive : settings.Positive) :
    (windowOf settings params).Within settings := by
  -- whether a count is read or the default is taken, it is at least one
  have atLeastOne {default : UInt64} (h : 0 < default) (text : Option String) :
      0 < (text.bind Text.positive?).getD default := by
    cases read : text.bind Text.positive? with
    | none => exact h
    | some n =>
      obtain ⟨text, -, read⟩ := Option.bind_eq_some_iff.1 read
      exact (Text.positive?_eq_some_iff.1 read).2
  refine ⟨?_, ?_, ?_⟩
  · exact atLeastOne (by decide) params.page
  · exact Std.le_min_iff.2 ⟨atLeastOne positive.defaultPerPage params.perPage, positive.maxPerPage⟩
  · exact Std.min_le_right

/-- A request for the page of a number is the same request but for the page and the problems. -/
theorem read_of_number {number : UInt64} (positive : 0 < number) : ∃ problems,
    Request.read scope settings { params with page := some (toString number.toNat) } .index =
      { Request.read scope settings params .index with
        window := some ⟨number, (windowOf settings params).perPage⟩, problems } := by
  obtain ⟨_, eq⟩ := read_index_frame scope settings params
  obtain ⟨problems, paged⟩ := read_index_frame scope settings
    { params with page := some (toString number.toNat) }
  rw [windowOf, Option.bind_some, Text.positive?_toString positive, Option.getD_some] at paged
  rw [eq, paged]
  exact ⟨problems, rfl⟩

end Request

end Retrieval
