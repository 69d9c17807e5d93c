import Retrieval.Proofs.Plan.Grammar

/-!
# Values of statements

Which values the statement of a plan binds, and where they stand (`Plan.slots`): the limits of
related rows, then the key of the single row, the values of filters, and the bounds of the page. A
slot is a value together with the text that leads up to it, which names the column and the operator
or the bound.

Every renderer is gone through once (`Statement.Bears`). A fragment bears the slots of its pieces in
their order, wherever it is put, so nothing has to be renumbered. It has as many placeholders as
values, so the check of a finished statement always passes (`Plan.agree_sql`).
-/

namespace Retrieval

open Statement (raw ident bound textFrom placesFrom Quiet)

/-- A count as a bound integer; counts above the largest integer are cut down to it. -/
def Param.count (n : Nat) : Param := .int8 (Int64.ofNat (min n 0x7fffffffffffffff))

/-- A value in a statement. -/
structure Slot where
  lead : String
  value : Param
deriving DecidableEq

/-! ## The slots of a plan -/

/-- A column as it is written: every piece of its name in quotes, behind the label unless the name
is dotted. -/
def columnText (label name : String) : String :=
  let full := if '.' ∈ name.toList then name else label ++ "." ++ name
  String.ofList (List.intercalate ['.'] ((Text.split '.' full.toList).map Ident.quotePart))

/-- The slot of a limit of related rows. A to-one relation has no limit. -/
def EagerLoad.slots (load : EagerLoad) : List Slot :=
  if load.correlation.isToOne then []
  else load.limit.toList.map fun limit =>
    ⟨" ORDER BY " ++ columnText load.relation load.primaryKey ++ " LIMIT ", .count limit.toNat⟩

/-- The slots of the key of a single row. -/
def Lookup.slots (lookup : Lookup) (label : String) : List Slot :=
  match lookup with
  | .primary key value => [⟨columnText label key ++ " = ", .text value⟩]
  | .primaryOrAlternate key alternate value =>
    [⟨columnText label key ++ "::text = ", .text value⟩,
      ⟨columnText label alternate ++ " = ", .text value⟩]

/-- The slot of the value of a filter, if it has one. -/
def Filter.slots (filter : Filter) (label : String) : List Slot :=
  filter.value.toList.map fun value =>
    ⟨columnText label filter.field ++ " " ++ filter.op.sql ++ " ", .text value⟩

/-- The slots of a condition. -/
def Predicate.slots (predicate : Predicate) (label : String) : List Slot :=
  match predicate with
  | .filter f => f.slots label
  | .related relation _ _ filters => filters.flatMap (·.slots relation)

/-- The slots of the bounds of a page: one row more than fits on the page, and the rows before the
page, which are counted up to the largest 64-bit count. -/
def Window.slots (window : Window) : List Slot :=
  [⟨" LIMIT ", .count (window.perPage.toNat + 1)⟩,
    ⟨" OFFSET ", .count (min ((window.page.toNat - 1) * window.perPage.toNat) 0xffffffffffffffff)⟩]

namespace Plan

/-- The slots of the bounds on the number of rows; a single row has a fixed bound. -/
def boundSlots (plan : Plan) : List Slot :=
  if plan.isSingle then [] else plan.window.toList.flatMap Window.slots

/-- The slots of a plan, in the order of the statement. -/
def slots (plan : Plan) : List Slot :=
  plan.eager.flatMap EagerLoad.slots
    ++ plan.lookup.toList.flatMap (·.slots plan.label)
    ++ plan.predicates.flatMap (·.slots plan.label)
    ++ plan.boundSlots

end Plan

/-! ## Fragments with slots -/

/-- Whether a placeholder stands where the value of a slot belongs. -/
def Slot.Leads (slot : Slot) (placeholder : Text.Placeholder) : Prop :=
  slot.lead.toList <:+ placeholder.before

/-- Whether a fragment binds the values of some slots, and has a placeholder at the place of each
and no others, wherever it is put. -/
structure Statement.Bears (statement : Statement) (slots : List Slot) : Prop where
  quiet : ∀ s, Part.text s ∈ statement.parts → Quiet s
  params : statement.params = slots.map (·.value)
  leads : ∀ before count, List.Forall₂ Slot.Leads slots (placesFrom before count statement.parts)

namespace Statement.Bears

variable {a b : Statement} {slots others : List Slot}

theorem empty : Statement.empty.Bears [] where
  quiet _ mem := absurd mem List.not_mem_nil
  params := rfl
  leads _ _ := .nil

/-- Fragments bear what their parts bear, in order. -/
theorem append (h : a.Bears slots) (h' : b.Bears others) : (a ++ b).Bears (slots ++ others) where
  quiet s mem := (List.mem_append.1 mem).elim (h.quiet s) (h'.quiet s)
  params := by rw [params_append, h.params, h'.params, List.map_append]
  leads before count := by
    rw [parts_append, placesFrom_append]
    exact List.rel_append (h.leads _ _) (h'.leads _ _)

theorem ident (i : Ident) : (ident i).Bears [] where
  quiet s mem := by
    obtain rfl : s = i.quoted := by simpa [Statement.ident, raw] using mem
    exact quiet_quoted i
  params := rfl
  leads _ _ := .nil

/-- A text without a dollar sign bears nothing. -/
theorem fixed (text : String) (plain : isFixed text) : (raw text).Bears [] where
  quiet s mem := by
    obtain rfl : s = text := by simpa [raw] using mem
    exact quiet_of_isFixed plain
  params := rfl
  leads _ _ := .nil

/-- A fragment with what follows it, if that binds nothing. -/
theorem followed (h : a.Bears slots) (h' : b.Bears []) : (a ++ b).Bears slots := by
  have both := h.append h'
  rwa [List.append_nil] at both

/-- A fragment behind one that binds nothing. -/
theorem preceded (h : a.Bears []) (h' : b.Bears slots) : (a ++ b).Bears slots := h.append h'

/-- A value behind a fragment that ends with the text that leads up to the value. -/
theorem slot (lead : String) (value : Param) (h : a.Bears slots)
    (ends : ∀ count, lead.toList <:+ (textFrom count a.parts).toList) :
    (a ++ bound value).Bears (slots ++ [⟨lead, value⟩]) where
  quiet s mem := by
    rcases List.mem_append.1 mem with mem | mem
    · exact h.quiet s mem
    · simp [bound] at mem
  params := by rw [params_append, h.params, params_bound, List.map_append, List.map_singleton]
  leads before count := by
    rw [parts_append, placesFrom_append]
    refine List.rel_append (h.leads _ _) (.cons ?_ .nil)
    exact (ends count).trans (List.suffix_append _ _)

/-- There are as many placeholders as values. -/
theorem placeholders_eq (h : a.Bears slots) : a.placeholders = slots.length := by
  have length := (h.leads [] 0).length_eq
  rw [length_placesFrom] at length
  exact length.symm

/-- A placeholder is written for every value and for nothing else. -/
theorem placeholders_eq_params (h : a.Bears slots) : a.placeholders = a.params.length := by
  rw [h.placeholders_eq, h.params, List.length_map]

/-- So the check of a finished statement finds nothing. -/
theorem validate_eq (h : a.Bears slots) : a.validate = .ok () := if_pos h.placeholders_eq_params

/-- The fragments of the members of a list, one by one. -/
theorem each {α : Type} {f : α → Except Failure Statement} {slotsOf : α → List Slot}
    {members : List α} {fragments : List Statement} (written : members.mapM f = .ok fragments)
    (h : ∀ member fragment, f member = .ok fragment → fragment.Bears (slotsOf member)) :
    List.Forall₂ Statement.Bears fragments (members.map slotsOf) := by
  have results := Except.forall₂_of_mapM written
  clear written
  induction results with
  | nil => exact .nil
  | cons first _ ih => exact .cons (h _ _ first) ih

theorem foldr {fragments : List Statement} {parts : List (List Slot)}
    (each : List.Forall₂ Statement.Bears fragments parts) :
    (fragments.foldr (· ++ ·) Statement.empty).Bears parts.flatten := by
  induction each with
  | nil => exact empty
  | cons first _ ih => exact first.append ih

/-- Texts between fragments bind nothing. -/
theorem joined {separator : String} (plain : isFixed separator) {fragments : List Statement}
    {parts : List (List Slot)} (each : List.Forall₂ Statement.Bears fragments parts) :
    (joined separator fragments).Bears parts.flatten := by
  induction each with
  | nil => exact empty
  | cons first others ih =>
    cases others with
    | nil => exact first.append empty
    | cons second others => exact first.append ((fixed _ plain).preceded ih)

end Statement.Bears

/-! ## Every renderer -/

open Except (Agree)
open Statement (Alike Bears)

/-- A column is written the same wherever it stands. -/
theorem text_columnFragment {label column : String} {statement : Statement}
    (h : columnFragment label column = .ok statement) (count : Nat) :
    (textFrom count statement.parts).toList = (columnText label column).toList := by
  simp only [columnFragment, Except.bind_eq_ok_iff, Except.pure_eq_ok_iff] at h
  obtain ⟨i, read, rfl⟩ := h
  rw [ident, Statement.toList_raw, Ident.quoted, Ident.parts_of_column read, columnText]

theorem bears_columnFragment {label column : String} {statement : Statement}
    (h : columnFragment label column = .ok statement) : statement.Bears [] := by
  simp only [columnFragment, Except.bind_eq_ok_iff, Except.pure_eq_ok_iff] at h
  obtain ⟨i, -, rfl⟩ := h
  exact .ident i

theorem bears_projectedFragment {label column : String} {statement : Statement}
    (h : projectedFragment label column = .ok statement) : statement.Bears [] := by
  unfold projectedFragment at h
  split at h
  case isTrue =>
    simp only [Except.bind_eq_ok_iff, Except.pure_eq_ok_iff] at h
    obtain ⟨i, -, rfl⟩ := h
    exact (Bears.ident i).append (.fixed ".*" (by decide))
  case isFalse => exact bears_columnFragment h

/-- Fragments that bind nothing make one that binds nothing. -/
theorem flatten_map_nil {α : Type} (members : List α) :
    (members.map fun _ => ([] : List Slot)).flatten = [] := by
  simp

theorem bears_projectionFragment {label : String} {columns : FieldSet} {statement : Statement}
    (h : projectionFragment label columns = .ok statement) : statement.Bears [] := by
  simp only [projectionFragment, Except.bind_eq_ok_iff, Except.pure_eq_ok_iff] at h
  obtain ⟨fragments, written, rfl⟩ := h
  have plain : Statement.isFixed ", " := by decide
  have whole := Bears.joined plain (Bears.each written fun _ _ => bears_projectedFragment)
  rwa [flatten_map_nil] at whole

theorem bears_tableFragment {table label : String} {statement : Statement}
    (h : tableFragment table label = .ok statement) : statement.Bears [] := by
  simp only [tableFragment, Except.bind_eq_ok_iff, Except.pure_eq_ok_iff] at h
  obtain ⟨t, -, i, -, rfl⟩ := h
  exact ((Bears.ident t).append (.fixed " AS " (by decide))).append (.ident i)

theorem bears_sourceFragment {correlation : Correlation} {table relation : String}
    {statement : Statement} (h : correlation.sourceFragment table relation = .ok statement) :
    statement.Bears [] := by
  simp only [Correlation.sourceFragment, Except.bind_eq_ok_iff] at h
  obtain ⟨related, rendered, h⟩ := h
  have source := bears_tableFragment rendered
  cases correlation with
  | toOne | toMany => exact Except.pure_eq_ok_iff.1 h ▸ source
  | manyToMany =>
    simp only [Except.bind_eq_ok_iff, Except.pure_eq_ok_iff] at h
    obtain ⟨pivot, -, left, leftRendered, right, rightRendered, rfl⟩ := h
    have joined := (source.append (.fixed " INNER JOIN " (by decide))).append (.ident pivot)
    have on := (joined.append (.fixed " ON " (by decide))).append (bears_columnFragment leftRendered)
    exact (on.append (.fixed " = " (by decide))).append (bears_columnFragment rightRendered)

theorem bears_conditionFragment {correlation : Correlation} {main relation : String}
    {statement : Statement} (h : correlation.conditionFragment main relation = .ok statement) :
    statement.Bears [] := by
  cases correlation with
  | toOne | toMany | manyToMany =>
    simp only [Correlation.conditionFragment, Except.bind_eq_ok_iff, Except.pure_eq_ok_iff] at h
    obtain ⟨left, leftRendered, right, rightRendered, rfl⟩ := h
    exact ((bears_columnFragment leftRendered).append (.fixed " = " (by decide))).append
      (bears_columnFragment rightRendered)

/-- The only value of an order is the limit. -/
theorem bears_orderFragment {load : EagerLoad} {statement : Statement}
    (h : load.orderFragment = .ok statement) : statement.Bears load.slots := by
  unfold EagerLoad.orderFragment at h
  unfold EagerLoad.slots
  split at h
  case isTrue single =>
    obtain rfl := Except.pure_eq_ok_iff.1 h
    rw [if_pos single]
    exact .fixed " LIMIT 1" (by decide)
  case isFalse several =>
    simp only [Except.bind_eq_ok_iff, Except.pure_eq_ok_iff] at h
    obtain ⟨key, rendered, rfl⟩ := h
    rw [if_neg several]
    -- the limit belongs behind the column that rows are ordered by
    have order := (Bears.fixed " ORDER BY " (by decide)).append (bears_columnFragment rendered)
    cases load.limit with
    | none => exact order.append .empty
    | some limit =>
      rw [limitFragment, ← Statement.append_assoc]
      refine (order.append (.fixed " LIMIT " (by decide))).slot _ (boundCount limit) fun count => ?_
      simp only [Statement.toList_append, Statement.toList_raw, text_columnFragment rendered,
        String.toList_append]
      exact List.suffix_rfl

/-- What is loaded bears its limit. -/
theorem bears_eagerLoad {load : EagerLoad} {main : String} {statement : Statement}
    (h : load.fragment main = .ok statement) : statement.Bears load.slots := by
  simp only [EagerLoad.fragment, Except.bind_eq_ok_iff, Except.pure_eq_ok_iff] at h
  obtain ⟨columns, projected, source, sourced, condition, conditioned, order, ordered, i, -, rfl⟩ :=
    h
  have opening : Statement.isFixed load.opening := by
    unfold EagerLoad.opening
    split <;> decide
  -- only the order binds a value
  have selected := ((Bears.fixed _ opening).append (bears_projectionFragment projected)).append
    (.fixed " FROM " (by decide))
  have filtered := ((selected.append (bears_sourceFragment sourced)).append
    (.fixed " WHERE " (by decide))).append (bears_conditionFragment conditioned)
  have whole := filtered.preceded (bears_orderFragment ordered)
  exact (whole.followed (.fixed ") AS r) AS " (by decide))).followed (.ident i)

/-- A filter bears its value, if it has one. -/
theorem bears_filter {filter : Filter} {label : String} {statement : Statement}
    (h : filter.fragment label = .ok statement) : statement.Bears (filter.slots label) := by
  simp only [Filter.fragment, Except.bind_eq_ok_iff, Except.pure_eq_ok_iff] at h
  obtain ⟨column, rendered, rfl⟩ := h
  have op : Statement.isFixed filter.op.sql := by
    cases filter.op <;> decide
  -- the value belongs behind the column and the operator
  have compared := ((bears_columnFragment rendered).append (.fixed " " (by decide))).append
    (.fixed _ op)
  unfold Filter.slots
  cases filter.value with
  | none => exact compared.append .empty
  | some value =>
    dsimp only
    rw [← Statement.append_assoc]
    refine (compared.append (.fixed " " (by decide))).slot _ (.text value) fun count => ?_
    simp only [Statement.toList_append, Statement.toList_raw, text_columnFragment rendered,
      String.toList_append]
    exact List.suffix_rfl

/-- A condition bears the values of its filters. -/
theorem bears_predicate {predicate : Predicate} {main : String} {statement : Statement}
    (h : predicate.fragment main = .ok statement) : statement.Bears (predicate.slots main) := by
  cases predicate with
  | filter f => exact bears_filter h
  | related relation table correlation filters =>
    simp only [Predicate.fragment, Except.bind_eq_ok_iff, Except.pure_eq_ok_iff] at h
    obtain ⟨source, sourced, condition, conditioned, rest, written, rfl⟩ := h
    have tied := (((Bears.fixed "EXISTS (SELECT 1 FROM " (by decide)).append
      (bears_sourceFragment sourced)).append (.fixed " WHERE " (by decide))).append
        (bears_conditionFragment conditioned)
    have each (f : Filter) (fragment : Statement)
        (h : (do return raw " AND " ++ (← f.fragment relation)) = Except.ok fragment) :
        fragment.Bears (f.slots relation) := by
      simp only [Except.bind_eq_ok_iff, Except.pure_eq_ok_iff] at h
      obtain ⟨inner, rendered, rfl⟩ := h
      exact (Bears.fixed " AND " (by decide)).preceded (bears_filter rendered)
    have others := Bears.foldr (Bears.each written each)
    exact (tied.preceded others).followed (.fixed ")" (by decide))

/-- A text behind a column stands at the end, whatever is before. -/
theorem suffix_columnFragment {label name : String} {column : Statement}
    (h : columnFragment label name = .ok column) (before : Statement) (text : String) (count : Nat) :
    (columnText label name ++ text).toList <:+
      (textFrom count (before ++ column ++ raw text).parts).toList := by
  rw [Statement.toList_append, Statement.toList_append, Statement.toList_raw, text_columnFragment h,
    String.toList_append, List.append_assoc]
  exact List.suffix_append _ _

theorem bears_lookup {lookup : Lookup} {main : String} {statement : Statement}
    (h : lookup.fragment main = .ok statement) : statement.Bears (lookup.slots main) := by
  cases lookup with
  | primary key value =>
    simp only [Lookup.fragment, Except.bind_eq_ok_iff, Except.pure_eq_ok_iff] at h
    obtain ⟨column, rendered, rfl⟩ := h
    have compared := (bears_columnFragment rendered).append (.fixed " = " (by decide))
    refine compared.slot _ (.text value) fun count => ?_
    simp only [Statement.toList_append, Statement.toList_raw, text_columnFragment rendered,
      String.toList_append]
    exact List.suffix_rfl
  | primaryOrAlternate key alternate value =>
    simp only [Lookup.fragment, Except.bind_eq_ok_iff, Except.pure_eq_ok_iff] at h
    obtain ⟨column, rendered, other, otherRendered, rfl⟩ := h
    have opened := ((Bears.fixed "(" (by decide)).append (bears_columnFragment rendered)).append
      (.fixed "::text = " (by decide))
    have first := opened.slot (columnText main key ++ "::text = ") (.text value)
      (suffix_columnFragment rendered _ _)
    have again := ((first.followed (.fixed " OR " (by decide))).followed
      (bears_columnFragment otherRendered)).followed (.fixed " = " (by decide))
    have second := again.slot (columnText main alternate ++ " = ") (.text value)
      (suffix_columnFragment otherRendered _ _)
    exact second.followed (.fixed ")" (by decide))

theorem bears_sortKey {key : SortKey} {main : String} {statement : Statement}
    (h : key.fragment main = .ok statement) : statement.Bears [] := by
  simp only [SortKey.fragment, Except.bind_eq_ok_iff, Except.pure_eq_ok_iff] at h
  obtain ⟨column, rendered, rfl⟩ := h
  have direction : Statement.isFixed key.direction.sql := by
    cases key.direction <;> decide
  exact ((bears_columnFragment rendered).append (.fixed " " (by decide))).append (.fixed _ direction)

theorem bears_clauseFragment {opening separator : String} (plain : Statement.isFixed opening)
    (plain' : Statement.isFixed separator) {members : List Statement} {parts : List (List Slot)}
    (each : List.Forall₂ Bears members parts) :
    (clauseFragment opening separator members).Bears parts.flatten := by
  unfold clauseFragment
  cases each with
  | nil => exact .empty
  | cons first others => exact (Bears.fixed _ plain).preceded (.joined plain' (.cons first others))

/-- Counts are cut down to the largest 64-bit count. -/
theorem toNat_saturate (n : Nat) : (Window.saturate n).toNat = min n 0xffffffffffffffff := by
  rw [Window.saturate, UInt64.toNat_ofNat']
  have size : UInt64.size = 0x10000000000000000 := rfl
  omega

theorem boundCount_eq (n : UInt64) : boundCount n = .count n.toNat := rfl

/-- The bound of the page is one row more, however large the page is. -/
theorem boundCount_lookahead (window : Window) :
    boundCount window.lookahead = .count (window.perPage.toNat + 1) := by
  rw [boundCount_eq, Window.lookahead, toNat_saturate, Param.count, Param.count]
  -- the largest integer is below the largest count, so the second cut hides the first
  have cut : min (min (window.perPage.toNat + 1) 0xffffffffffffffff) 0x7fffffffffffffff =
      min (window.perPage.toNat + 1) 0x7fffffffffffffff := by
    omega
  rw [cut]

/-- The rows before a page are counted up to the largest 64-bit count. -/
theorem boundCount_offset (window : Window) : boundCount window.offset =
    .count (min ((window.page.toNat - 1) * window.perPage.toNat) 0xffffffffffffffff) := by
  rw [boundCount_eq, Window.offset, toNat_saturate]

namespace Plan

variable {plan : Plan} {statement : Statement}

/-- The bounds of a page bear the size and the offset. -/
theorem bears_boundsFragment (plan : Plan) : plan.boundsFragment.Bears plan.boundSlots := by
  unfold boundsFragment boundSlots
  split
  · exact .fixed " LIMIT 1" (by decide)
  · cases plan.window with
    | none => exact .empty
    | some window =>
      have size := (Bears.fixed " LIMIT " (by decide)).slot " LIMIT " (boundCount window.lookahead)
        fun count => ⟨[], (Statement.toList_raw count " LIMIT ").symm⟩
      have start := (size.followed (.fixed " OFFSET " (by decide))).slot " OFFSET "
        (boundCount window.offset) fun count => by
          rw [Statement.toList_append, Statement.toList_raw]
          exact List.suffix_append _ _
      rw [boundCount_lookahead, boundCount_offset] at start
      simp only [boundCount_lookahead, boundCount_offset]
      exact start

/-- The inner fragment bears limits, then the key, then the values of filters. -/
theorem bears_innerFragment (h : plan.innerFragment = .ok statement) : statement.Bears
    (plan.eager.flatMap EagerLoad.slots ++ plan.lookup.toList.flatMap (·.slots plan.label)
      ++ plan.predicates.flatMap (·.slots plan.label)) := by
  simp only [innerFragment, Except.bind_eq_ok_iff, Except.pure_eq_ok_iff] at h
  obtain ⟨columns, projected, eager, loaded, table, rendered, lookup, found, predicates,
    conditioned, sort, sorted, rfl⟩ := h
  have load (load : EagerLoad) (fragment : Statement)
      (h : (do return raw ", " ++ (← load.fragment plan.label)) = Except.ok fragment) :
      fragment.Bears load.slots := by
    simp only [Except.bind_eq_ok_iff, Except.pure_eq_ok_iff] at h
    obtain ⟨inner, rendered, rfl⟩ := h
    exact (Bears.fixed ", " (by decide)).preceded (bears_eagerLoad rendered)
  -- values are bound by the loads and by the conditions; all that is between them binds none
  have loads := Bears.foldr (Bears.each loaded load)
  have conditions := bears_clauseFragment (by decide : Statement.isFixed " WHERE ")
    (by decide : Statement.isFixed " AND ")
    (List.rel_append (Bears.each found fun _ _ => bears_lookup)
      (Bears.each conditioned fun _ _ => bears_predicate))
  have keys := bears_clauseFragment (by decide : Statement.isFixed " ORDER BY ")
    (by decide : Statement.isFixed ", ") (Bears.each sorted fun _ _ => bears_sortKey)
  rw [List.flatten_append] at conditions
  rw [flatten_map_nil] at keys
  have head := (Bears.fixed "SELECT " (by decide)).append (bears_projectionFragment projected)
  have selected := (head.preceded loads).followed (.fixed " FROM " (by decide))
  have source := selected.followed (bears_tableFragment rendered)
  rw [List.append_assoc]
  exact (source.append conditions).followed keys

/-- The inner statement with its bounds, between the outermost opening and closing. -/
theorem bears_enclosed {inner : Statement} (rendered : plan.innerFragment = .ok inner) :
    (raw "SELECT row_to_json(t) FROM (" ++ inner ++ plan.boundsFragment ++ raw ") AS t").Bears
      plan.slots := by
  have opened := (Bears.fixed "SELECT row_to_json(t) FROM (" (by decide)).preceded
    (bears_innerFragment rendered)
  exact (opened.append (bears_boundsFragment plan)).followed (.fixed ") AS t" (by decide))

/-- The whole fragment bears all slots of the plan. -/
theorem bears_fragment (h : plan.fragment = .ok statement) : statement.Bears plan.slots := by
  obtain ⟨inner, rendered, rfl⟩ := fragment_eq_ok_iff.1 h
  exact bears_enclosed rendered

/-- A statement binds the values of the slots of its plan. -/
theorem params_of_sql (h : plan.sql = .ok statement) :
    statement.params = plan.slots.map (·.value) := by
  obtain ⟨whole, rendered, same⟩ := exists_fragment h
  exact same.params.trans (bears_fragment rendered).params

/-- The count of the placeholders is never found to be wrong, so a statement is written whenever its
fragments are. -/
theorem agree_sql (plan : Plan) : Agree Alike plan.sql plan.fragment := by
  have inner := agree_selectSql plan
  unfold sql fragment
  generalize plan.selectSql = selected at inner ⊢
  cases rendered : plan.innerFragment with
  | error failure =>
    rw [rendered] at inner
    cases inner
    exact .error failure
  | ok fragment =>
    rw [rendered] at inner
    cases inner with
    | ok same =>
      have whole := alike_enclosed plan same
      -- the count is right for the fragment, and so for what says the same
      have checked := whole.validate.trans (bears_enclosed rendered).validate_eq
      show Agree Alike (do
        Statement.validate _
        pure _) _
      rw [checked]
      exact .ok whole

end Plan

end Retrieval
