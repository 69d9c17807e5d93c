import Retrieval.Proofs.Conversion
import Retrieval.Proofs.Fetch.Exchange
import Retrieval.Proofs.Plan.References
import Retrieval.Proofs.Request.Limiting

/-!
# Pages tile a list

A server that has a list of rows sends those that the bounds of a query leave (`Statement.Served`):
it reads the bounds off the end of the text and the last two values. The bounds of a page are one
row more than fits on it and the rows before it, and both are cut down to the largest integer; a
list has no more rows than that, so the cuts never show (`Plan.fetchAll_of_served`). So the page
that is fetched holds exactly the rows at its positions and says rightly whether there are more
(`Page.Tiles`), and its number is never the largest if it is to have a next.

The pages that are met by going from each page to its next therefore have the whole list on them, in
order, and come to an end (`Page.Walk`).
-/

namespace Retrieval

open Statement (raw bound)

/-! ## The server -/

/-- The end of a query that binds its bounds behind some other values. -/
def Query.ending (before : Nat) : String :=
  " LIMIT " ++ s!"${before + 1}" ++ " OFFSET " ++ s!"${before + 2}" ++ ") AS t"

/-- The numbers of rows that a query is bounded by and that it passes over, if it ends with these
bounds. -/
def Query.bounds? (query : Query) : Option (Nat × Nat) :=
  match query.params.reverse with
  | .int8 offset :: .int8 limit :: before =>
    if (ending before.length).toList <:+ query.text.toList then
      some (limit.toNatClampNeg, offset.toNatClampNeg)
    else none
  | _ => none

/-- The bounds of a statement are read off its query, however its pieces are cut. -/
theorem Statement.bounds?_query {statement front : Statement} {limit offset : Int64}
    (same : statement.Alike (front ++ (raw " LIMIT " ++ bound (.int8 limit) ++ raw " OFFSET " ++
      bound (.int8 offset) ++ raw ") AS t")))
    (even : front.placeholders = front.params.length) :
    statement.query.bounds? = some (limit.toNatClampNeg, offset.toNatClampNeg) := by
  have params : statement.query.params.reverse =
      .int8 offset :: .int8 limit :: front.params.reverse := by
    show statement.params.reverse = _
    rw [same.params]
    simp
  -- the two last numbers are those behind the values of the front
  have text : statement.query.text = front.text ++ Query.ending front.params.length := by
    have count : front.parts.countP Part.isPlaceholder = front.params.length := even
    show statement.text = _
    rw [same.text, Statement.text, parts_append, textFrom_append, Nat.zero_add, count]
    exact congrArg (front.text ++ ·)
      (by simp [textFrom, raw, bound, Query.ending, String.append_assoc])
  have ends : (Query.ending front.params.reverse.length).toList <:+
      statement.query.text.toList := by
    rw [List.length_reverse, text, String.toList_append]
    exact List.suffix_append _ _
  unfold Query.bounds?
  rw [params]
  exact if_pos ends

/-- Whether a connection has some rows for a statement: it answers with those that the bounds
leave. -/
def Statement.Served (statement : Statement) (connection : Connection) (rows : List Row) : Prop :=
  ∀ limit offset, statement.query.bounds? = some (limit, offset) →
    connection statement.query = .ok ((rows.drop offset).take limit)

/-! ## Pages and walks -/

/-- Whether a page of a window holds its part of a list: the rows at its positions, and the numbers
of the pages beside it where there are such pages. -/
structure Page.Tiles {α : Type} (page : Page α) (values : List α) (window : Window) : Prop where
  number : page.page = window.page
  size : page.perPage = window.perPage
  rows : page.rows = values.extract ((window.page.toNat - 1) * window.perPage.toNat)
    (window.page.toNat * window.perPage.toNat)
  previous : page.previous.map UInt64.toNat =
    if 1 < window.page.toNat then some (window.page.toNat - 1) else none
  next : page.next.map UInt64.toNat =
    if window.page.toNat * window.perPage.toNat < values.length then some (window.page.toNat + 1)
    else none

/-- The pages that are fetched from a number on, each the next of the one before it, until a page
has no next. -/
inductive Page.Walk {α : Type} (fetch : UInt64 → Except Failure (Page α)) :
    UInt64 → List (Page α) → Prop
  | last {number : UInt64} {page : Page α} (fetched : fetch number = .ok page)
      (none : page.next = none) : Walk fetch number [page]
  | more {number next : UInt64} {page : Page α} {pages : List (Page α)}
      (fetched : fetch number = .ok page) (some : page.next = some next)
      (later : Walk fetch next pages) : Walk fetch number (page :: pages)

/-! ## Lists in pages -/

section Lists

variable {α : Type} (values : List α) {largest : Nat}

/-- Bounds beyond the length of a list may be cut down to it. -/
theorem take_drop_min (short : values.length ≤ largest) (limit offset : Nat) :
    (values.drop (min offset largest)).take (min limit largest) =
      (values.drop offset).take limit := by
  have dropped : values.drop (min offset largest) = values.drop offset := by
    rcases Nat.le_total offset largest with le | le
    · rw [Nat.min_eq_left le]
    · have beyond := List.drop_eq_nil_of_le (short.trans le)
      rw [Nat.min_eq_right le, List.drop_eq_nil_of_le short, beyond]
  rw [dropped]
  rcases Nat.le_total limit largest with le | le
  · rw [Nat.min_eq_left le]
  · have rest : (values.drop offset).length ≤ largest :=
      (List.length_drop ▸ Nat.sub_le _ _).trans short
    rw [Nat.min_eq_right le, List.take_of_length_le rest, List.take_of_length_le (rest.trans le)]

/-- The rows before a page and those on it are the rows before the next. -/
theorem before_add_perPage {page : Nat} (positive : 1 ≤ page) (perPage : Nat) :
    (page - 1) * perPage + perPage = page * perPage := by
  rw [← Nat.succ_mul, Nat.succ_eq_add_one, Nat.sub_add_cancel positive]

/-- The rows of a page, counted from the first page or from the first row. -/
theorem extract_page {page : Nat} (positive : 1 ≤ page) (perPage : Nat) :
    values.extract ((page - 1) * perPage) (page * perPage) =
      (values.drop ((page - 1) * perPage)).take perPage := by
  rw [List.extract_eq_take_drop, ← before_add_perPage positive, Nat.add_sub_cancel_left]

/-- With one row of look-ahead one sees whether a list goes on behind a page. -/
theorem lt_length_lookahead_iff {page : Nat} (positive : 1 ≤ page) (perPage : Nat) :
    perPage < ((values.drop ((page - 1) * perPage)).take (perPage + 1)).length ↔
      page * perPage < values.length := by
  have before := before_add_perPage positive perPage
  rw [List.length_take, List.length_drop]
  omega

end Lists

/-! ## One page -/

/-- A page that is made of the rows of its window and one row of look-ahead. The page before the
last row has a number that is no larger than the number of rows, so its next has a number as well.
-/
theorem Page.exists_tiles {α : Type} {values : List α} {window : Window}
    (fits : values.length ≤ 0x7fffffffffffffff) (page : 1 ≤ window.page)
    (perPage : 1 ≤ window.perPage) :
    ∃ page, Page.ofLookahead ((values.drop ((window.page.toNat - 1) * window.perPage.toNat)).take
      (window.perPage.toNat + 1)) window = .ok page ∧ page.Tiles values window := by
  have first : 1 ≤ window.page.toNat := UInt64.le_iff_toNat_le.1 page
  have size : 1 ≤ window.perPage.toNat := UInt64.le_iff_toNat_le.1 perPage
  have more := lt_length_lookahead_iff values first window.perPage.toNat
  have made := Page.made_ofLookahead window
    ((values.drop ((window.page.toNat - 1) * window.perPage.toNat)).take (window.perPage.toNat + 1))
  generalize Page.ofLookahead _ window = result at made
  cases made with
  | overflow there last =>
    have bound : window.page.toNat ≤ window.page.toNat * window.perPage.toNat :=
      Nat.le_mul_of_pos_right _ size
    have short := more.1 there
    rw [UInt64.size] at last
    omega
  | @page page number size fit next previous =>
    refine ⟨page, rfl, number, size, ?_, previous, next.trans (if_congr more rfl rfl)⟩
    rw [fit, extract_page values first, List.take_take, Nat.min_eq_left (Nat.le_succ _)]

namespace Plan

variable {plan : Plan} {window : Window} {statement : Statement}

/-- The plan of another page of a list. -/
def onPage (plan : Plan) (window : Window) : Plan := { plan with window := some window }

@[simp] theorem lookup_onPage (plan : Plan) (window : Window) :
    (plan.onPage window).lookup = plan.lookup :=
  rfl

@[simp] theorem window_onPage (plan : Plan) (window : Window) :
    (plan.onPage window).window = some window :=
  rfl

/-- Of a request for another page, only the page of the plan is another. -/
theorem ofRequest_onPage (scope : Scope) (id : Option String) {request : Request}
    (list : request.action = .index) (window : Window) (problems : List Problem) :
    ofRequest scope { request with window := some window, problems } id =
      (ofRequest scope request id).onPage window := by
  have paged : (if request.action = .index then some window else none) = some window := if_pos list
  exact congrArg (fun window => { ofRequest scope request id with window }) paged

/-- The page has no part in whether a statement can be written. -/
theorem exists_sql_onPage (written : plan.sql = .ok statement) (window : Window) :
    ∃ statement, (plan.onPage window).sql = .ok statement := by
  obtain ⟨whole, rendered, -⟩ := exists_fragment written
  obtain ⟨inner, rendered, -⟩ := fragment_eq_ok_iff.1 rendered
  have again : (plan.onPage window).fragment = .ok _ :=
    fragment_eq_ok_iff.2 ⟨inner, rendered, rfl⟩
  obtain ⟨statement, written, -⟩ := (agree_sql (plan.onPage window)).exists_ok_left again
  exact ⟨statement, written⟩

/-- The statement of a list ends with the bounds of its page. -/
theorem bounds?_of_sql (list : plan.lookup = none) (paged : plan.window = some window)
    (written : plan.sql = .ok statement) :
    statement.query.bounds? = some (min (window.perPage.toNat + 1) 0x7fffffffffffffff,
      min ((window.page.toNat - 1) * window.perPage.toNat) 0x7fffffffffffffff) := by
  obtain ⟨whole, rendered, same⟩ := exists_fragment written
  obtain ⟨inner, selected, rfl⟩ := fragment_eq_ok_iff.1 rendered
  have single : plan.isSingle = false := by rw [isSingle, list, Option.isSome_none]
  have bounds : plan.boundsFragment = raw " LIMIT " ++ bound (.count (window.perPage.toNat + 1)) ++
      raw " OFFSET " ++ bound (.count ((window.page.toNat - 1) * window.perPage.toNat)) := by
    have offset (n : Nat) : Param.count (min n 0xffffffffffffffff) = .count n := by
      have cut : min (min n 0xffffffffffffffff) 0x7fffffffffffffff = min n 0x7fffffffffffffff := by
        omega
      rw [Param.count, cut, Param.count]
    rw [boundsFragment, single, paged, if_neg Bool.false_ne_true]
    dsimp only
    rw [boundCount_lookahead, boundCount_offset, offset]
  have count (n : Nat) : (Int64.ofNat (min n 0x7fffffffffffffff)).toNatClampNeg =
      min n 0x7fffffffffffffff :=
    Int64.toNatClampNeg_ofNat_of_lt (by omega)
  -- what is before the bounds has as many placeholders as values
  have even : (raw "SELECT row_to_json(t) FROM (" ++ inner).placeholders =
      (raw "SELECT row_to_json(t) FROM (" ++ inner).params.length :=
    ((Statement.Bears.fixed _ (by decide)).append
      (bears_innerFragment selected)).placeholders_eq_params
  rw [bounds, Statement.append_assoc (raw _ ++ inner)] at same
  rw [Statement.bounds?_query same even, count, count]

/-- All the rows that are fetched for a page: those of the page and one row of look-ahead. -/
theorem fetchAll_of_served {connection : Connection} {rows : List Row} {values : List Value}
    (list : plan.lookup = none) (paged : plan.window = some window)
    (written : plan.sql = .ok statement) (served : statement.Served connection rows)
    (decoded : List.Forall₂ (fun row value => row.value? = some value) rows values)
    (fits : rows.length ≤ 0x7fffffffffffffff) :
    plan.fetchAll.run connection = ⟨[statement.query], .ok ((values.drop
      ((window.page.toNat - 1) * window.perPage.toNat)).take (window.perPage.toNat + 1))⟩ := by
  have answer := served _ _ (bounds?_of_sql list paged written)
  rw [take_drop_min rows fits] at answer
  have sent := List.forall₂_take (window.perPage.toNat + 1)
    (List.forall₂_drop ((window.page.toNat - 1) * window.perPage.toNat) decoded)
  exact run_fetchAll_eq_iff.2 (.decoded written answer sent rfl)

/-- The page that is fetched is its part of the list. -/
theorem fetchPage_of_served {connection : Connection} {rows : List Row}
    {values : List Value} (list : plan.lookup = none) (paged : plan.window = some window)
    (page : 1 ≤ window.page) (perPage : 1 ≤ window.perPage)
    (written : plan.sql = .ok statement) (served : statement.Served connection rows)
    (decoded : List.Forall₂ (fun row value => row.value? = some value) rows values)
    (fits : rows.length ≤ 0x7fffffffffffffff) :
    ∃ page, plan.fetchPage.run connection = ⟨[statement.query], .ok page⟩ ∧
      page.Tiles values window := by
  obtain ⟨made, eq, tile⟩ := Page.exists_tiles (decoded.length_eq ▸ fits) page perPage
  refine ⟨made, ?_, tile⟩
  rw [fetchPage, paged]
  show (plan.fetchAll >>= fun rows => .done (Page.ofLookahead rows window)).run connection = _
  rw [Session.run_bind_done, fetchAll_of_served list paged written served decoded fits]
  exact congrArg (Exchange.mk _) eq

end Plan

/-! ## Every page -/

/-- The rows on a page and those behind it are the rows from the page on. -/
theorem Page.Tiles.rows_append {α : Type} {page : Page α} {values : List α} {window : Window}
    (tile : page.Tiles values window) (positive : 1 ≤ window.page.toNat) :
    page.rows ++ values.drop (window.page.toNat * window.perPage.toNat) =
      values.drop ((window.page.toNat - 1) * window.perPage.toNat) := by
  rw [tile.rows, extract_page values positive, ← before_add_perPage positive, ← List.drop_drop,
    List.take_append_drop]

/-- Going from a page to the next meets the values from that page on, and comes to an end. -/
theorem Page.exists_walk {α : Type} {values : List α} {perPage : UInt64}
    {fetch : UInt64 → Except Failure (Page α)} (size : 1 ≤ perPage)
    (tiles : ∀ number, 1 ≤ number →
      ∃ page, fetch number = .ok page ∧ page.Tiles values ⟨number, perPage⟩)
    {number : UInt64} (positive : 1 ≤ number) :
    ∃ pages, Page.Walk fetch number pages ∧
      pages.flatMap (·.rows) = values.drop ((number.toNat - 1) * perPage.toNat) := by
  -- the induction is on the number of values that are still to come
  induction left : values.length - (number.toNat - 1) * perPage.toNat using Nat.strong_induction_on
    generalizing number with
  | h left ih =>
    have first : 1 ≤ number.toNat := UInt64.le_iff_toNat_le.1 positive
    have step : 1 ≤ perPage.toNat := UInt64.le_iff_toNat_le.1 size
    obtain ⟨page, fetched, tile⟩ := tiles number positive
    have rows := tile.rows_append first
    have next := tile.next
    dsimp only at rows next
    rw [← rows]
    by_cases more : number.toNat * perPage.toNat < values.length
    case pos =>
      rw [if_pos more, Option.map_eq_some_iff] at next
      obtain ⟨next, there, eq⟩ := next
      have later : (next.toNat - 1) * perPage.toNat = number.toNat * perPage.toNat := by
        rw [eq, Nat.add_sub_cancel]
      have positive' : 1 ≤ next := by
        rw [UInt64.le_iff_toNat_le, eq]
        exact Nat.le_add_left 1 _
      have before := before_add_perPage first perPage.toNat
      obtain ⟨pages, walk, behind⟩ := ih _ (by omega) positive' rfl
      refine ⟨page :: pages, .more fetched there walk, ?_⟩
      rw [List.flatMap_cons, behind, later]
    case neg =>
      rw [if_neg more, Option.map_eq_none_iff] at next
      refine ⟨[page], .last fetched next, ?_⟩
      rw [List.flatMap_cons, List.flatMap_nil, List.drop_eq_nil_of_le (Nat.le_of_not_lt more)]

namespace Converter

/-- Fetches the page of a number of the list that some parameters ask for. -/
def fetchPage (converter : Converter) (resourceType : String) (params : RawParams)
    (id : Option String) (connection : Connection) (number : UInt64) :
    Except Failure (Page Value) := do
  let conversion ← converter.convert resourceType
    { params with page := some (toString number.toNat) } .index id
  (conversion.plan.fetchPage.run connection).result

variable {converter : Converter} {resourceType : String} {params : RawParams} {id : Option String}
  {conversion : Conversion}

/-- The plan of a list is for the page that is asked for. -/
theorem plan_of_convert_index
    (h : converter.convert resourceType params .index id = .ok conversion) :
    conversion.plan.lookup = none ∧
      conversion.plan.window = some (Request.windowOf converter.settings params) := by
  obtain ⟨scope, -, -, rfl⟩ := convert_eq_ok_iff.1 h
  have action := Request.read_action scope converter.settings params .index
  rw [Plan.ofRequest]
  dsimp only
  rw [if_pos action, if_pos action, Request.read_window]
  exact ⟨rfl, rfl⟩

/-- For another page the plan is the same but for the page. -/
theorem exists_convert_of_number
    (h : converter.convert resourceType params .index id = .ok conversion) {number : UInt64}
    (positive : 0 < number) :
    ∃ later, converter.convert resourceType
        { params with page := some (toString number.toNat) } .index id = .ok later ∧
      later.plan = conversion.plan.onPage
        ⟨number, (Request.windowOf converter.settings params).perPage⟩ := by
  obtain ⟨scope, found, given, rfl⟩ := convert_eq_ok_iff.1 h
  refine ⟨_, convert_eq_ok_iff.2 ⟨scope, found, given, rfl⟩, ?_⟩
  obtain ⟨problems, eq⟩ := Request.read_of_number scope converter.settings params positive
  have action := Request.read_action scope converter.settings params .index
  rw [eq]
  exact Plan.ofRequest_onPage scope id action _ problems

/-- Any page of a list is fetched as its part of the list. -/
theorem fetchPage_onPage (h : converter.convert resourceType params .index id = .ok conversion)
    {connection : Connection} {rows : List Row} {values : List Value}
    (fits : rows.length ≤ 0x7fffffffffffffff)
    (decoded : List.Forall₂ (fun row value => row.value? = some value) rows values)
    {window : Window} {statement : Statement} (page : 1 ≤ window.page)
    (perPage : 1 ≤ window.perPage)
    (written : (conversion.plan.onPage window).sql = .ok statement)
    (served : statement.Served connection rows) :
    ∃ page, (conversion.plan.onPage window).fetchPage.run connection = ⟨[statement.query], .ok page⟩ ∧
      page.Tiles values window :=
  Plan.fetchPage_of_served ((Plan.lookup_onPage _ _).trans (plan_of_convert_index h).1)
    (Plan.window_onPage _ _) page perPage written served decoded fits

/-- If the statement of a list can be written, the parameters with the number of any page lead to
that page. -/
theorem exists_fetchPage (h : converter.convert resourceType params .index id = .ok conversion)
    {window : Window} (paged : conversion.plan.window = some window) (size : 1 ≤ window.perPage)
    {connection : Connection} {rows : List Row} {values : List Value}
    (fits : rows.length ≤ 0x7fffffffffffffff)
    (decoded : List.Forall₂ (fun row value => row.value? = some value) rows values)
    (written : ∃ statement, conversion.plan.sql = .ok statement)
    (served : ∀ number statement,
      (conversion.plan.onPage ⟨number, window.perPage⟩).sql = .ok statement →
        statement.Served connection rows) (number : UInt64) (first : 1 ≤ number) :
    ∃ page, converter.fetchPage resourceType params id connection number = .ok page ∧
      page.Tiles values ⟨number, window.perPage⟩ := by
  obtain rfl := Option.some.inj ((plan_of_convert_index h).2.symm.trans paged)
  -- the request for another page has the same plan but for its page
  obtain ⟨later, converted, plan⟩ := exists_convert_of_number h first
  obtain ⟨_, written⟩ := written
  let window : Window := ⟨number, (Request.windowOf converter.settings params).perPage⟩
  obtain ⟨statement, again⟩ := Plan.exists_sql_onPage written window
  obtain ⟨page, result, tile⟩ : ∃ page, (conversion.plan.onPage window).fetchPage.run connection =
      ⟨[statement.query], .ok page⟩ ∧ page.Tiles values window :=
    fetchPage_onPage h fits decoded first size again (served number statement again)
  refine ⟨page, ?_, tile⟩
  rw [fetchPage, converted]
  show (later.plan.fetchPage.run connection).result = _
  rw [plan, result]

/-- Pages tile the list. However settings are come by, their page sizes are positive; and then a
list is read with a page that has a number and a size, fetching any page of the list gives exactly
the rows on it, and going from the first page to the next and on gives every row once, in order, and
comes to an end. -/
theorem pages_tile {converter : Converter} {resourceType : String} {params : RawParams}
    {id : Option String} {conversion : Conversion}
    (h : converter.convert resourceType params .index id = .ok conversion) :
    (converter.settings.Built → converter.settings.Positive) ∧
    (converter.settings.Positive →
      ∃ window, conversion.plan.window = some window ∧ window.Within converter.settings ∧
        ∀ (connection : Connection) (rows : List Row) (values : List Value),
          rows.length ≤ 0x7fffffffffffffff →
          List.Forall₂ (fun row value => row.value? = some value) rows values →
          (∀ (window : Window) (statement : Statement), 1 ≤ window.page → 1 ≤ window.perPage →
            (conversion.plan.onPage window).sql = .ok statement → statement.Served connection rows →
            ∃ page, (conversion.plan.onPage window).fetchPage.run connection =
              ⟨[statement.query], .ok page⟩ ∧ page.Tiles values window) ∧
          ((∃ statement, conversion.plan.sql = .ok statement) →
            (∀ number statement,
              (conversion.plan.onPage ⟨number, window.perPage⟩).sql = .ok statement →
                statement.Served connection rows) →
            ∃ pages, Page.Walk (converter.fetchPage resourceType params id connection) 1 pages ∧
              pages.flatMap (·.rows) = values)) := by
  refine ⟨Settings.Built.positive, fun positive => ?_⟩
  have paged := (plan_of_convert_index h).2
  have within := Request.within_windowOf params positive
  refine ⟨_, paged, within, fun connection rows values fits decoded => ?_⟩
  refine ⟨fun window statement page perPage => fetchPage_onPage h fits decoded page perPage,
    fun written served => ?_⟩
  have tiles := exists_fetchPage h paged within.perPage fits decoded written served
  obtain ⟨pages, walk, all⟩ := Page.exists_walk within.perPage tiles (UInt64.le_refl 1)
  refine ⟨pages, walk, all.trans ?_⟩
  show values.drop (0 * _) = values
  rw [Nat.zero_mul, List.drop_zero]

end Converter

namespace Example

/-- A server that has the same rows for every query with bounds. -/
def server (rows : List Row) : Connection := fun query =>
  match query.bounds? with
  | none => .error (.query "no bounds")
  | some (limit, offset) => .ok ((rows.drop offset).take limit)

/-- The server serves every statement. -/
theorem served_server (rows : List Row) (statement : Statement) :
    statement.Served (server rows) rows := by
  intro limit offset bounds
  rw [server, bounds]

end Example

/-- Two posts on pages of one. -/
theorem Converter.pages_tile_blog :
    let params := { Example.everything with perPage := some "1" }
    let rows : List Row := [⟨.json, some "\"a\"", ""⟩, ⟨.json, some "\"b\"", ""⟩]
    ∃ conversion, Example.strict.convert "Post" params .index none = .ok conversion ∧
      (∃ (statement : Statement) (page : Page Value),
        (conversion.plan.onPage ⟨2, 1⟩).fetchPage.run (Example.server rows) =
          ⟨[statement.query], .ok page⟩ ∧ page.Tiles [.text "a", .text "b"] ⟨2, 1⟩) ∧
      ∃ pages, Page.Walk (Example.strict.fetchPage "Post" params none (Example.server rows)) 1
        pages ∧ pages.flatMap (·.rows) = [.text "a", .text "b"] := by
  intro params rows
  obtain ⟨conversion, converted, renders⟩ : ∃ conversion, Example.strict.convert "Post" params
      .index none = .ok conversion ∧ conversion.plan.sql.error? = none :=
    ⟨_, rfl, by decide +kernel⟩
  obtain ⟨statement, written⟩ := Except.error?_eq_none_iff.1 renders
  obtain ⟨second, again⟩ := Plan.exists_sql_onPage written ⟨2, 1⟩
  obtain ⟨sized, tiled⟩ := pages_tile converted
  obtain ⟨window, paged, -, pages⟩ := tiled (sized (.confined .standard))
  have decoded : List.Forall₂ (fun row value => row.value? = some value) rows
      [.text "a", .text "b"] :=
    .cons (by cbv) (.cons (by cbv) .nil)
  obtain ⟨single, every⟩ := pages (Example.server rows) rows _ (by decide) decoded
  obtain ⟨page, fetched⟩ := single _ second (by decide) (by decide) again
    (Example.served_server rows second)
  refine ⟨conversion, converted, ⟨second, page, fetched⟩, every ⟨statement, written⟩ ?_⟩
  exact fun number statement _ => Example.served_server rows statement

end Retrieval
