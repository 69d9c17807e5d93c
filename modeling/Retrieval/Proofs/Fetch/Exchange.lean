import Retrieval.Fetch.Exchange
import Retrieval.Proofs.Fetch.Page
import Retrieval.Proofs.Fetch.Session

/-!
# One statement or none

A fetch asks a connection at most one thing: the text and the values of the plan's statement, if it
can be written. What comes of it is one of four things (`Plan.Obtains`), and which one is decided by
the statement, by the answer of the connection and by whether every row is a value. A failure of the
connection is handed on as it is, and of several rows that are no values the first is reported. The
three ways of fetching differ only in what they make of the values, and in the plans that they
refuse before anything is sent.

That the queries on record are all that is asked is a statement about two connections: if they
answer alike what was sent, nothing else of them can be seen in the exchange (`AsksOnlySent`).
-/

namespace Retrieval

/-- The exchanges in which something is made of all the rows of a plan. -/
inductive Plan.Obtains {α : Type} (plan : Plan) (connection : Connection)
    (Makes : List Value → Except Failure α → Prop) : Exchange α → Prop where
  | unwritten {failure : Failure} (unwritten : plan.sql = .error failure) :
    Obtains plan connection Makes ⟨[], .error failure⟩
  | failed {statement : Statement} {failure : Failure} (written : plan.sql = .ok statement)
    (answer : connection ⟨statement.text, statement.params⟩ = .error failure) :
    Obtains plan connection Makes ⟨[⟨statement.text, statement.params⟩], .error failure⟩
  | undecoded {statement : Statement} {before after : List Row} {row : Row}
    (written : plan.sql = .ok statement)
    (answer : connection ⟨statement.text, statement.params⟩ = .ok (before ++ row :: after))
    (decoded : ∀ row ∈ before, row.value?.isSome) (none : row.value? = none) :
    Obtains plan connection Makes
      ⟨[⟨statement.text, statement.params⟩], .error (.undecodable "row_to_json" row.complaint)⟩
  | decoded {statement : Statement} {rows : List Row} {values : List Value}
    {result : Except Failure α} (written : plan.sql = .ok statement)
    (answer : connection ⟨statement.text, statement.params⟩ = .ok rows)
    (each : List.Forall₂ (fun row value => row.value? = some value) rows values)
    (makes : Makes values result) :
    Obtains plan connection Makes ⟨[⟨statement.text, statement.params⟩], result⟩

/-- Whether what a fetch sends is all that it asks of a connection: the exchange with another
connection that answers the same to it is the same. -/
def AsksOnlySent {α : Type} (fetch : Connection → Exchange α) : Prop :=
  ∀ connection other : Connection,
    (∀ query ∈ (fetch connection).sent, other query = connection query) →
      fetch other = fetch connection

/-! ## Rows -/

namespace Row

variable {row : Row} {rows : List Row}

/-- A row is decoded to the value in its column. -/
theorem decode_eq_ok_iff {value : Value} : row.decode = .ok value ↔ row.value? = some value := by
  rw [decode]
  cases row.value? <;> simp

/-- Only a row without a value is complained of, in the words of the row. -/
theorem decode_eq_error_iff {failure : Failure} : row.decode = .error failure ↔
    row.value? = none ∧ failure = .undecodable "row_to_json" row.complaint := by
  rw [decode]
  cases row.value? with
  | some value => simp
  | none => simp [column, eq_comm]

/-- Rows are decoded one by one. -/
theorem decodeAll_eq_ok_iff {values : List Value} : decodeAll rows = .ok values ↔
    List.Forall₂ (fun row value => row.value? = some value) rows values := by
  constructor
  · intro decoded
    exact (Except.forall₂_of_mapM decoded).imp fun _ _ => decode_eq_ok_iff.1
  · intro each
    exact Except.mapM_of_forall₂ (each.imp fun _ _ => decode_eq_ok_iff.2)

/-- One row that is no value spoils all of them, wherever it stands, and the first such row is the
one that is reported. -/
theorem decodeAll_eq_error_iff {failure : Failure} : decodeAll rows = .error failure ↔
    ∃ before row after, rows = before ++ row :: after ∧ (∀ row ∈ before, row.value?.isSome) ∧
      row.value? = none ∧ failure = .undecodable "row_to_json" row.complaint := by
  have decoded (row : Row) : row.decode.error? = none ↔ row.value?.isSome := by
    rw [Except.error?_eq_none_iff, Option.isSome_iff_exists]
    exact exists_congr fun value => decode_eq_ok_iff
  have first : decodeAll rows = .error failure ↔
      rows.findSome? (fun row => row.decode.error?) = some failure := by
    rw [← Except.error?_mapM, Except.error?_eq_some_iff]
    rfl
  rw [first, List.findSome?_eq_some_iff]
  simp only [decoded, Except.error?_eq_some_iff, decode_eq_error_iff]
  constructor
  · rintro ⟨before, row, after, eq, ⟨none, failure⟩, valued⟩
    exact ⟨before, row, after, eq, valued, none, failure⟩
  · rintro ⟨before, row, after, eq, valued, none, failure⟩
    exact ⟨before, row, after, eq, ⟨none, failure⟩, valued⟩

end Row

/-! ## Exchanges -/

namespace Plan

variable {α : Type} {plan : Plan} {connection : Connection}

/-- All rows are fetched with one query, and with none if there is no statement. -/
theorem run_fetchAll (plan : Plan) (connection : Connection) : plan.fetchAll.run connection =
    match plan.sql with
    | .error failure => ⟨[], .error failure⟩
    | .ok statement => ⟨[statement.query], connection statement.query >>= Row.decodeAll⟩ := by
  unfold fetchAll
  cases plan.sql with
  | error failure => rfl
  | ok statement =>
    show (Session.send statement.query >>= fun rows => .done (Row.decodeAll rows)).run connection = _
    rw [Session.run_bind_done]
    rfl

/-- What a session makes of all rows is made of them in one of the four ways. -/
theorem obtains_run {make : List Value → Except Failure α}
    {Makes : List Value → Except Failure α → Prop} (makes : ∀ values, Makes values (make values)) :
    plan.Obtains connection Makes
      ((plan.fetchAll >>= fun values => .done (make values)).run connection) := by
  rw [Session.run_bind_done, run_fetchAll]
  -- the run is followed to its end: to the statement, to the answer, to the values
  cases written : plan.sql with
  | error failure => exact .unwritten written
  | ok statement =>
    dsimp only
    cases answer : connection statement.query with
    | error failure => exact .failed written answer
    | ok rows =>
      show Obtains plan connection Makes ⟨[statement.query], Row.decodeAll rows >>= make⟩
      cases decoded : Row.decodeAll rows with
      | ok values =>
        exact .decoded written answer (Row.decodeAll_eq_ok_iff.1 decoded) (makes values)
      | error failure =>
        obtain ⟨before, row, after, rfl, valued, none, rfl⟩ :=
          Row.decodeAll_eq_error_iff.1 decoded
        exact .undecoded written answer valued none

/-- A statement and an answer with rows leave only what is made of the rows. -/
theorem run_fetchAll_bind_of_answer {make : List Value → Except Failure α} {statement : Statement}
    {rows : List Row} (written : plan.sql = .ok statement)
    (answer : connection statement.query = .ok rows) :
    (plan.fetchAll >>= fun values => .done (make values)).run connection =
      ⟨[statement.query], Row.decodeAll rows >>= make⟩ := by
  rw [Session.run_bind_done, run_fetchAll, written]
  dsimp only
  rw [answer]
  rfl

/-- Each of the four ways leaves a session no choice. -/
theorem Obtains.run_eq {make : List Value → Except Failure α}
    {Makes : List Value → Except Failure α → Prop}
    (makes : ∀ values result, Makes values result → make values = result) {exchange : Exchange α}
    (obtained : plan.Obtains connection Makes exchange) :
    (plan.fetchAll >>= fun values => .done (make values)).run connection = exchange := by
  cases obtained with
  | unwritten unwritten =>
    rw [Session.run_bind_done, run_fetchAll, unwritten]
    rfl
  | failed written answer =>
    rw [Session.run_bind_done, run_fetchAll, written]
    dsimp only [Statement.query]
    rw [answer]
    rfl
  | @undecoded statement before after row written answer valued none =>
    have spoiled : Row.decodeAll (before ++ row :: after) = .error _ :=
      Row.decodeAll_eq_error_iff.2 ⟨before, row, after, rfl, valued, none, rfl⟩
    rw [run_fetchAll_bind_of_answer written answer, spoiled]
    rfl
  | decoded written answer each made =>
    rw [run_fetchAll_bind_of_answer written answer, Row.decodeAll_eq_ok_iff.2 each,
      ← makes _ _ made]
    rfl

/-- What is made of all rows is made of them in one of the four ways, and in that way only. -/
theorem run_fetchAll_bind_eq_iff {make : List Value → Except Failure α}
    {Makes : List Value → Except Failure α → Prop}
    (makes : ∀ values result, make values = result ↔ Makes values result) {exchange : Exchange α} :
    (plan.fetchAll >>= fun values => .done (make values)).run connection = exchange ↔
      plan.Obtains connection Makes exchange := by
  constructor
  · rintro rfl
    exact obtains_run fun values => (makes values _).1 rfl
  · exact Obtains.run_eq fun values result => (makes values result).2

/-- All rows: the values are the result. -/
theorem run_fetchAll_eq_iff {exchange : Exchange (List Value)} :
    plan.fetchAll.run connection = exchange ↔
      plan.Obtains connection (fun values result => result = .ok values) exchange := by
  have whole : plan.fetchAll.run connection =
      (plan.fetchAll >>= fun values => .done (.ok values)).run connection := by
    rw [Session.run_bind_done]
    generalize plan.fetchAll.run connection = exchange
    obtain ⟨sent, _ | _⟩ := exchange <;> rfl
  rw [whole]
  exact run_fetchAll_bind_eq_iff fun values result => eq_comm

/-- One row: the first value is the result, if there is one. -/
theorem run_fetchOne_eq_iff (single : plan.lookup.isSome) {exchange : Exchange (Option Value)} :
    plan.fetchOne.run connection = exchange ↔
      plan.Obtains connection (fun values result => result = .ok values.head?) exchange := by
  rw [fetchOne, isSingle, if_pos single]
  exact run_fetchAll_bind_eq_iff fun values result => eq_comm

/-- A page: the result is made of as many values as there are. -/
theorem run_fetchPage_eq_iff {window : Window} (paged : plan.window = some window)
    {exchange : Exchange (Page Value)} : plan.fetchPage.run connection = exchange ↔
      plan.Obtains connection (Page.Made window) exchange := by
  rw [fetchPage, paged]
  exact run_fetchAll_bind_eq_iff fun values result => Page.ofLookahead_eq_iff

/-- Fetching sends the statement of the plan or nothing. A plan of the wrong kind is refused before
anything is sent; for the others the rows are fetched in the one way, all of them have to be values,
and what is made of them is the list, its first member, or the page. -/
theorem exchanges_obtained (plan : Plan) (connection : Connection) :
    (∀ exchange, plan.fetchAll.run connection = exchange ↔
        plan.Obtains connection (fun values result => result = .ok values) exchange) ∧
      (plan.lookup = none →
        plan.fetchOne.run connection = ⟨[], .error (.noLookup plan.resourceType)⟩) ∧
      (plan.lookup.isSome → ∀ exchange, plan.fetchOne.run connection = exchange ↔
        plan.Obtains connection (fun values result => result = .ok values.head?) exchange) ∧
      (plan.window = none →
        plan.fetchPage.run connection = ⟨[], .error (.noWindow plan.resourceType)⟩) ∧
      (∀ window, plan.window = some window → ∀ exchange,
        plan.fetchPage.run connection = exchange ↔
          plan.Obtains connection (Page.Made window) exchange) ∧
      ((Failure.noLookup plan.resourceType).message = "Validation error: " ++
          ("plan for " ++ plan.resourceType ++ " has no single-row lookup") ∧
        (Failure.noWindow plan.resourceType).message = "Validation error: " ++
          ("plan for " ++ plan.resourceType ++ " has no page window")) ∧
      AsksOnlySent plan.fetchAll.run ∧ AsksOnlySent plan.fetchOne.run ∧
      AsksOnlySent plan.fetchPage.run := by
  refine ⟨fun exchange => run_fetchAll_eq_iff, fun list => ?_, fun single exchange =>
    run_fetchOne_eq_iff single, fun unpaged => ?_, fun window paged exchange =>
    run_fetchPage_eq_iff paged, ⟨rfl, rfl⟩, ?_⟩
  · have single : ¬plan.isSingle := by simp [isSingle, list]
    rw [fetchOne, if_neg single]
    rfl
  · rw [fetchPage, unpaged]
    rfl
  · exact ⟨fun _ _ => Session.run_eq_of_sent _, fun _ _ => Session.run_eq_of_sent _,
      fun _ _ => Session.run_eq_of_sent _⟩

/-- A list of posts, one on a page. -/
def onePost : Plan :=
  { resourceType := "Post", table := "posts", label := "post", columns := ∅, eager := []
    predicates := [], sort := [], lookup := none, window := some ⟨1, 1⟩ }

/-- A single post, looked up by its key. -/
def postById : Plan := { onePost with lookup := some (.primary "id" "7"), window := none }

/-- A second row gives a page of one its next page. It spoils the page if it is no value, and a
single row as well, and a connection that fails is heard in its own words. -/
theorem exchanges_obtained_onePost :
    let post : Row := ⟨.json, some "\"a\"", ""⟩
    let null : Row := ⟨.json, none, "unexpected null"⟩
    ∃ statement statement', onePost.sql = .ok statement ∧ postById.sql = .ok statement' ∧
      onePost.fetchPage.run (fun _ => .ok [post, post]) =
        ⟨[⟨statement.text, statement.params⟩], .ok ⟨[.text "a"], 1, 1, some 2, none⟩⟩ ∧
      onePost.fetchPage.run (fun _ => .ok [post, null]) = ⟨[⟨statement.text, statement.params⟩],
        .error (.undecodable "row_to_json" "unexpected null")⟩ ∧
      onePost.fetchPage.run (fun _ => .error (.query "timeout")) =
        ⟨[⟨statement.text, statement.params⟩], .error (.query "timeout")⟩ ∧
      onePost.fetchOne.run (fun _ => .ok [post]) = ⟨[], .error (.noLookup "Post")⟩ ∧
      postById.fetchOne.run (fun _ => .ok [post]) =
        ⟨[⟨statement'.text, statement'.params⟩], .ok (some (.text "a"))⟩ ∧
      postById.fetchOne.run (fun _ => .ok [post, null]) =
        ⟨[⟨statement'.text, statement'.params⟩],
          .error (.undecodable "row_to_json" "unexpected null")⟩ ∧
      postById.fetchPage.run (fun _ => .ok [post]) = ⟨[], .error (.noWindow "Post")⟩ := by
  intro post null
  obtain ⟨statement, written⟩ : ∃ statement, onePost.sql = .ok statement :=
    Except.error?_eq_none_iff.1 (by decide +kernel)
  obtain ⟨statement', written'⟩ : ∃ statement, postById.sql = .ok statement :=
    Except.error?_eq_none_iff.1 (by decide +kernel)
  have value : post.value? = some (.text "a") := by cbv
  have before : ∀ row ∈ [post], row.value?.isSome := by simp [value]
  have page : Page.Made ⟨1, 1⟩ [Value.text "a", .text "a"] (.ok ⟨[.text "a"], 1, 1, some 2, none⟩) :=
    .page rfl rfl rfl rfl rfl
  obtain ⟨-, listed, -, -, -⟩ := exchanges_obtained onePost fun _ => .ok [post]
  obtain ⟨-, -, -, -, two, -⟩ := exchanges_obtained onePost fun _ => .ok [post, post]
  obtain ⟨-, -, -, -, spoiled, -⟩ := exchanges_obtained onePost fun _ => .ok [post, null]
  obtain ⟨-, -, -, -, late, -⟩ := exchanges_obtained onePost fun _ => .error (.query "timeout")
  obtain ⟨-, -, found, unpaged, -⟩ := exchanges_obtained postById fun _ => .ok [post]
  obtain ⟨-, -, single, -⟩ := exchanges_obtained postById fun _ => .ok [post, null]
  refine ⟨statement, statement', written, written', ?_, ?_, ?_, listed rfl, ?_, ?_, unpaged rfl⟩
  · exact (two ⟨1, 1⟩ rfl _).2 (.decoded written rfl (.cons value (.cons value .nil)) page)
  · exact (spoiled ⟨1, 1⟩ rfl _).2 (@Obtains.undecoded _ _ _ _ _ [post] [] null written rfl before rfl)
  · exact (late ⟨1, 1⟩ rfl _).2 (.failed written rfl)
  · exact (found rfl _).2 (.decoded written' rfl (.cons value .nil) rfl)
  · exact (single rfl _).2 (@Obtains.undecoded _ _ _ _ _ [post] [] null written' rfl before rfl)

end Plan

end Retrieval
