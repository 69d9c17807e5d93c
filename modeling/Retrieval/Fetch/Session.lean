import Retrieval.Statement
import Retrieval.Value.Basic

/-!
# Sessions

A statement is sent to a connection as its text and the values of its placeholders. The connection
answers with rows, or it fails. What is done with a connection is a `Session`, which sends one query
after another and goes on with what is answered, and to run it gives an `Exchange`: every query that
was sent, and what came of it all.
-/

namespace Retrieval

/-- A statement as it is sent. -/
structure Query where
  text : String
  params : List Param
deriving DecidableEq

/-- The query of a statement, its placeholders numbered. -/
def Statement.query (statement : Statement) : Query := ⟨statement.text, statement.params⟩

/-- The type of the column in which rows arrive. -/
inductive ColumnType where
  | json
  | text
deriving DecidableEq

/-- A row of one column. -/
structure Row where
  type : ColumnType
  cell : Option String
  /-- What is said of the row if it holds no value. -/
  complaint : String
deriving DecidableEq

/-- What answers queries: with rows, or with a failure of any kind. -/
abbrev Connection := Query → Except Failure (List Row)

/-- A client of a database, which says in its own words why it has no rows. -/
abbrev Client := Query → Except String (List Row)

/-- A client as a connection. -/
def Client.connection (client : Client) : Connection := fun query =>
  (client query).mapError .query

/-- The queries sent in a session, in order, and its result. -/
structure Exchange (α : Type) where
  sent : List Query
  result : Except Failure α

/-- Work with a connection. -/
inductive Session (α : Type) where
  | done (result : Except Failure α)
  /-- A query is sent, and the answer decides how to go on. -/
  | ask (query : Query) (next : Except Failure (List Row) → Session α)

namespace Session

variable {α β : Type}

/-- One session after another, unless the first fails. -/
def bind (session : Session α) (next : α → Session β) : Session β :=
  match session with
  | done (.ok a) => next a
  | done (.error failure) => done (.error failure)
  | ask query later => ask query fun answer => (later answer).bind next

instance : Monad Session where
  pure a := done (.ok a)
  bind := bind

/-- What may fail without a connection may be done in a session. -/
instance : MonadLift (Except Failure) Session := ⟨done⟩

/-- Sends a query. -/
def send (query : Query) : Session (List Row) := ask query done

/-- Runs a session with a connection. -/
def run (connection : Connection) : Session α → Exchange α
  | done result => ⟨[], result⟩
  | ask query next =>
    let later := (next (connection query)).run connection
    ⟨query :: later.sent, later.result⟩

end Session

end Retrieval
