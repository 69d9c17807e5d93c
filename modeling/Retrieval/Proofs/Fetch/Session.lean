import Retrieval.Fetch.Session

/-!
# Runs of sessions

A session that is put together from two runs the first and then the second, and what is sent is what
the first sends and then what the second sends (`Session.run_bind`). The queries on record are all
that is asked of a connection: another connection that answers them alike cannot be told from it
(`Session.run_eq_of_sent`). Both are shown by induction on the session, one query at a time.
-/

namespace Retrieval

variable {α β : Type}

/-- One exchange and then another, unless the first fails. -/
def Exchange.andThen (first : Exchange α) (next : α → Exchange β) : Exchange β :=
  match first.result with
  | .ok a => ⟨first.sent ++ (next a).sent, (next a).result⟩
  | .error failure => ⟨first.sent, .error failure⟩

/-- What is sent before goes before what is sent in either exchange. -/
theorem Exchange.andThen_cons (query : Query) (first : Exchange α) (next : α → Exchange β) :
    (⟨query :: first.sent, first.result⟩ : Exchange α).andThen next =
      ⟨query :: (first.andThen next).sent, (first.andThen next).result⟩ := by
  obtain ⟨sent, result⟩ := first
  cases result with
  | error failure => rfl
  | ok a => rfl

namespace Session

/-- Sessions one after another are exchanges one after another. -/
theorem run_bind (session : Session α) (next : α → Session β) (connection : Connection) :
    (session >>= next).run connection =
      (session.run connection).andThen fun a => (next a).run connection := by
  induction session with
  | done result =>
    cases result with
    | error failure => rfl
    | ok a => rfl
  | ask query later ih =>
    have rest := ih (connection query)
    show (⟨query :: ((later (connection query) >>= next).run connection).sent,
      ((later (connection query) >>= next).run connection).result⟩ : Exchange β) = _
    rw [rest]
    exact (Exchange.andThen_cons query _ _).symm

/-- What is made of a result at the end sends nothing. -/
theorem run_bind_done (session : Session α) (make : α → Except Failure β)
    (connection : Connection) : (session >>= fun a => done (make a)).run connection =
      ⟨(session.run connection).sent, (session.run connection).result >>= make⟩ := by
  rw [run_bind]
  obtain ⟨sent, result⟩ := session.run connection
  cases result with
  | error failure => rfl
  | ok a =>
    show (⟨sent ++ [], make a⟩ : Exchange β) = ⟨sent, make a⟩
    rw [List.append_nil]

/-- A session sees nothing of a connection but the answers to the queries that it sends. -/
theorem run_eq_of_sent (session : Session α) {connection other : Connection}
    (same : ∀ query ∈ (session.run connection).sent, other query = connection query) :
    session.run other = session.run connection := by
  induction session with
  | done result => rfl
  | ask query next ih =>
    have first : other query = connection query := same query List.mem_cons_self
    have later := ih (connection query) fun later sent => same later (List.mem_cons_of_mem _ sent)
    rw [run, run, first, later]

end Session

end Retrieval
