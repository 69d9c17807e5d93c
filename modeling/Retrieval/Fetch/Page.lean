import Retrieval.Failure
import Retrieval.Request.Window
import Retrieval.Value.Basic

/-!
# Pages

Rows are fetched with one row of look-ahead. A page holds the rows that fit; a row too many says
that there is a next page. The number of the next page is added up with a check: behind the page of
the largest number there is none, and rows that say otherwise are a failure.
-/

namespace Retrieval

/-- A page of a list and its neighbours. -/
structure Page (α : Type) where
  rows : List α
  page : UInt64
  perPage : UInt64
  next : Option UInt64
  previous : Option UInt64
deriving DecidableEq

namespace Page

/-- The number behind a number. -/
def after (page : UInt64) : Except Failure UInt64 :=
  if page.toNat + 1 < UInt64.size then .ok (page + 1) else .error .overflow

/-- The page of rows that were fetched with look-ahead. -/
def ofLookahead {α : Type} (rows : List α) (window : Window) : Except Failure (Page α) := do
  let next ← if window.perPage.toNat < rows.length then (after window.page).map some else pure none
  return {
    rows := rows.take window.perPage.toNat
    page := window.page
    perPage := window.perPage
    next
    previous := if 1 < window.page then some (window.page - 1) else none }

/-- A number of a page as a value. -/
def ofNumber? : Option UInt64 → Value
  | none => .null
  | some n => .ofCount n

/-- The record of a page of values. -/
def toValue (page : Page Value) : Value :=
  .record [("data", .list page.rows), ("page", .ofCount page.page),
    ("per_page", .ofCount page.perPage), ("next_page", ofNumber? page.next),
    ("prev_page", ofNumber? page.previous)]

end Page

end Retrieval
