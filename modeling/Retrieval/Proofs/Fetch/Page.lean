import Mathlib.Data.Option.Basic
import Retrieval.Fetch.Page
import Retrieval.Proofs.Except

/-!
# Pages of look-ahead

What becomes of rows that were fetched with look-ahead is told in plain numbers (`Page.Made`): the
first rows, as many as fit, and the neighbours. A next page has a number that is larger by one, so
behind the page of the largest number there can be none, and rows that ask for it make no page at
all. Nothing else is left open: the account has exactly one result (`Page.ofLookahead_eq_iff`).
-/

namespace Retrieval.Page

variable {α : Type} {window : Window} {rows : List α} {result other : Except Failure (Page α)}

/-- What becomes of rows that were fetched for a window with look-ahead. -/
inductive Made (window : Window) (rows : List α) : Except Failure (Page α) → Prop where
  | page {page : Page α} (number : page.page = window.page) (size : page.perPage = window.perPage)
    (fit : page.rows = rows.take window.perPage.toNat)
    (next : page.next.map UInt64.toNat =
      if window.perPage.toNat < rows.length then some (window.page.toNat + 1) else none)
    (previous : page.previous.map UInt64.toNat =
      if 1 < window.page.toNat then some (window.page.toNat - 1) else none) :
    Made window rows (.ok page)
  | overflow (more : window.perPage.toNat < rows.length) (last : window.page.toNat + 1 = UInt64.size) :
    Made window rows (.error .overflow)

/-- There is a number behind every number but the largest. -/
theorem after_eq_ok {page : UInt64} (small : page.toNat + 1 < UInt64.size) :
    ∃ next, after page = .ok next ∧ next.toNat = page.toNat + 1 := by
  refine ⟨page + 1, if_pos small, ?_⟩
  rw [UInt64.toNat_add]
  exact Nat.mod_eq_of_lt small

/-- No page comes after the one with the largest number. -/
theorem after_eq_error {page : UInt64} (last : page.toNat + 1 = UInt64.size) :
    after page = .error .overflow :=
  if_neg (Nat.not_lt.2 (Nat.le_of_eq last.symm))

/-- The page before the first has no number. -/
theorem map_toNat_previous (page : UInt64) :
    (if 1 < page then some (page - 1) else none).map UInt64.toNat =
      if 1 < page.toNat then some (page.toNat - 1) else none := by
  have later : 1 < page ↔ 1 < page.toNat := UInt64.lt_iff_toNat_lt
  by_cases first : 1 < page
  case pos =>
    have le : 1 ≤ page := UInt64.le_of_lt first
    rw [if_pos first, if_pos (later.1 first), Option.map_some, UInt64.toNat_sub_of_le _ _ le]
    rfl
  case neg =>
    rw [if_neg first, if_neg (mt later.2 first)]
    rfl

/-- The page that is cut out of the rows meets the description. -/
theorem made_ofLookahead (window : Window) (rows : List α) :
    Made window rows (ofLookahead rows window) := by
  unfold ofLookahead
  -- a row beyond the page asks for the number of the next page, which may be one too large
  by_cases more : window.perPage.toNat < rows.length
  case neg =>
    rw [if_neg more]
    exact .page rfl rfl rfl (if_neg more).symm (map_toNat_previous window.page)
  case pos =>
    rw [if_pos more]
    by_cases small : window.page.toNat + 1 < UInt64.size
    case pos =>
      obtain ⟨next, eq, behind⟩ := after_eq_ok small
      rw [eq]
      refine .page rfl rfl rfl ?_ (map_toNat_previous window.page)
      rw [if_pos more, ← behind]
      rfl
    case neg =>
      have last : window.page.toNat + 1 = UInt64.size := by
        have bound : window.page.toNat < UInt64.size := UInt64.toNat_lt window.page
        omega
      rw [after_eq_error last]
      exact .overflow more last

/-- Numbers of pages are told apart by what they count. -/
theorem eq_of_map_toNat {a b : Option UInt64} (h : a.map UInt64.toNat = b.map UInt64.toNat) :
    a = b :=
  Option.map_injective (fun _ _ => UInt64.toNat_inj.1) h

/-- A page that is made says that its next page has a number. -/
theorem Made.lt_of_more {page : Page α} (made : Made window rows (.ok page))
    (more : window.perPage.toNat < rows.length) : window.page.toNat + 1 < UInt64.size := by
  cases made with
  | page number size fit next previous =>
    rw [if_pos more] at next
    obtain ⟨behind, -, eq⟩ := Option.map_eq_some_iff.1 next
    exact eq ▸ UInt64.toNat_lt behind

/-- The description leaves no choice. -/
theorem Made.unique (made : Made window rows result) (again : Made window rows other) :
    result = other := by
  cases made with
  | overflow more last =>
    cases again with
    | overflow => rfl
    | page number size fit next previous =>
      have small := (Made.page number size fit next previous).lt_of_more more
      omega
  -- all fields of a page are told, its numbers by what they count
  | @page first number size fit behind before =>
    have made : Made window rows (.ok first) := .page number size fit behind before
    cases again with
    | overflow more last =>
      have small := made.lt_of_more more
      omega
    | @page second number' size' fit' behind' before' =>
      have nexts := eq_of_map_toNat (behind.trans behind'.symm)
      have befores := eq_of_map_toNat (before.trans before'.symm)
      obtain ⟨rows, page, perPage, next, previous⟩ := first
      obtain ⟨rows', page', perPage', next', previous'⟩ := second
      obtain rfl : rows = rows' := fit.trans fit'.symm
      obtain rfl : page = page' := number.trans number'.symm
      obtain rfl : perPage = perPage' := size.trans size'.symm
      obtain rfl : next = next' := nexts
      obtain rfl : previous = previous' := befores
      rfl

/-- Rows that were fetched with look-ahead become this and nothing else. -/
theorem ofLookahead_eq_iff : ofLookahead rows window = result ↔ Made window rows result := by
  constructor
  · rintro rfl
    exact made_ofLookahead window rows
  · exact (made_ofLookahead window rows).unique

example : ofLookahead [(), ()] ⟨0xffffffffffffffff, 1⟩ = .error .overflow := by decide

end Retrieval.Page
