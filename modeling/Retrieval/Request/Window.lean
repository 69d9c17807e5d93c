import Retrieval.Value.Basic

/-!
# Page windows

A list is fetched page by page. A window is a page number, counted from one, and a page size; both
are 64-bit counts. The number of rows before a page and the number of rows to ask for stop at the
largest count.
-/

namespace Retrieval

/-- A page of a list. -/
structure Window where
  page : UInt64
  perPage : UInt64
deriving DecidableEq, Inhabited

namespace Window

/-- A count that stops at the largest 64-bit count. -/
def saturate (n : Nat) : UInt64 := UInt64.ofNat (min n (UInt64.size - 1))

/-- The number of rows before the page. -/
def offset (window : Window) : UInt64 :=
  saturate ((window.page.toNat - 1) * window.perPage.toNat)

/-- The number of rows to ask for: one more than the page holds, to see whether there is another
page. -/
def lookahead (window : Window) : UInt64 := saturate (window.perPage.toNat + 1)

/-- The record of a window. -/
def toValue (window : Window) : Value :=
  .record [("page", .ofCount window.page), ("per_page", .ofCount window.perPage)]

end Window

end Retrieval
