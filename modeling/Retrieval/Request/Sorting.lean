import Retrieval.Request.Basic
import Retrieval.Resource.Metadata
import Retrieval.Text.Blank

/-!
# Sort keys of a request

Sort keys are sent as field names between commas. A minus sign in front means descending order; a
plus sign, or the space that form decoding makes of it, means ascending order, as does no sign.
Blanks around a name and empty names are passed over.
-/

namespace Retrieval

/-- The sort key that one piece of the list spells, unless the piece names no field. -/
def SortKey.ofPiece? (piece : List Char) : Option SortKey :=
  let (direction, field) := match piece with
    | '-' :: rest => (.descending, rest)
    | '+' :: rest | ' ' :: rest => (.ascending, rest)
    | _ => (Direction.ascending, piece)
  match Text.trimBlanks field with
  | [] => none
  | name => some ⟨String.ofList name, direction⟩

/-- The sort keys that a list spells, in order. -/
def SortKey.ofText (text : String) : List SortKey :=
  (Text.split ',' text.toList).filterMap ofPiece?

namespace Request

/-- Adds a sort key if its field may be sorted by, and else reports it. -/
def sortBy (main : Metadata) (request : Request) (key : SortKey) : Request :=
  if main.canSort key.field then { request with sorting := request.sorting ++ [key] }
  else request.report (.unknownSortField key.field)

/-- Reads the sort keys. -/
def readSorting (main : Metadata) (sorting : Option String) (request : Request) : Request :=
  match sorting with
  | none => request
  | some text => (SortKey.ofText text).foldl (sortBy main) request

end Request

end Retrieval
