import Retrieval.Query.RawValue
import Retrieval.Request.Basic
import Retrieval.Settings
import Retrieval.Text.Numeral

/-!
# Limits and the page of a request

A limit caps the rows of a selected relation; of several limits the last one counts. The page of a
list has defaults, and its size is capped. A count that is not positive is reported and passed over.
-/

namespace Retrieval.Request

/-- Reads the limit sent under one key. -/
def limitBy (request : Request) (key : String) (value : RawValue) : Request :=
  match value.texts.getLast? with
  | none => request
  | some text =>
    if key = request.resource then request.report (.limitOnMain key)
    else if !request.fields.contains key then request.report (.unknownLimit key)
    else match Text.positive? text with
      | some limit => { request with limits := request.limits.insert key limit }
      | none => request.report (.invalidLimit key text)

/-- Reads the limits sent under every key, in the order of the keys. -/
def readLimits (raw : OrderedMap RawValue) (request : Request) : Request :=
  raw.entries.foldl (fun request entry => request.limitBy entry.1 entry.2) request

/-- A parameter of paging, or its default with a report if it is no positive count. -/
def pageParam (param : PageParam) (default : UInt64) (text : Option String) :
    UInt64 × List Problem :=
  match text with
  | none => (default, [])
  | some text =>
    match Text.positive? text with
    | some count => (count, [])
    | none => (default, [.invalidPaging param text])

/-- Reads the page of a list. -/
def readWindow (settings : Settings) (page perPage : Option String) (request : Request) : Request :=
  let (number, numberProblems) := pageParam .page 1 page
  let (size, sizeProblems) := pageParam .perPage settings.defaultPerPage perPage
  { request.reportAll (numberProblems ++ sizeProblems) with
    window := some ⟨number, min size settings.maxPerPage⟩ }

end Retrieval.Request
