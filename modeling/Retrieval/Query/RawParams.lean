import Retrieval.Query.RawValue
import Retrieval.Text.Percent

/-!
# Raw parameters

The untrusted parameters of one request, as they were sent: per resource the fields asked for, the
filters and the limit, and for the whole request the sorting and the page. They are read from a
query string or from a structured value.

## Query strings

A query string is a sequence of pairs in form encoding. A key such as `fields[post]` names the group
and the resource; what follows the first pair of brackets is ignored, and so is every pair that
names no group. Repeated keys accumulate, except that the last sorting and the last page win.

Filters keep their percent escapes, because a filter is unescaped where it is read; only plus signs
are spaces already here. An escaped percent sign in a filter thus stays a percent sign.
-/

namespace Retrieval

/-- The parameters of one request. -/
structure RawParams where
  fields : OrderedMap RawValue
  filters : OrderedMap RawValue
  limit : OrderedMap RawValue
  sorting : Option String
  page : Option String
  perPage : Option String
deriving DecidableEq

namespace RawParams

/-- The parameters of a request that sends none. -/
def empty : RawParams := ⟨.empty, .empty, .empty, none, none, none⟩

instance : EmptyCollection RawParams := ⟨empty⟩

instance : Inhabited RawParams := ⟨empty⟩

/-- Adds a text under a key, behind those already there. -/
def accumulate (values : OrderedMap RawValue) (key text : String) : OrderedMap RawValue :=
  values.insert key (match values.find? key with
    | none => .one text
    | some value => value.push text)

/-- Asks for fields of a resource, instead of those asked for before. -/
def field (params : RawParams) (resource : String) (value : RawValue) : RawParams :=
  { params with fields := params.fields.insert resource value }

/-- Adds a filter on a resource. -/
def filter (params : RawParams) (resource text : String) : RawParams :=
  { params with filters := accumulate params.filters resource text }

/-- Limits a relation, over the limit given before. -/
def limitTo (params : RawParams) (relation text : String) : RawParams :=
  { params with limit := params.limit.insert relation (.one text) }

/-! ## Items of a query string -/

/-- One pair of a query string, its key and its value read. -/
inductive Item where
  | fields (resource text : String)
  /-- A filter on a resource, its escapes not undone. -/
  | filters (resource text : String)
  | limit (relation text : String)
  | sorting (text : String)
  | page (text : String)
  | perPage (text : String)
deriving DecidableEq

/-- The parameters with one more item. -/
def add (params : RawParams) : Item → RawParams
  | .fields resource text => { params with fields := accumulate params.fields resource text }
  | .filters resource text => params.filter resource text
  | .limit relation text => { params with limit := accumulate params.limit relation text }
  | .sorting text => { params with sorting := some text }
  | .page text => { params with page := some text }
  | .perPage text => { params with perPage := some text }

/-- Splits a key such as `base[sub]` before its first bracket. The second component is what stands
in the first pair of brackets, if they are closed and not empty. -/
def splitKey (key : List Char) : List Char × Option (List Char) :=
  match Text.cut '[' key with
  | (base, none) => (base, none)
  | (base, some rest) =>
    match Text.cut ']' rest with
    | (c :: sub, some _) => (base, some (c :: sub))
    | _ => (base, none)

/-- The item that a pair of key and value spells, if it spells one. -/
def item? (key value : List Char) : Option Item :=
  let decoded := String.ofList (Text.Percent.decodeForm value)
  match splitKey (Text.Percent.decodeForm key) with
  | (base, some sub) =>
    let name := String.ofList sub
    if base = "fields".toList then some (.fields name decoded)
    else if base = "filters".toList then
      some (.filters name (String.ofList (Text.replace '+' ' ' value)))
    else if base = "limit".toList then some (.limit name decoded)
    else none
  | (base, none) =>
    if base = "sorting".toList ∨ base = "sort".toList then some (.sorting decoded)
    else if base = "page".toList then some (.page decoded)
    else if base = "per_page".toList then some (.perPage decoded)
    else none

/-- The item of one pair; without an equals sign the value is empty. -/
def pairItem? (pair : List Char) : Option Item :=
  let (key, value) := Text.cut '=' pair
  item? key (value.getD [])

/-- The items of a query string, in order. -/
def items (query : List Char) : List Item :=
  (Text.split '&' (Text.dropOne '?' query)).filterMap fun pair =>
    if pair.isEmpty then none else pairItem? pair

/-- The parameters of a query string. -/
def ofQuery (query : String) : RawParams := (items query.toList).foldl add empty

/-! ## Records -/

/-- The declared order of the fields. -/
def fieldNames : List String := ["fields", "filters", "limit", "sorting", "page", "per_page"]

/-- Reads parameters from a structured value; the sort keys may also be given as `sort`. -/
def ofValue? (value : Value) : Option RawParams := do
  let record ← value.fields? .json fieldNames
  let map := Value.optional? .empty (Value.asMap? RawValue.ofValue?)
  let text := Value.optional? none Value.asTextOrNull?
  let sortKeys ← match record.lookup "sort", record.lookup "sorting" with
    | some _, some _ => none
    | some sort, none => sort.asTextOrNull?
    | none, _ => text "sorting" record
  return {
    fields := ← map "fields" record
    filters := ← map "filters" record
    limit := ← map "limit" record
    sorting := sortKeys
    page := ← text "page" record
    perPage := ← text "per_page" record }

/-- Every field is written, an absent text as null. -/
def toValue (params : RawParams) : Value :=
  .record [("fields", .ofMap RawValue.toValue params.fields),
    ("filters", .ofMap RawValue.toValue params.filters),
    ("limit", .ofMap RawValue.toValue params.limit),
    ("sorting", .ofText? params.sorting),
    ("page", .ofText? params.page),
    ("per_page", .ofText? params.perPage)]

end RawParams

end Retrieval
