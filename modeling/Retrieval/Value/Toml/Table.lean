import Retrieval.Value.Basic

/-!
# Tables of TOML text

Tables are made in three ways: on the way to another table by a header, on the way to a key by dots,
and by a header of their own. A table is opened by a header once, keys joined by dots do not reach
into a table that a header made, and no key is given twice. An array of tables grows by one table
with every header.
-/

namespace Retrieval.Toml

/-- How a table was made. -/
inductive Making where
  /-- On the way to the table of a header. -/
  | implied
  /-- On the way to a key behind dots. -/
  | dotted
  | opened
deriving DecidableEq

/-- What stands under a key. -/
inductive Node where
  | value (value : Value)
  | table (making : Making) (fields : List (String × Node))
  /-- An array of tables, last table first. -/
  | tables (elements : List (List (String × Node)))

/-- The content of a table. -/
abbrev Fields := List (String × Node)

/-- The fields with another node under a key, or with a key more. -/
def put (key : String) (node : Node) : Fields → Fields
  | [] => [(key, node)]
  | field :: rest => if field.1 = key then (key, node) :: rest else field :: put key node rest

/-- Changes the table at the end of a path; tables on the way that are missing are made. -/
def update? (making : Making) (change? : Making → Fields → Option Fields) :
    List String → Making → Fields → Option Fields
  | [], own, fields => change? own fields
  | key :: path, _, fields =>
    match fields.lookup key with
    | none => do
      return put key (.table making (← update? making change? path making [])) fields
    | some (.table own inner) => do
      if making = .dotted ∧ own = .opened then none
      else return put key (.table own (← update? making change? path own inner)) fields
    | some (.tables (last :: others)) => do
      return put key (.tables ((← update? making change? path .opened last) :: others)) fields
    | some _ => none

/-- Gives a key a value; the table of a key behind dots has to be made by dots, too. -/
def assign? (path : List String) (value : Value) (fields : Fields) : Option Fields := do
  let key ← path.getLast?
  let outer := path.dropLast
  update? .dotted (fun own fields =>
    if (own = .dotted ↔ outer = []) ∨ (fields.lookup key).isSome then none
    else some (put key (.value value) fields)) outer .opened fields

/-- Opens the table of a header. -/
def openTable? (path : List String) (fields : Fields) : Option Fields := do
  let key ← path.getLast?
  update? .implied (fun _ fields =>
    match fields.lookup key with
    | none => some (put key (.table .opened []) fields)
    | some (.table .implied inner) => some (put key (.table .opened inner) fields)
    | some _ => none) path.dropLast .opened fields

/-- Adds a table to the array of a header. -/
def addTable? (path : List String) (fields : Fields) : Option Fields := do
  let key ← path.getLast?
  update? .implied (fun _ fields =>
    match fields.lookup key with
    | none => some (put key (.tables [[]]) fields)
    | some (.tables elements) => some (put key (.tables ([] :: elements)) fields)
    | some _ => none) path.dropLast .opened fields

mutual

/-- The value of a node. -/
def Node.toValue : Node → Value
  | .value value => value
  | .table _ fields => .record (recordOf fields)
  | .tables elements => .list (recordsOf elements).reverse

/-- The fields of a table as fields of a record. -/
def recordOf : List (String × Node) → List (String × Value)
  | [] => []
  | (key, node) :: rest => (key, node.toValue) :: recordOf rest

/-- The tables of an array as records. -/
def recordsOf : List (List (String × Node)) → List Value
  | [] => []
  | fields :: rest => .record (recordOf fields) :: recordsOf rest

end

/-- The value of a table that is written on the spot. -/
def inlineTable? (entries : List (List String × Value)) : Option Value := do
  let fields ← entries.foldlM (fun fields entry => assign? entry.1 entry.2 fields) []
  return .record (recordOf fields)

end Retrieval.Toml
