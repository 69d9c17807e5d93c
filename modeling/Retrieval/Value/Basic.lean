import Retrieval.OrderedMap
import Retrieval.Value.Double

/-!
# Structured values

Requests, resource descriptions and result rows come as structured text of two notations, JSON and
TOML. Both are read into a `Value`, and the types of this library are read from values and written
to them.

## Records

A record is given by name or, as a list, by position in the declared order of its fields. A moment
counts as a record without a known field. What the notations do differently is a `Form`.

What is written like a number may have no value. It is harmless where nothing reads it, behind the
last declared field of a record given by position, and it makes anything else unreadable.
-/

namespace Retrieval

/-- A structured value. -/
inductive Value where
  | null
  | bool (b : Bool)
  | int (n : Int)
  /-- A number in double precision: with a fraction or an exponent, or out of range. -/
  | real (number : Double)
  /-- What is written like a number and has no value. -/
  | unreadable (written : String)
  /-- A date or time of day, kept as it is written. -/
  | moment (written : String)
  | text (s : String)
  | list (items : List Value)
  | record (fields : List (String × Value))
deriving Inhabited

namespace Value

/-! ## Properties of everything in a value -/

mutual

/-- Whether all that is neither a list nor a record has a property, however deep in a value. -/
def allLeaves (p : Value → Bool) : Value → Bool
  | list items => allInItems p items
  | record fields => allInFields p fields
  | leaf => p leaf

/-- Whether all leaves of the items of a list have a property. -/
def allInItems (p : Value → Bool) : List Value → Bool
  | [] => true
  | item :: rest => item.allLeaves p && allInItems p rest

/-- Whether all leaves of the fields of a record have a property. -/
def allInFields (p : Value → Bool) : List (String × Value) → Bool
  | [] => true
  | (_, value) :: rest => value.allLeaves p && allInFields p rest

end

/-- Whether everything in a value has a value. -/
def isReadable (value : Value) : Bool :=
  value.allLeaves fun
    | unreadable _ => false
    | _ => true

/-- Whether a value is readable and every whole number in it fits into 64 bits, with or without a
sign. -/
def isBounded (value : Value) : Bool :=
  value.allLeaves fun
    | int n => -0x8000000000000000 ≤ n && n < UInt64.size
    | unreadable _ => false
    | _ => true

/-! ## Reading records -/

/-- What a notation decides about the reading of types. -/
structure Form where
  /-- Whether a record given by position may be longer than its declaration. -/
  spareItems : Bool
  /-- Whether a kind may be given by its number. -/
  numberedKinds : Bool
deriving DecidableEq

/-- The decisions of JSON. -/
def Form.json : Form := ⟨false, true⟩

/-- The decisions of TOML. -/
def Form.toml : Form := ⟨true, false⟩

/-- A text. -/
def asText? : Value → Option String
  | text s => some s
  | _ => none

/-- A truth value. -/
def asBool? : Value → Option Bool
  | bool b => some b
  | _ => none

/-- A 64-bit count. -/
def asCount? : Value → Option UInt64
  | int n => if 0 ≤ n ∧ n < UInt64.size then some (UInt64.ofNat n.toNat) else none
  | _ => none

/-- A text or the absent value. -/
def asTextOrNull? : Value → Option (Option String)
  | null => some none
  | text s => some (some s)
  | _ => none

/-- A list whose items are all of one type. -/
def asList? {α : Type} (item? : Value → Option α) : Value → Option (List α)
  | list items => items.mapM item?
  | _ => none

/-- A map whose values are all of one type. -/
def asMap? {α : Type} (value? : Value → Option α) : Value → Option (OrderedMap α)
  | record fields => do
    return .ofList (← fields.mapM fun field => return (field.1, ← value? field.2))
  | _ => none

/-- The fields of a record with the given declaration. Those that are not declared are passed over,
but have to be readable. -/
def fields? (form : Form) (names : List String) : Value → Option (List (String × Value))
  | record fields =>
    if fields.all fun field => names.contains field.1 || field.2.isReadable then some fields
    else none
  | list items =>
    if form.spareItems || items.length ≤ names.length then some (names.zip items) else none
  | moment _ => some []
  | _ => none

/-- A field that has to be there. -/
def required? {α : Type} (read? : Value → Option α) (name : String)
    (fields : List (String × Value)) : Option α := do
  read? (← fields.lookup name)

/-- A field that stands for a default when it is missing. -/
def optional? {α : Type} (default : α) (read? : Value → Option α) (name : String)
    (fields : List (String × Value)) : Option α :=
  match fields.lookup name with
  | none => some default
  | some value => read? value

/-! ## Writing records -/

/-- The value of a 64-bit count. -/
def ofCount (n : UInt64) : Value := int n.toNat

/-- The value of a text that may be absent. -/
def ofText? : Option String → Value
  | none => null
  | some s => text s

/-- The value of a list of texts. -/
def ofTexts (texts : List String) : Value := list (texts.map text)

/-- The value of a map. -/
def ofMap {α : Type} (write : α → Value) (m : OrderedMap α) : Value :=
  record (m.entries.map fun entry => (entry.1, write entry.2))

/-- A field of a record that is written only if there is something to write. -/
def fieldOf? {α : Type} (name : String) (write : α → Value) :
    Option α → List (String × Value)
  | none => []
  | some a => [(name, write a)]

end Value

end Retrieval
