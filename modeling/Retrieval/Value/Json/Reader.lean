import Retrieval.Value.Json.Token

/-!
# Reading JSON text

The texts that are read are those of the JSON standard, with nothing but blanks around the value: no
comments, no trailing commas, no other spellings of numbers. Where the standard leaves a choice, it
is made like this. Containers may be nested up to a fixed depth. A name that occurs twice in an
object has the value of its last occurrence, and fields are kept in the order of their names.
Numbers are whole and of 64 bits, or in double precision, or too large to be read. An escape that
spells half a surrogate pair is no character, and the text is not read.

The tokens are read one by one by a machine. Its state is what may come next, and the containers
that are open: for each of them what stands in it so far. A text is read when one value is complete
and no container is open.
-/

namespace Retrieval.Json

/-- A container that is open at a value. -/
inductive Frame where
  /-- A list, with its items so far, last first. -/
  | list (items : List Value)
  /-- A record, with its fields so far, last first, and the name of the value. -/
  | record (fields : List (String × Value)) (name : String)

/-- What may come next. -/
inductive Mode where
  | value
  | item
  /-- A name in a record, or the end of the record if there is no field yet. -/
  | name (fields : List (String × Value))
  | colon (fields : List (String × Value)) (name : String)
  /-- A comma or the end of a container, or the end of the text. -/
  | complete (value : Value)

/-- What may come next, and the open containers, innermost first. -/
structure State where
  mode : Mode
  frames : List Frame

/-- The number of containers that may be open at once. -/
def maxDepth : Nat := 127

/-- A record of fields, last first. -/
def closeRecord (fields : List (String × Value)) : Value :=
  .record (OrderedMap.ofList fields.reverse).entries

/-- The state after a token where a value may come. -/
def startValue? (frames : List Frame) : Token → Option State
  | .text s => some ⟨.complete (.text s), frames⟩
  | .plain value => some ⟨.complete value, frames⟩
  | .mark c =>
    if frames.length < maxDepth then
      if c = '[' then some ⟨.item, .list [] :: frames⟩
      else if c = '\x7b' then some ⟨.name [], frames⟩
      else none
    else none

/-- The state after a mark where a value is complete. -/
def endValue? (value : Value) : List Frame → Char → Option State
  | .list items :: frames, c =>
    if c = ',' then some ⟨.value, .list (value :: items) :: frames⟩
    else if c = ']' then some ⟨.complete (.list (value :: items).reverse), frames⟩
    else none
  | .record fields name :: frames, c =>
    if c = ',' then some ⟨.name ((name, value) :: fields), frames⟩
    else if c = '\x7d' then some ⟨.complete (closeRecord ((name, value) :: fields)), frames⟩
    else none
  | [], _ => none

/-- The state after a token. -/
def State.next? (state : State) (token : Token) : Option State :=
  match state.mode, state.frames, token with
  | .value, frames, token => startValue? frames token
  | .item, .list _ :: frames, .mark ']' => some ⟨.complete (.list []), frames⟩
  | .item, frames, token => startValue? frames token
  | .name fields, frames, .text s => some ⟨.colon fields s, frames⟩
  | .name [], frames, .mark '\x7d' => some ⟨.complete (.record []), frames⟩
  | .colon fields name, frames, .mark ':' => some ⟨.value, .record fields name :: frames⟩
  | .complete value, frames, .mark c => endValue? value frames c
  | _, _, _ => none

/-- The value of a state in which a text may end. -/
def State.result? : State → Option Value
  | ⟨.complete value, []⟩ => some value
  | _ => none

end Retrieval.Json

/-- The value that JSON text writes. -/
def Retrieval.Value.ofJson? (text : String) : Option Retrieval.Value := do
  let state ← (← Json.tokens? text.toList).foldlM Json.State.next? ⟨.value, []⟩
  state.result?
