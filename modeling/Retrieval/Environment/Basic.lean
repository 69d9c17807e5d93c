import Retrieval.OrderedMap
import Retrieval.Text.Split

/-!
# Environments

An environment gives values to variables. Project files refer to it, and a file of assignments may
add to it.

It is a list of entries `NAME=VALUE`, and a name is looked up by the entry that begins with it and
an equals sign. So a name with an equals sign in it may reach into the value of an entry.
-/

namespace Retrieval

/-- Variables with their values. -/
structure Environment where
  values : OrderedMap String
deriving DecidableEq

namespace Environment

/-- The environment without variables. -/
def empty : Environment := ⟨.empty⟩

instance : EmptyCollection Environment := ⟨empty⟩

instance : Inhabited Environment := ⟨empty⟩

/-- The environment of a list of variables and values, a later value over an earlier one. -/
def ofList (values : List (String × String)) : Environment := ⟨.ofList values⟩

/-- What stands behind a name and an equals sign in an entry. -/
def value? (env : Environment) (name : String) : Option String :=
  match Text.cut '=' name.toList with
  | (_, none) => env.values.find? name
  | (own, some front) => do
    let value ← env.values.find? (String.ofList own)
    return String.ofList (← Text.after? (front ++ ['=']) value.toList)

/-- The environment with a value for a variable that has none. -/
def define (env : Environment) (name value : String) : Environment :=
  if (env.value? name).isSome then env else ⟨env.values.insert name value⟩

end Environment

end Retrieval
