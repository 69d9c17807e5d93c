import Retrieval.Text.Alphanumeric
import Retrieval.Text.Case
import Retrieval.Text.Split

/-!
# Naming conventions

A key such as `tags` names the resource type `Tag` beside the main type: the key is taken in lower
case and in the singular, its words are capitalised and joined, and the namespace of the main type
is put in front.

Words are joined in upper camel case. In general a word of it also ends where a capital follows a
small letter, or where a row of capitals does; keys are taken in lower case first, so that here only
what is not alphanumeric is between words.
-/

namespace Retrieval.Naming

open Text

/-- The endings of plurals that lose two letters. -/
def longEndings : List String := ["sses", "shes", "ches", "xes", "zes"]

/-- The singular of a word, by its ending: `ies` becomes `y` behind a stem, a long ending loses
`es`, a double `s` stays, and a single `s` behind a stem is dropped. -/
def singular (word : List Char) : List Char :=
  match before? "ies".toList word with
  | some (c :: stem) => c :: stem ++ ['y']
  | _ =>
    if longEndings.any fun ending => (before? ending.toList word).isSome then
      word.take (word.length - 2)
    else if (before? "ss".toList word).isSome then word
    else match before? "s".toList word with
      | some (c :: stem) => c :: stem
      | _ => word

/-- The singular of a word. -/
def singularize (word : String) : String := String.ofList (singular word.toList)

/-- The words of a text in lower case: its longest runs of alphanumeric characters. In another text
a change of case would end a word as well. -/
def words (text : List Char) : List (List Char) :=
  (text.splitBy fun a b => isAlphanumeric a == isAlphanumeric b).filter fun run =>
    run.any isAlphanumeric

/-- A word with its first character in upper case. -/
def capitalize : List Char → List Char
  | [] => []
  | c :: rest => upperChar c ++ rest

/-- The upper camel case of a text in lower case: its words, capitalised and joined. -/
def camel (text : List Char) : List Char := (words text).flatMap capitalize

/-- The namespace of a type with its separator, or nothing: all up to the last double colon. -/
def namespaceOf (type : List Char) : List Char :=
  let rec go : List Char → List Char
    | ':' :: ':' :: rest => ':' :: ':' :: rest
    | _ :: rest => go rest
    | [] => []
  (go type.reverse).reverse

/-- The type that a key names by convention beside a main type. -/
def siblingType (mainType key : String) : String :=
  String.ofList (namespaceOf mainType.toList ++ camel (singular (lower key.toList)))

end Retrieval.Naming
