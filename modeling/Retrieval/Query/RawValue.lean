import Retrieval.Value.Basic

/-!
# Raw values

Under one key a client sends one text or several. The difference is kept, so that what was read is
written back unchanged.
-/

namespace Retrieval

/-- The texts sent for one key. -/
inductive RawValue where
  | one (text : String)
  | many (texts : List String)
deriving DecidableEq, Inhabited

namespace RawValue

/-- The texts, in the order in which they were sent. -/
def texts : RawValue → List String
  | one text => [text]
  | many texts => texts

/-- Whether every text is empty. -/
def isBlank (value : RawValue) : Bool := value.texts.all (·.isEmpty)

/-- The value with one more text. -/
def push (value : RawValue) (text : String) : RawValue := many (value.texts ++ [text])

/-- Reads a text or a list of texts. -/
def ofValue? : Value → Option RawValue
  | .text s => some (one s)
  | value => (value.asList? Value.asText?).map many

/-- A single text is written as a text, several as a list. -/
def toValue : RawValue → Value
  | one text => .text text
  | many texts => .ofTexts texts

end RawValue

end Retrieval
