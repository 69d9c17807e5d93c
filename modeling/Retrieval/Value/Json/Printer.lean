import Retrieval.Value.Basic

/-!
# Printing JSON text

Values are printed with every item of a list and every field of a record on a line of its own, two
spaces further in than the container; an empty container has no line of its own. In texts, quotes,
backslashes and control characters are escaped, and nothing else.

A number in double precision is printed as the shortest decimal that stands for it, and always with
a point or an exponent. What is neither finite nor whole has no numeral in JSON.
-/

namespace Retrieval.Json

/-- A control character as an escape: by its letter if it has one, or else by its number. -/
def escapeControl (c : Char) : List Char :=
  if c = '\x08' then ['\\', 'b']
  else if c = '\t' then ['\\', 't']
  else if c = '\n' then ['\\', 'n']
  else if c = '\x0c' then ['\\', 'f']
  else if c = '\r' then ['\\', 'r']
  else ['\\', 'u', '0', '0', Nat.digitChar (c.toNat / 16), Nat.digitChar (c.toNat % 16)]

/-- A character as it is written within quotes. -/
def escapeChar (c : Char) : List Char :=
  if c = '"' then ['\\', '"']
  else if c = '\\' then ['\\', '\\']
  else if c < ' ' then escapeControl c
  else [c]

/-- A text in quotes. -/
def quote (s : String) : String := s!"\"{String.ofList (s.toList.flatMap escapeChar)}\""

/-- The beginning of a line of a given depth. -/
def newLine (depth : Nat) : String := String.ofList ('\n' :: List.replicate (2 * depth) ' ')

/-- A container of printed parts, given the depth at which it stands. -/
def container (opening closing : String) (depth : Nat) (parts : List String) : String :=
  if parts.isEmpty then opening ++ closing
  else opening ++ newLine (depth + 1) ++ String.intercalate ("," ++ newLine (depth + 1)) parts
    ++ newLine depth ++ closing

/-! ## Numbers -/

/-- The text of a decimal: its digits and the power of ten of the last one. It has an exponent if
its first digit would be more than five places behind the point or more than sixteen before it. -/
def decimal (digits : List Char) (power : Int) : String :=
  let zeros := fun (n : Int) => List.replicate n.toNat '0'
  let whole := digits.length + power
  String.ofList <|
    if 0 ≤ power ∧ whole ≤ 16 then digits ++ zeros power ++ ['.', '0']
    else if 0 < whole ∧ whole ≤ 16 then digits.take whole.toNat ++ '.' :: digits.drop whole.toNat
    else if -5 < whole ∧ whole ≤ 0 then '0' :: '.' :: zeros (-whole) ++ digits
    else
      let fraction := if digits.length = 1 then [] else '.' :: digits.drop 1
      let sign := if 0 < whole then '+' else '-'
      digits.take 1 ++ fraction ++ 'e' :: sign :: (toString (whole - 1).natAbs).toList

/-- The text of a magnitude. -/
def magnitude (m : Magnitude) : String :=
  if m = .zero then "0.0"
  else
    let (digits, power) := m.shortest
    decimal (toString digits).toList power

/-- The text of a number in double precision. -/
def number : Double → String
  | .finite negative m => if negative then "-" ++ magnitude m else magnitude m
  | .infinite _ | .nan => "null"

/-! ## Values -/

mutual

/-- The text of a value that stands at a given depth. -/
def print (depth : Nat) : Value → String
  | .null => "null"
  | .bool b => if b then "true" else "false"
  | .int n => toString n
  | .real n => number n
  | .unreadable written => written
  | .moment written => quote written
  | .text s => quote s
  | .list items => container "[" "]" depth (printItems depth items)
  | .record fields => container "\x7b" "\x7d" depth (printFields depth fields)

/-- The texts of the items of a list. -/
def printItems (depth : Nat) : List Value → List String
  | [] => []
  | item :: items => print (depth + 1) item :: printItems depth items

/-- The texts of the fields of a record. -/
def printFields (depth : Nat) : List (String × Value) → List String
  | [] => []
  | field :: fields => printField depth field :: printFields depth fields

/-- The text of a field. -/
def printField (depth : Nat) : String × Value → String
  | (name, value) => quote name ++ ": " ++ print (depth + 1) value

end

end Retrieval.Json

/-- The JSON text of a value. -/
def Retrieval.Value.toJson (value : Retrieval.Value) : String := Json.print 0 value
