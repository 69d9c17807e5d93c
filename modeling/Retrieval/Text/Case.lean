import Retrieval.Text.CaseTable

/-!
# Letter case

Lower case is taken character by character, with one exception: a capital sigma becomes a final
sigma where it ends a word, that is, where a cased character comes before it and none behind it, the
ignorable characters in between left aside.
-/

namespace Retrieval.Text

/-- The lower case of one character by itself. -/
def lowerChar (c : Char) : List Char :=
  if c = '\u0130' then ['i', '\u0307'] else [(CaseRun.image? lowerRuns c).getD c]

/-- The upper case of one character. -/
def upperChar (c : Char) : List Char :=
  match upperExpansions.lookup c.toNat with
  | some points => points.map Char.ofNat
  | none => [(CaseRun.image? upperRuns c).getD c]

/-- Whether the first character that is not ignorable is cased. -/
def meetsCased (text : List Char) : Bool :=
  ((text.dropWhile isCaseIgnorable).head?.map isCased).getD false

/-- The lower case of a text, given the characters before it, nearest first. -/
def lowerAfter (before : List Char) : List Char → List Char
  | [] => []
  | c :: rest =>
    (if c = '\u03A3' then
      [if meetsCased before && !meetsCased rest then '\u03C2' else '\u03C3']
    else lowerChar c) ++ lowerAfter (c :: before) rest

/-- The lower case of a text. -/
def lower (text : List Char) : List Char := lowerAfter [] text

end Retrieval.Text
