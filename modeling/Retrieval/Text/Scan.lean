/-!
# Scanning

A scanner reads a piece at the beginning of a text. Its result holds what is left of the text
together with the fact that it is shorter, so a scanner that calls another one on the rest ends.
-/

namespace Retrieval.Text

/-- What is read at the beginning of a text, and the rest of the text. -/
structure Scan (α : Type) (text : List Char) where
  value : α
  rest : List Char
  shorter : rest.length < text.length

namespace Scan

variable {α β : Type} {text : List Char} {c : Char}

/-- The reading of the first character. -/
def first (value : α) : Scan α (c :: text) := ⟨value, text, by simp⟩

/-- A scan of what follows the first character as a scan of the whole text. -/
def inner (scan : Scan α text) : Scan α (c :: text) :=
  ⟨scan.value, scan.rest, Nat.lt_succ_of_lt scan.shorter⟩

/-- The scan with another reading of the same piece. -/
def map (f : α → β) (scan : Scan α text) : Scan β text := ⟨f scan.value, scan.rest, scan.shorter⟩

/-- A scan of the end of a text as a scan of the whole text. -/
def within {whole : List Char} (scan : Scan α text) (h : text.length ≤ whole.length) :
    Scan α whole := ⟨scan.value, scan.rest, Nat.lt_of_lt_of_le scan.shorter h⟩

/-- A scan of what another scan left as a scan of the whole text. -/
def behind (first : Scan β text) (second : Scan α first.rest) : Scan α text :=
  second.within (Nat.le_of_lt first.shorter)

end Scan

/-- Reads one character that has a property. -/
def scanChar? (p : Char → Bool) : (text : List Char) → Option (Scan Char text)
  | [] => none
  | c :: _ => if p c then some (.first c) else none

/-- Reads the longest run, not empty, of characters that have a property. -/
def scanRun? (p : Char → Bool) : (text : List Char) → Option (Scan (List Char) text)
  | [] => none
  | c :: rest =>
    if p c then some ⟨c :: rest.takeWhile p, rest.dropWhile p, by
      have := (List.dropWhile_suffix p (l := rest)).length_le
      simp only [List.length_cons]
      omega⟩
    else none

end Retrieval.Text
