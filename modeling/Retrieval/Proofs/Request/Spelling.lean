import Mathlib.Data.List.TakeWhile
import Retrieval.Proofs.Request.Filter
import Retrieval.Proofs.Text.Bytes

/-!
# How filters are spelled

What makes a text a filter, told without a reader (`Filter.Spelling`): the text falls into a field,
the token of an operator and a literal, with at most one space on either side of the token. The
field is the longest run of its characters, and the operator has the longest token that begins what
follows. Reading takes the first operator in the order of `Filter.Op.all`, which is the longest one
because no token in that list begins a later one (`Filter.operator?_eq_some_iff`).

A filter that is written with spaces around its token is read back, since no token goes on with a
space behind a shorter one (`Filter.Op.longest_of_ends`).

The reader may also count bytes, as a text is kept (`Filter.ofBytes?`). Every cut that it makes is
between two characters, and it reads the same filters (`Filter.ofBytes?_eq`).
-/

namespace Retrieval

open Text.Utf8 (encode)

namespace Text

/-- Whether two texts are alike up to the case of ASCII letters. -/
def AnyCase (text other : List Char) : Prop := text.map Char.toLower = other.map Char.toLower

/-- Whether a text is the longest beginning of another one with characters of one kind only. -/
structure LongestRun (p : Char → Bool) (run text : List Char) : Prop where
  begins : run <+: text
  every : ∀ c ∈ run, p c
  longest : ∀ other, other <+: text → (∀ c ∈ other, p c) → other.length ≤ run.length

/-- The space that a text begins with, if it begins with one. -/
def space (text : List Char) : List Char := if text.head? = some ' ' then [' '] else []

/-- Taking as long as possible gives a longest run. -/
theorem longestRun_takeWhile (p : Char → Bool) (text : List Char) :
    LongestRun p (text.takeWhile p) text := by
  refine ⟨List.takeWhile_prefix p, fun c mem => List.mem_takeWhile_imp mem, ?_⟩
  rintro other ⟨rest, rfl⟩ every
  rw [List.takeWhile_append_of_pos every]
  simp

/-- There is one longest run. -/
theorem LongestRun.eq_takeWhile {p : Char → Bool} {run text : List Char}
    (h : LongestRun p run text) : run = text.takeWhile p := by
  have other := longestRun_takeWhile p text
  have within : run <+: text.takeWhile p :=
    List.prefix_of_prefix_length_le h.begins other.begins (other.longest run h.begins h.every)
  exact within.eq_of_length_le (h.longest _ other.begins other.every)

/-- A run ends where a character of another kind follows. -/
theorem longestRun_append {p : Char → Bool} {run rest : List Char} (every : ∀ c ∈ run, p c)
    (ends : ∀ c ∈ rest.head?, p c = false) : LongestRun p run (run ++ rest) := by
  have same : (run ++ rest).takeWhile p = run := by
    rw [List.takeWhile_append_of_pos every]
    cases rest with
    | nil => simp
    | cons c rest => simp [ends c rfl]
  have longest := longestRun_takeWhile p (run ++ rest)
  rwa [same] at longest

/-- A text is its space and what stands behind it. -/
theorem space_append_dropOne (text : List Char) : space text ++ dropOne ' ' text = text := by
  cases text with
  | nil => rfl
  | cons c rest => by_cases blank : c = ' ' <;> simp [space, dropOne, blank]

/-- Behind its space a text goes on. -/
theorem dropOne_of_space {gap rest : List Char} (h : gap = space (gap ++ rest)) :
    dropOne ' ' (gap ++ rest) = rest := by
  have whole := space_append_dropOne (gap ++ rest)
  rw [← h] at whole
  exact List.append_cancel_left whole

/-- A beginning may be written in any case. -/
theorem afterAnyCase?_eq_some_iff {beginning text rest : List Char} :
    afterAnyCase? beginning text = some rest ↔
      ∃ head, AnyCase head beginning ∧ text = head ++ rest := by
  induction beginning generalizing text with
  | nil => simp [afterAnyCase?, AnyCase, eq_comm]
  | cons b beginning ih =>
    constructor
    · intro h
      cases text with
      | nil => cases h
      | cons c text =>
        rw [afterAnyCase?] at h
        split at h
        case isTrue letter =>
          obtain ⟨head, same, rfl⟩ := ih.1 h
          exact ⟨c :: head, congrArg₂ List.cons letter.symm same, rfl⟩
        case isFalse => cases h
    · rintro ⟨head, same, rfl⟩
      cases head with
      | nil => cases same
      | cons c head =>
        obtain ⟨letter, later⟩ := List.cons.inj same
        rw [List.cons_append, afterAnyCase?, if_pos letter.symm]
        exact ih.2 ⟨head, later, rfl⟩

/-- The bytes of a text begin another one, up to the case of letters, where its characters do; and
then the cut behind them is between two characters. -/
theorem afterAnyCase?_eq_some_iff_bytes {beginning text rest : List Char} :
    afterAnyCase? beginning text = some rest ↔
      ∃ head, splitBytes? (encode beginning).length text = some (head, rest) ∧
        (encode head).map lowerByte = (encode beginning).map lowerByte := by
  simp only [afterAnyCase?_eq_some_iff, splitBytes?_eq_some_iff,
    map_lowerByte_encode_inj]
  constructor
  · rintro ⟨head, same, rfl⟩
    have bytes := congrArg List.length (map_lowerByte_encode_inj.2 same)
    rw [List.length_map, List.length_map] at bytes
    exact ⟨head, ⟨rfl, bytes⟩, same⟩
  · rintro ⟨head, ⟨rfl, -⟩, same⟩
    exact ⟨head, same, rfl⟩

end Text

namespace Filter

namespace Op

/-- Whether the token of an operator begins a text, up to the case of letters. -/
def Begins (op : Op) (text : List Char) : Prop :=
  ∃ head, Text.AnyCase head op.token.toList ∧ head <+: text

/-- Whether no operator that begins a text has a longer token. -/
def Longest (op : Op) (text : List Char) : Prop :=
  ∀ other : Op, other.Begins text → other.token.length ≤ op.token.length

/-- What the literal behind an operator says: it is the value of a comparison, and there is none
behind a question about null. -/
def Takes (op : Op) (literal : List Char) (value : Option String) : Prop :=
  if op.takesValue then literal ≠ [] ∧ value = some (String.ofList literal)
  else literal = [] ∧ value = none

end Op

/-- How a text spells a filter. -/
structure Spelling (text : List Char) (filter : Filter) where
  before : List Char
  token : List Char
  behind : List Char
  literal : List Char
  whole : text = filter.field.toList ++ (before ++ (token ++ (behind ++ literal)))
  starts : ∃ c ∈ filter.field.toList.head?, isFieldStart c
  run : Text.LongestRun isFieldChar filter.field.toList text
  /-- One space is passed over behind the field. -/
  before_eq : before = Text.space (before ++ (token ++ (behind ++ literal)))
  anyCase : Text.AnyCase token filter.op.token.toList
  /-- No operator with a longer token is there. -/
  longest : filter.op.Longest (token ++ (behind ++ literal))
  behind_eq : behind = Text.space (behind ++ literal)
  takes : filter.op.Takes literal filter.value

namespace Op

/-! ## The operator -/

/-- Every operator is tried. -/
theorem mem_all (op : Op) : op ∈ all := by
  cases op <;> decide

/-- Operators are read by their tokens. -/
theorem ofToken?_token (op : Op) : ofToken? op.token = some op := by
  cases op <;> decide

/-- Tokens have no capitals. -/
theorem map_toLower_token (op : Op) : op.token.toList.map Char.toLower = op.token.toList := by
  cases op <;> decide

/-- A text begins with an operator if it does so in lower case. -/
theorem begins_iff {op : Op} {text : List Char} :
    op.Begins text ↔ op.token.toList <+: text.map Char.toLower := by
  constructor
  · rintro ⟨head, same, rest, rfl⟩
    rw [List.map_append, same, op.map_toLower_token]
    exact List.prefix_append _ _
  · rintro ⟨rest, eq⟩
    obtain ⟨head, tail, rfl, same, -⟩ := List.map_eq_append_iff.1 eq.symm
    exact ⟨head, same.trans op.map_toLower_token.symm, List.prefix_append _ _⟩

/-- An operator that begins a text is read off it. -/
theorem begins_iff_afterAnyCase? {op : Op} {text : List Char} :
    op.Begins text ↔ ∃ rest, Text.afterAnyCase? op.token.toList text = some rest := by
  simp only [Text.afterAnyCase?_eq_some_iff]
  constructor
  · rintro ⟨head, same, rest, rfl⟩
    exact ⟨rest, head, same, rfl⟩
  · rintro ⟨rest, head, same, rfl⟩
    exact ⟨head, same, List.prefix_append _ _⟩

/-- Operators that begin one text have tokens of which one begins the other. -/
theorem Begins.prefix_or {op other : Op} {text : List Char} (h : op.Begins text)
    (h' : other.Begins text) :
    op.token.toList <+: other.token.toList ∨ other.token.toList <+: op.token.toList :=
  List.prefix_or_prefix_of_prefix (begins_iff.1 h) (begins_iff.1 h')

/-- There is one longest operator at the beginning of a text. -/
theorem Longest.unique {op other : Op} {text : List Char} (h : op.Begins text)
    (longest : op.Longest text) (h' : other.Begins text) (longest' : other.Longest text) :
    op = other := by
  have length : op.token.toList.length = other.token.toList.length := by
    rw [String.length_toList, String.length_toList]
    exact Nat.le_antisymm (longest' op h) (longest other h')
  have same : op.token = other.token := by
    rw [← String.toList_inj]
    rcases h.prefix_or h' with within | within
    · exact within.eq_of_length length
    · exact (within.eq_of_length length.symm).symm
  rw [← Option.some_inj, ← ofToken?_token, same, ofToken?_token]

end Op

/-- No token begins the token of a later operator. -/
theorem pairwise_all :
    Op.all.Pairwise fun op later => ¬ op.token.toList <+: later.token.toList := by
  decide

/-- The operator that is read is the longest. -/
theorem longest_of_operator? {text rest : List Char} {op : Op}
    (h : operator? text = some (op, rest)) :
    Text.afterAnyCase? op.token.toList text = some rest ∧ op.Longest text := by
  obtain ⟨earlier, found, later, split, reads, none⟩ := List.findSome?_eq_some_iff.1 h
  obtain ⟨rest', after, same⟩ := Option.map_eq_some_iff.1 reads
  obtain ⟨rfl, rfl⟩ := Prod.mk.inj same
  refine ⟨after, fun other begins => ?_⟩
  have mem : other ∈ earlier ++ found :: later := split ▸ other.mem_all
  rcases List.mem_append.1 mem with before | before
  · -- an earlier operator would have been found
    obtain ⟨tail, tried⟩ := Op.begins_iff_afterAnyCase?.1 begins
    have refused := none other before
    rw [tried] at refused
    cases refused
  · rcases List.mem_cons.1 before with rfl | behind
    · exact Nat.le_refl _
    · -- a later operator has a token that begins the token found
      have pairs := pairwise_all
      rw [split, List.pairwise_append, List.pairwise_cons] at pairs
      have apart : ¬ found.token.toList <+: other.token.toList := pairs.2.1.1 other behind
      have begins' : found.Begins text := Op.begins_iff_afterAnyCase?.2 ⟨_, after⟩
      have within := (begins'.prefix_or begins).resolve_left apart
      simpa only [String.length_toList] using within.length_le

/-- The operator that is read is the longest that begins the text. -/
theorem operator?_eq_some_iff {text rest : List Char} {op : Op} :
    operator? text = some (op, rest) ↔
      Text.afterAnyCase? op.token.toList text = some rest ∧ op.Longest text := by
  refine ⟨longest_of_operator?, ?_⟩
  rintro ⟨after, longest⟩
  have begins : op.Begins text := Op.begins_iff_afterAnyCase?.2 ⟨rest, after⟩
  cases found : operator? text with
  | none =>
    have refused := List.findSome?_eq_none_iff.1 found op op.mem_all
    rw [after] at refused
    cases refused
  | some pair =>
    obtain ⟨other, rest'⟩ := pair
    obtain ⟨after', longest'⟩ := longest_of_operator? found
    obtain rfl := longest.unique begins (Op.begins_iff_afterAnyCase?.2 ⟨rest', after'⟩) longest'
    rw [Option.some.inj (after'.symm.trans after)]

/-! ## What is read -/

/-- The filter of a field, an operator and what follows it, if it is what the operator asks for. -/
def conclude? (field : List Char) (op : Op) (literal : List Char) : Option Filter :=
  if literal.isEmpty = op.takesValue then none
  else some ⟨String.ofList field, op, if op.takesValue then some (String.ofList literal) else none⟩

/-- Behind the field stands an operator, and behind that a literal. -/
theorem condition?_eq_some_iff {field text : List Char} {filter : Filter} :
    condition? field text = some filter ↔ ∃ op rest,
      operator? (Text.dropOne ' ' text) = some (op, rest) ∧
        conclude? field op (Text.dropOne ' ' rest) = some filter := by
  simp only [condition?, conclude?, Option.bind_eq_bind, Option.bind_eq_some_iff, Prod.exists]

/-- The operator decides whether a literal is taken. -/
theorem conclude?_eq_some_iff {field literal : List Char} {op : Op} {filter : Filter} :
    conclude? field op literal = some filter ↔
      filter.field = String.ofList field ∧ filter.op = op ∧ op.Takes literal filter.value := by
  obtain ⟨name, operator, value⟩ := filter
  rw [conclude?, Op.Takes]
  cases op.takesValue with
  | true =>
    cases literal with
    | nil => simp
    | cons => simp [eq_comm]
  | false =>
    cases literal with
    | nil => simp [eq_comm]
    | cons => simp

/-- A filter begins with the longest run of characters of a field. -/
theorem ofText?_eq_some_iff {text : List Char} {filter : Filter} :
    ofText? text = some filter ↔ (∃ c ∈ text.head?, isFieldStart c) ∧
      condition? (text.takeWhile isFieldChar) (text.dropWhile isFieldChar) = some filter := by
  cases text with
  | nil => simp [ofText?]
  | cons c rest => by_cases start : isFieldStart c <;> simp [ofText?, start]

/-- A text is read as the filter that it spells. -/
theorem ofText?_eq_some_iff_spelling {text : List Char} {filter : Filter} :
    ofText? text = some filter ↔ Nonempty (Spelling text filter) := by
  rw [ofText?_eq_some_iff]
  constructor
  · rintro ⟨⟨c, first, start⟩, condition⟩
    obtain ⟨op, rest, operated, concluded⟩ := condition?_eq_some_iff.1 condition
    obtain ⟨after, longest⟩ := operator?_eq_some_iff.1 operated
    obtain ⟨token, same, unspaced⟩ := Text.afterAnyCase?_eq_some_iff.1 after
    obtain ⟨named, rfl, takes⟩ := conclude?_eq_some_iff.1 concluded
    have field : filter.field.toList = text.takeWhile isFieldChar := by
      rw [named, String.toList_ofList]
    -- the pieces are put together again from the last to the first
    have behind := Text.space_append_dropOne rest
    have before : Text.space (text.dropWhile isFieldChar) ++
        (token ++ (Text.space rest ++ Text.dropOne ' ' rest)) = text.dropWhile isFieldChar := by
      rw [behind, ← unspaced, Text.space_append_dropOne]
    refine ⟨{ before := _, token := token, behind := _, literal := _, whole := ?_, starts := ?_
              run := ?_, before_eq := (congrArg Text.space before).symm, anyCase := same
              longest := ?_, behind_eq := (congrArg Text.space behind).symm, takes := takes }⟩
    · rw [before, field, List.takeWhile_append_dropWhile]
    · rw [field, List.head?_takeWhile, first]
      exact ⟨c, by simp [isFieldChar_of_isFieldStart start], start⟩
    · rw [field]
      exact Text.longestRun_takeWhile isFieldChar text
    · rw [behind, ← unspaced]
      exact longest
  · rintro ⟨before, token, behind, literal, rfl, starts, run, before_eq, same, longest, behind_eq,
      takes⟩
    have field := run.eq_takeWhile
    have rest := List.takeWhile_append_dropWhile (p := isFieldChar)
      (l := filter.field.toList ++ (before ++ (token ++ (behind ++ literal))))
    rw [← field] at rest
    have condition := List.append_cancel_left rest
    refine ⟨?_, ?_⟩
    · obtain ⟨c, first, start⟩ := starts
      exact ⟨c, by rw [List.head?_append, first]; rfl, start⟩
    · rw [← field, condition, condition?_eq_some_iff]
      refine ⟨filter.op, behind ++ literal, ?_, ?_⟩
      · rw [Text.dropOne_of_space before_eq, operator?_eq_some_iff]
        exact ⟨Text.afterAnyCase?_eq_some_iff.2 ⟨token, same, rfl⟩, longest⟩
      · rw [Text.dropOne_of_space behind_eq, conclude?_eq_some_iff]
        exact ⟨String.ofList_toList.symm, rfl, takes⟩

/-! ## What is written -/

/-- Whether a filter has a field and the literal that its operator asks for. -/
structure Wellformed (filter : Filter) : Prop where
  starts : ∃ c ∈ filter.field.toList.head?, isFieldStart c
  every : ∀ c ∈ filter.field.toList, isFieldChar c
  value : if filter.op.takesValue then ∃ value, filter.value = some value ∧ value ≠ ""
    else filter.value = none

/-- The filter as a text, with one space on either side of a token for its operator. -/
def writtenWith (filter : Filter) (token : String) : String :=
  match filter.value with
  | some value => filter.field ++ " " ++ token ++ " " ++ value
  | none => filter.field ++ " " ++ token

/-- No token goes on with a space behind the token of an operator. -/
theorem Op.not_prefix_of_mem_all : ∀ op ∈ Op.all, ∀ other ∈ Op.all,
    ¬ op.token.toList ++ [' '] <+: other.token.toList := by
  decide

/-- A token is the longest at its place where a space or nothing follows it. -/
theorem Op.longest_of_ends {op : Op} {token rest : List Char}
    (same : Text.AnyCase token op.token.toList) (ends : ∀ c ∈ rest.head?, c = ' ') :
    op.Longest (token ++ rest) := by
  intro other begins
  have within : other.token.toList <+: op.token.toList ++ rest.map Char.toLower := by
    rw [← op.map_toLower_token, ← same, ← List.map_append]
    exact begins_iff.1 begins
  rw [← String.length_toList, ← String.length_toList]
  refine Nat.le_of_not_lt fun longer => ?_
  cases rest with
  | nil =>
    rw [List.map_nil, List.append_nil] at within
    exact Nat.not_lt.2 within.length_le longer
  | cons c rest =>
    -- the longer token would go on with a space
    obtain rfl := ends c rfl
    have spaced : op.token.toList ++ [' '] <+: op.token.toList ++ (' ' :: rest).map Char.toLower :=
      ⟨rest.map Char.toLower, by rw [List.append_assoc]; rfl⟩
    have goesOn := List.prefix_of_prefix_length_le spaced within (by
      rw [List.length_append]
      exact longer)
    exact not_prefix_of_mem_all op op.mem_all other other.mem_all goesOn

/-- A filter that is written out spells itself, in whatever case the operator is. -/
theorem Wellformed.spelling {filter : Filter} (h : filter.Wellformed) {token : String}
    (same : Text.AnyCase token.toList filter.op.token.toList) :
    Nonempty (Spelling (filter.writtenWith token).toList filter) := by
  -- behind the token is nothing or a space
  have spelled {behind literal : List Char}
      (whole : (filter.writtenWith token).toList =
        filter.field.toList ++ ([' '] ++ (token.toList ++ (behind ++ literal))))
      (behind_eq : behind = Text.space (behind ++ literal))
      (ends : ∀ c ∈ (behind ++ literal).head?, c = ' ')
      (takes : filter.op.Takes literal filter.value) :
      Nonempty (Spelling (filter.writtenWith token).toList filter) := by
    refine ⟨{ before := _, token := _, behind, literal, whole, starts := h.starts, run := ?_
              before_eq := rfl, anyCase := same, longest := Op.longest_of_ends same ends
              behind_eq, takes }⟩
    rw [whole]
    exact Text.longestRun_append h.every (by simp; decide)
  have value := h.value
  cases compares : filter.op.takesValue with
  | true =>
    rw [if_pos compares] at value
    obtain ⟨value, eq, nonempty⟩ := value
    refine @spelled [' '] value.toList ?_ rfl ?_ ?_
    · simp [writtenWith, eq]
    · simp
    · rw [Op.Takes, if_pos compares, eq]
      exact ⟨by simpa using nonempty, congrArg some String.ofList_toList.symm⟩
  | false =>
    rw [if_neg (by simp [compares])] at value
    refine @spelled [] [] ?_ rfl ?_ ?_
    · simp [writtenWith, value]
    · simp
    · rw [Op.Takes, if_neg (by simp [compares])]
      exact ⟨rfl, value⟩

/-- Only wellformed filters are read. -/
theorem Spelling.wellformed {text : List Char} {filter : Filter} (spelling : Spelling text filter) :
    filter.Wellformed := by
  refine ⟨spelling.starts, spelling.run.every, ?_⟩
  have takes := spelling.takes
  rw [Op.Takes] at takes
  split
  case isTrue compares =>
    rw [if_pos compares] at takes
    obtain ⟨nonempty, eq⟩ := takes
    exact ⟨_, eq, by simpa using nonempty⟩
  case isFalse asks =>
    rw [if_neg asks] at takes
    exact takes.2

/-! ## Counting bytes -/

/-- Whether the bytes of an operator's token begin a text, up to the case of letters. -/
def Op.heads (op : Op) (text : List Char) : Bool :=
  match Text.splitBytes? (encode op.token.toList).length text with
  | some (head, _) =>
    (encode head).map Text.lowerByte = (encode op.token.toList).map Text.lowerByte
  | none => false

/-- The filter of a field, given what follows the field, which is cut again behind as many bytes as
the token has. None if that cut is inside a character. -/
def conditionBytes? (field text : List Char) : Option (Option Filter) :=
  let condition := Text.dropOne ' ' text
  match Op.all.find? (·.heads condition) with
  | none => some none
  | some op =>
    (Text.splitBytes? (encode op.token.toList).length condition).map fun (_, rest) =>
      conclude? field op (Text.dropOne ' ' rest)

/-- The filter that a text spells, read by its bytes: the text is cut behind as many bytes as the
field has. None if a cut is inside a character. -/
def ofBytes? (text : List Char) : Option (Option Filter) :=
  match encode text with
  | [] => some none
  | first :: _ =>
    if isFieldStart (Char.ofUInt8 first) then
      let run := (encode text).takeWhile fun b => isFieldChar (Char.ofUInt8 b)
      (Text.splitBytes? run.length text).bind fun (field, rest) => conditionBytes? field rest
    else some none

/-- Comparing the bytes of a token comes to comparing its characters. -/
theorem Op.heads_eq (op : Op) (text : List Char) :
    op.heads text = (Text.afterAnyCase? op.token.toList text).isSome := by
  rw [Bool.eq_iff_iff, Option.isSome_iff_exists]
  simp only [Text.afterAnyCase?_eq_some_iff_bytes, Op.heads]
  constructor
  · intro heads
    split at heads
    case h_1 head rest cut => exact ⟨rest, head, cut, of_decide_eq_true heads⟩
    case h_2 => cases heads
  · rintro ⟨rest, head, cut, same⟩
    rw [cut]
    exact decide_eq_true same

/-- The operator is the first whose bytes begin the text. -/
theorem operator?_eq (text : List Char) : operator? text =
    (Op.all.find? (·.heads text)).bind fun op =>
      (Text.afterAnyCase? op.token.toList text).map (op, ·) := by
  rw [operator?]
  induction Op.all with
  | nil => rfl
  | cons op later ih =>
    rw [List.findSome?_cons, List.find?_cons, ih]
    rw [op.heads_eq]
    cases after : Text.afterAnyCase? op.token.toList text with
    | none => rfl
    | some rest => simp [after]

/-- The cut behind a token is between two characters. -/
theorem conditionBytes?_eq (field text : List Char) :
    conditionBytes? field text = some (condition? field text) := by
  rw [conditionBytes?, condition?, operator?_eq]
  cases found : Op.all.find? (·.heads (Text.dropOne ' ' text)) with
  | none => rfl
  | some op =>
    have heads := List.find?_some found
    rw [op.heads_eq, Option.isSome_iff_exists] at heads
    obtain ⟨rest, after⟩ := heads
    obtain ⟨head, cut, -⟩ := Text.afterAnyCase?_eq_some_iff_bytes.1 after
    simp only [cut, Option.bind_some, after]
    rfl

/-- All characters of a field are single bytes. -/
theorem lt_of_isFieldChar {c : Char} (h : isFieldChar c) : c.toNat < 128 := by
  have upper : c.isUpper = decide (c.val ≥ 'A'.val ∧ c.val ≤ 'Z'.val) := rfl
  have lower : c.isLower = (decide (c.val ≥ 'a'.val) && decide (c.val ≤ 'z'.val)) := rfl
  have alpha : c.isAlpha = (c.isUpper || c.isLower) := rfl
  have digit : c.isDigit = (decide (c.val ≥ '0'.val) && decide (c.val ≤ '9'.val)) := rfl
  have largest : c.val ≤ 'z'.val := by
    simp only [isFieldChar, Char.isAlphanum, alpha, upper, lower, digit, Bool.or_eq_true,
      Bool.and_eq_true, decide_eq_true_iff] at h
    rcases h with ((⟨-, upper⟩ | ⟨-, lower⟩) | ⟨-, digit⟩) | rfl
    · exact UInt32.le_trans upper (by decide)
    · exact lower
    · exact UInt32.le_trans digit (by decide)
    · decide
  exact Nat.lt_of_le_of_lt (UInt32.le_iff_toNat_le.1 largest) (by decide)

/-- Every cut is between two characters, and the filters read are the same. -/
theorem ofBytes?_eq (text : List Char) : ofBytes? text = some (ofText? text) := by
  cases text with
  | nil => rfl
  | cons c rest =>
    obtain ⟨first, bytes, eq, start⟩ := Text.exists_encode_cons
      (fun c start => lt_of_isFieldChar (isFieldChar_of_isFieldStart start)) c rest
    have run := Text.takeWhile_encode (fun _ => lt_of_isFieldChar) (c :: rest)
    have cut := Text.splitBytes?_encode ((c :: rest).takeWhile isFieldChar)
      ((c :: rest).dropWhile isFieldChar)
    rw [List.takeWhile_append_dropWhile] at cut
    rw [ofBytes?, ofText?, run]
    simp only [eq, start, cut, Option.bind_some, conditionBytes?_eq]
    split <;> rfl

/-! ## The grammar -/

/-- The filters that some text is read as are the wellformed ones. -/
theorem wellformed_iff_exists_parse? {filter : Filter} :
    filter.Wellformed ↔ ∃ text, parse? text = some filter := by
  constructor
  · intro formed
    have same : Text.AnyCase filter.op.token.toList filter.op.token.toList := rfl
    exact ⟨_, ofText?_eq_some_iff_spelling.2 (formed.spelling same)⟩
  · rintro ⟨text, read⟩
    obtain ⟨spelling⟩ := ofText?_eq_some_iff_spelling.1 read
    exact spelling.wellformed

/-- A text is read as a filter exactly when it spells the filter. A wellformed filter that is
written with spaces around its token, in any case, is read back. No text is cut inside a
character. -/
theorem parse?_spelling :
    (∀ (text : String) (filter : Filter),
      parse? text = some filter ↔ Nonempty (Spelling text.toList filter)) ∧
    (∀ (filter : Filter) (token : String), filter.Wellformed →
      Text.AnyCase token.toList filter.op.token.toList →
      parse? (filter.writtenWith token) = some filter) ∧
    ∀ text : String, ofBytes? text.toList = some (parse? text) :=
  ⟨fun _ _ => ofText?_eq_some_iff_spelling,
    fun _ _ formed same => ofText?_eq_some_iff_spelling.2 (formed.spelling same),
    fun text => ofBytes?_eq text.toList⟩

/-- An operator in mixed case whose literal holds another, and a text that is cut within a
character. -/
theorem parse?_spelling_notLike :
    parse? "title Not Like é > 1" = some ⟨"title", .notLike, some "é > 1"⟩ ∧
      Nonempty (Spelling "title Not Like é > 1".toList ⟨"title", .notLike, some "é > 1"⟩) ∧
      ofBytes? "prix€>=1".toList = some none := by
  have formed : Wellformed ⟨"title", .notLike, some "é > 1"⟩ :=
    ⟨⟨'t', by decide⟩, List.all_eq_true.1 rfl, _, rfl, by decide⟩
  have same : Text.AnyCase "Not Like".toList (Op.token .notLike).toList := by
    rw [Text.AnyCase]
    decide
  have read := parse?_spelling.2.1 _ "Not Like" formed same
  exact ⟨read, (parse?_spelling.1 _ _).1 read, parse?_spelling.2.2 "prix€>=1"⟩

-- without a literal for the longest operator no shorter one is tried
example : parse? "price>=" = none := by decide

end Filter

end Retrieval
