import Retrieval.Proofs.Ident

/-!
# Quotes and brackets

A text is cut at its double quotes; its segments stand outside and inside of the quotes in turn
(`Alternating`). A text whose last segment is outside may be followed by any other: the two segments
at the seam grow together and all others keep their places (`Alternating.append`). Therefore what is
outside of a text put together is what is outside of its pieces (`unquoted_append`).

Brackets are counted by a scan (`depth`) that stops where more is closed than was opened. The same
scan tells what is outside of them (`unbracketed`): nothing of a text between brackets is, if the
scan of that text alone comes through (`unbracketed_inside`).
-/

namespace Retrieval.Text

/-! ## Segments between quotes -/

/-- Segments of two sorts in turn, the first and the last of the first sort. -/
inductive Alternating (Out In : List Char → Prop) : List (List Char) → Prop where
  | last {segment : List Char} (outside : Out segment) : Alternating Out In [segment]
  | pair {segment part : List Char} {rest : List (List Char)} (outside : Out segment)
    (inside : In part) (others : Alternating Out In rest) :
    Alternating Out In (segment :: part :: rest)

/-- Every other member of a list, from the first on. -/
def everyOther {α : Type} : List α → List α
  | [] => []
  | [a] => [a]
  | a :: _ :: rest => a :: everyOther rest

/-- The segments of a text that are outside of double quotes. -/
def outside (text : List Char) : List (List Char) := everyOther (split '"' text)

/-- The segments of a text that are inside of double quotes. -/
def inside (text : List Char) : List (List Char) := everyOther (split '"' text).tail

namespace Alternating

variable {Out In : List Char → Prop} {init tail : List (List Char)} {last first : List Char}

/-- There is a segment even of the empty text. -/
theorem ne_nil {segments : List (List Char)} (h : Alternating Out In segments) : segments ≠ [] := by
  cases h with
  | last => exact List.cons_ne_nil _ _
  | pair => exact List.cons_ne_nil _ _

/-- A list that goes on behind two segments has these two before its last one. -/
theorem init_of_pair {segment part : List Char} {rest : List (List Char)} (some : rest ≠ [])
    (eq : segment :: part :: rest = init ++ [last]) :
    ∃ before, init = segment :: part :: before ∧ rest = before ++ [last] := by
  cases init with
  | nil => simp at eq
  | cons head init =>
    cases init with
    | nil =>
      simp only [List.cons_append, List.nil_append, List.cons.injEq] at eq
      exact absurd eq.2.2 some
    | cons next init =>
      simp only [List.cons_append, List.cons.injEq] at eq
      obtain ⟨rfl, rfl, eq⟩ := eq
      exact ⟨init, rfl, eq⟩

/-- Two lists of segments are put together by joining the segments where they meet. -/
theorem append (closed : ∀ {a b}, Out a → Out b → Out (a ++ b)) {segments : List (List Char)}
    (h : Alternating Out In segments) (h' : Alternating Out In (first :: tail))
    (eq : segments = init ++ [last]) : Alternating Out In (init ++ (last ++ first) :: tail) := by
  -- on the first list: all but its last segment stay where they are
  induction h generalizing init with
  | last outside =>
    obtain ⟨rfl, single⟩ := List.append_eq_singleton_iff.1 eq.symm |>.resolve_right (by simp)
    obtain rfl := List.singleton_inj.1 single
    cases h' with
    | last outside' => exact .last (closed outside outside')
    | pair outside' inside' others => exact .pair (closed outside outside') inside' others
  | pair outside inside others ih =>
    obtain ⟨before, rfl, shorter⟩ := init_of_pair others.ne_nil eq
    exact .pair outside inside (ih shorter)

/-- What is outside of two lists of segments put together is outside of one of them. -/
theorem flatten_everyOther_append {segments : List (List Char)} (h : Alternating Out In segments)
    (eq : segments = init ++ [last]) :
    (everyOther (init ++ (last ++ first) :: tail)).flatten =
      (everyOther segments).flatten ++ (everyOther (first :: tail)).flatten := by
  induction h generalizing init with
  | last outside =>
    obtain ⟨rfl, single⟩ := List.append_eq_singleton_iff.1 eq.symm |>.resolve_right (by simp)
    obtain rfl := List.singleton_inj.1 single
    cases tail with
    | nil => simp [everyOther]
    | cons => simp [everyOther]
  | pair outside inside others ih =>
    obtain ⟨before, rfl, shorter⟩ := init_of_pair others.ne_nil eq
    have step := ih shorter
    simp only [List.cons_append, everyOther, List.flatten_cons, step, List.append_assoc]

/-- There is one segment more outside than inside. -/
theorem length_odd {segments : List (List Char)} (h : Alternating Out In segments) :
    segments.length % 2 = 1 := by
  induction h with
  | last => rfl
  | pair _ _ _ ih =>
    rw [List.length_cons, List.length_cons]
    omega

/-- Every other segment is outside, from the first on. -/
theorem outside_of_mem {segments : List (List Char)} (h : Alternating Out In segments) :
    ∀ segment ∈ everyOther segments, Out segment := by
  induction h with
  | last outside =>
    intro segment mem
    obtain rfl := List.mem_singleton.1 mem
    exact outside
  | pair outside _ _ ih =>
    intro segment mem
    rcases List.mem_cons.1 mem with rfl | mem
    · exact outside
    · exact ih segment mem

/-- Every other segment is inside, from the second on. -/
theorem inside_of_mem {segments : List (List Char)} (h : Alternating Out In segments) :
    ∀ part ∈ everyOther segments.tail, In part := by
  induction h with
  | last => exact fun part mem => absurd mem List.not_mem_nil
  | @pair _ _ rest _ inside others ih =>
    intro part mem
    cases rest with
    | nil => exact absurd rfl others.ne_nil
    | cons =>
      rcases List.mem_cons.1 mem with rfl | mem
      · exact inside
      · exact ih part mem

end Alternating

/-- There is one segment more than there are separators. -/
theorem length_split (sep : Char) (text : List Char) :
    (split sep text).length = text.count sep + 1 := by
  induction text with
  | nil => rfl
  | cons c rest ih =>
    rw [split]
    by_cases h : c = sep
    · rw [if_pos h, List.length_cons, ih, h, List.count_cons_self]
    · obtain ⟨piece, pieces, eq⟩ := List.exists_cons_of_ne_nil (split_ne_nil sep rest)
      rw [eq] at ih ⊢
      rw [if_neg h, List.count_cons_of_ne h, ← ih]
      rfl

/-! ## Texts with quotes -/

/-- What of a text is outside of double quotes, its segments put together. -/
def unquoted (text : List Char) : List Char := (outside text).flatten

/-- Whether the segments of a text outside and inside of double quotes are of given sorts. -/
def Quoting (Out In : List Char → Prop) (text : List Char) : Prop :=
  Alternating Out In (split '"' text)

namespace Quoting

variable {Out In : List Char → Prop} {text rest part : List Char}

/-- A text without quotes is outside of quotes. -/
theorem plain (plain : '"' ∉ text) (h : Out text) : Quoting Out In text := by
  rw [Quoting, split_of_not_mem plain]
  exact .last h

/-- A text between quotes has nothing outside of them. -/
theorem quoted (plain : '"' ∉ part) (empty : Out []) (h : In part) :
    Quoting Out In ('"' :: part ++ ['"']) := by
  have cut : split '"' ('"' :: part ++ ['"']) = [[], part, []] := by
    rw [List.cons_append, split, if_pos rfl, split_append_cons, split_of_not_mem plain]
    rfl
  rw [Quoting, cut]
  exact .pair empty h (.last empty)

/-- The last segment of the first text and the first of the second become one. -/
theorem append (closed : ∀ {a b}, Out a → Out b → Out (a ++ b)) (h : Quoting Out In text)
    (h' : Quoting Out In rest) : Quoting Out In (text ++ rest) := by
  obtain ⟨init, last, eq⟩ := exists_split_last '"' text
  obtain ⟨first, tail, eq'⟩ := List.exists_cons_of_ne_nil (split_ne_nil '"' rest)
  rw [Quoting, eq'] at h'
  rw [Quoting, split_append eq eq']
  exact Alternating.append closed h h' eq

/-- What is outside of quotes is so piece by piece. -/
theorem unquoted_append (h : Quoting Out In text) (rest : List Char) :
    unquoted (text ++ rest) = unquoted text ++ unquoted rest := by
  obtain ⟨init, last, eq⟩ := exists_split_last '"' text
  obtain ⟨first, tail, eq'⟩ := List.exists_cons_of_ne_nil (split_ne_nil '"' rest)
  rw [unquoted, unquoted, unquoted, outside, outside, outside, split_append eq eq', eq']
  exact Alternating.flatten_everyOther_append h eq

/-- Every quote that is opened is closed. -/
theorem even_count (h : Quoting Out In text) : text.count '"' % 2 = 0 := by
  have odd := Alternating.length_odd h
  rw [length_split] at odd
  omega

end Quoting

/-- A text without quotes is all outside. -/
theorem unquoted_plain {text : List Char} (plain : '"' ∉ text) : unquoted text = text := by
  rw [unquoted, outside, split_of_not_mem plain]
  exact List.append_nil text

/-! ## Brackets -/

/-- How many brackets are open behind a character, unless it closes one and none is open. -/
def opened (count : Nat) (c : Char) : Option Nat :=
  if c = '(' then some (count + 1)
  else if c = ')' then if count = 0 then none else some (count - 1)
  else some count

/-- How many brackets are open behind a text if some are open before it, unless the text closes more
than are open. -/
def depth (count : Nat) (text : List Char) : Option Nat := text.foldlM opened count

/-- The depth is carried from text to text. -/
theorem depth_append (count : Nat) (text rest : List Char) :
    depth count (text ++ rest) = (depth count text).bind (depth · rest) :=
  List.foldlM_append

/-- The depth is carried from character to character. -/
theorem depth_cons (count : Nat) (c : Char) (rest : List Char) :
    depth count (c :: rest) = (opened count c).bind (depth · rest) :=
  List.foldlM_cons

/-- A character that can be read counts right. -/
theorem opened_eq {count after : Nat} {c : Char} (h : opened count c = some after) :
    count + [c].count '(' = after + [c].count ')' := by
  unfold opened at h
  split at h
  case isTrue opening =>
    obtain rfl := Option.some.inj h
    subst opening
    rfl
  case isFalse opening =>
    split at h
    case isTrue closing =>
      subst closing
      split at h
      case isTrue => simp at h
      case isFalse some =>
        obtain rfl := Option.some.inj h
        have left : [')'].count '(' = 0 := rfl
        have right : [')'].count ')' = 1 := rfl
        omega
    case isFalse closing =>
      obtain rfl := Option.some.inj h
      rw [List.count_singleton, List.count_singleton, if_neg (by simpa using opening),
        if_neg (by simpa using closing)]

/-- More brackets around do not change what a character does. -/
theorem opened_add {count after : Nat} {c : Char} (h : opened count c = some after)
    (around : Nat) : opened (count + around) c = some (after + around) := by
  unfold opened at h ⊢
  split at h
  case isTrue opening =>
    obtain rfl := Option.some.inj h
    rw [if_pos opening, Nat.add_right_comm]
  case isFalse opening =>
    rw [if_neg opening]
    split at h
    case isTrue closing =>
      rw [if_pos closing]
      split at h
      case isTrue => simp at h
      case isFalse some =>
        obtain rfl := Option.some.inj h
        rw [if_neg (by omega), Nat.sub_add_comm (by omega)]
    case isFalse closing =>
      obtain rfl := Option.some.inj h
      rw [if_neg closing]

/-- Brackets that are open around a text stay open. -/
theorem depth_add {count after : Nat} {text : List Char} (h : depth count text = some after)
    (around : Nat) : depth (count + around) text = some (after + around) := by
  induction text generalizing count with
  | nil =>
    obtain rfl := Option.some.inj h
    rfl
  | cons c rest ih =>
    rw [depth_cons] at h ⊢
    obtain ⟨next, first, later⟩ := Option.bind_eq_some_iff.1 h
    rw [opened_add first, Option.bind_some]
    exact ih later

/-- A scan that comes through counts right. -/
theorem depth_eq {count after : Nat} {text : List Char} (h : depth count text = some after) :
    count + text.count '(' = after + text.count ')' := by
  induction text generalizing count with
  | nil =>
    obtain rfl := Option.some.inj h
    rfl
  | cons c rest ih =>
    rw [depth_cons] at h
    obtain ⟨next, first, later⟩ := Option.bind_eq_some_iff.1 h
    have one := opened_eq first
    have others := ih later
    rw [← List.singleton_append, List.count_append, List.count_append]
    omega

/-! ## Texts without their brackets -/

/-- What of a text is outside of brackets if some are open before it, the brackets themselves left
out. -/
def unbracketed (count : Nat) : List Char → List Char
  | [] => []
  | c :: rest =>
    match opened count c with
    | none => []
    | some after =>
      if count = 0 ∧ after = 0 then c :: unbracketed after rest else unbracketed after rest

/-- What of a text is outside of double quotes and of brackets. -/
def outer (text : List Char) : List Char := unbracketed 0 (unquoted text)

/-- A character is outside if no bracket is open on either side of it. -/
theorem unbracketed_cons {count after : Nat} {c : Char} (h : opened count c = some after)
    (rest : List Char) : unbracketed count (c :: rest) =
      if count = 0 ∧ after = 0 then c :: unbracketed after rest else unbracketed after rest := by
  rw [unbracketed, h]

/-- What is outside of brackets is so piece by piece. -/
theorem unbracketed_append {count after : Nat} {text : List Char}
    (h : depth count text = some after) (rest : List Char) :
    unbracketed count (text ++ rest) = unbracketed count text ++ unbracketed after rest := by
  induction text generalizing count with
  | nil =>
    obtain rfl := Option.some.inj h
    rfl
  | cons c tail ih =>
    rw [depth_cons] at h
    obtain ⟨next, first, later⟩ := Option.bind_eq_some_iff.1 h
    rw [List.cons_append, unbracketed_cons first, unbracketed_cons first, ih later]
    split <;> rfl

/-- Between brackets that stay open nothing is outside of them. -/
theorem unbracketed_inside {count after : Nat} {text : List Char}
    (h : depth count text = some after) (around : Nat) :
    unbracketed (count + (around + 1)) text = [] := by
  induction text generalizing count with
  | nil => rfl
  | cons c rest ih =>
    rw [depth_cons] at h
    obtain ⟨next, first, later⟩ := Option.bind_eq_some_iff.1 h
    rw [unbracketed_cons (opened_add first _), if_neg (by omega), ih later]

/-- What is outside of brackets stands in the text. -/
theorem mem_of_mem_unbracketed {count : Nat} {text : List Char} {c : Char}
    (h : c ∈ unbracketed count text) : c ∈ text := by
  induction text generalizing count with
  | nil => exact h
  | cons d rest ih =>
    rw [unbracketed] at h
    split at h
    case h_1 => exact absurd h List.not_mem_nil
    case h_2 =>
      split at h
      · rcases List.mem_cons.1 h with rfl | h
        · exact List.mem_cons_self
        · exact List.mem_cons_of_mem _ (ih h)
      · exact List.mem_cons_of_mem _ (ih h)

/-- A character outside of quotes and brackets is one of the text if that has no quotes. -/
theorem mem_of_mem_outer {text : List Char} (plain : '"' ∉ text) {c : Char} (h : c ∈ outer text) :
    c ∈ text := by
  rw [outer, unquoted_plain plain] at h
  exact mem_of_mem_unbracketed h

/-! ## Balance -/

/-- Whether every bracket of a text is closed behind its opening. -/
def Balanced (text : List Char) : Prop :=
  text.count '(' = text.count ')' ∧ ∀ before, before <+: text → before.count ')' ≤ before.count '('

/-- A text is balanced when its scan comes through with no open brackets. -/
theorem balanced_of_depth {text : List Char} (h : depth 0 text = some 0) : Balanced text := by
  refine ⟨by simpa using depth_eq h, ?_⟩
  -- the scan comes through every beginning as well, and what it counts there is not negative
  rintro before ⟨rest, rfl⟩
  rw [depth_append] at h
  obtain ⟨after, scanned, -⟩ := Option.bind_eq_some_iff.1 h
  have := depth_eq scanned
  omega

end Retrieval.Text
