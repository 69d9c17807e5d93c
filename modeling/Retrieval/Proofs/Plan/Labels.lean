import Retrieval.Proofs.Ident
import Retrieval.Proofs.Plan.Grammar

/-!
# The names behind `AS`

If no name of `Plan.labels` is dotted, every ` AS ` in the text of a statement is followed by a
single quoted name, or by a fixed name of the template (`Plan.singleAliases_of_sql`); and every name
of `Plan.labels` stands behind an ` AS ` somewhere in the text (`Plan.labels_innerFragment`), so
that a dotted one shows.

An ` AS ` of a text put together lies in one of its pieces, unless it lies across a seam
(`Text.occurrence_append`). `Plan.Tidy` says which pieces have seams across which none can lie, and
every piece of a sentence is of that kind.
-/

namespace Retrieval

/-- An occurrence of a word in two texts put together lies in one of them or across the seam. -/
theorem Text.occurrence_append {a b before word after : List Char}
    (h : a ++ b = before ++ word ++ after) :
    (∃ rest, a = before ++ word ++ rest ∧ after = rest ++ b) ∨
      (∃ front, b = front ++ word ++ after) ∨
        ∃ x y, word = x ++ y ∧ x ≠ [] ∧ y ≠ [] ∧ a = before ++ x ∧ b = y ++ after := by
  rcases List.append_eq_append_iff.1 h with ⟨u, eq, rfl⟩ | ⟨rest, rfl, rfl⟩
  · rcases List.append_eq_append_iff.1 eq with ⟨x, rfl, rfl⟩ | ⟨front, rfl, rfl⟩
    · by_cases left : x = []
      · exact .inr (.inl ⟨[], by rw [left]; rfl⟩)
      · by_cases right : u = []
        · exact .inl ⟨[], by simp [right], by simp [right]⟩
        · exact .inr (.inr ⟨x, u, rfl, left, right, rfl, rfl⟩)
    · exact .inr (.inl ⟨front, rfl⟩)
  · exact .inl ⟨rest, rfl, rfl⟩

namespace Plan

/-- The word before an alias. -/
def aliasWord : List Char := [' ', 'A', 'S', ' ']

/-- Whether a text begins with a single quoted name, or with the fixed name of inner rows. -/
def Single (after : List Char) : Prop :=
  (∃ part rest, Ident.isPart part ∧ after = Ident.quotePart part ++ rest ∧ rest.head? ≠ some '.') ∨
    ∃ rest, after = 'r' :: ')' :: rest

/-- Whether every alias of a text is a single name; the last one may be the fixed name of rows. -/
def SingleAliases (text : List Char) : Prop :=
  ∀ before after, text = before ++ aliasWord ++ after → Single after ∨ after = ['t']

/-- A text whose aliases are single names, and at whose ends no alias can arise. -/
structure Tidy (text : List Char) : Prop where
  aliases : ∀ before after, text = before ++ aliasWord ++ after → Single after
  start : ¬['A', 'S', ' '] <+: text
  dot : text.head? ≠ some '.'
  finish : text.getLast? ≠ some 'A' ∧ text.getLast? ≠ some 'S'

/-! ## Tidy texts -/

/-- A text with single aliases stays so unless a dot follows it. -/
theorem Single.append {a b : List Char} (h : Single a) (dot : b.head? ≠ some '.') :
    Single (a ++ b) := by
  rcases h with ⟨part, rest, valid, rfl, head⟩ | ⟨rest, rfl⟩
  · refine .inl ⟨part, rest ++ b, valid, List.append_assoc .., ?_⟩
    cases rest with
    | nil => exact dot
    | cons => exact head
  · exact .inr ⟨rest ++ b, rfl⟩

/-- Across a seam, the word begins in front with an `A` or an `S` at the end, or with its blank. -/
theorem aliasWord_cases {x y : List Char} (h : aliasWord = x ++ y) (left : x ≠ []) (right : y ≠ []) :
    y = ['A', 'S', ' '] ∨ x.getLast? = some 'A' ∨ x.getLast? = some 'S' := by
  rcases x with _ | ⟨c, _ | ⟨d, _ | ⟨e, _ | ⟨f, x⟩⟩⟩⟩
  · exact absurd rfl left
  · simp_all [aliasWord]
  · obtain ⟨-, rfl, -⟩ : ' ' = c ∧ 'A' = d ∧ ['S', ' '] = y := by simpa [aliasWord] using h
    exact .inr (.inl rfl)
  · obtain ⟨-, -, rfl, -⟩ : ' ' = c ∧ 'A' = d ∧ 'S' = e ∧ [' '] = y := by simpa [aliasWord] using h
    exact .inr (.inr rfl)
  · simp_all [aliasWord]

/-- A text with no blank in it, whose first character is not of the word, is all that stands behind
the only alias. -/
theorem after_aliasWord {c : Char} {b before after : List Char} (blank : ' ' ∉ c :: b)
    (head : c ∉ aliasWord) (h : aliasWord ++ c :: b = before ++ aliasWord ++ after) :
    after = c :: b := by
  rcases Text.occurrence_append h with ⟨rest, inside, rfl⟩ | ⟨front, behind⟩ |
    ⟨x, y, word, left, right, -, beyond⟩
  · have lengths := congrArg List.length inside
    simp only [List.length_append] at lengths
    obtain rfl : rest = [] := List.length_eq_zero_iff.1 (by omega)
    rfl
  · rw [behind] at blank
    simp [aliasWord] at blank
  · obtain ⟨d, y, rfl⟩ := List.exists_cons_of_ne_nil right
    obtain ⟨rfl, -⟩ := List.cons.inj beyond
    refine absurd ?_ head
    rw [word]
    exact List.mem_append_right _ List.mem_cons_self

namespace Tidy

variable {a b text : List Char}

/-- Tidy texts put together are tidy. -/
theorem append (h : Tidy a) (h' : Tidy b) : Tidy (a ++ b) := by
  constructor
  case aliases =>
    intro before after eq
    rcases Text.occurrence_append eq with ⟨rest, inside, rfl⟩ | ⟨front, inside⟩ |
      ⟨x, y, word, left, right, rfl, rfl⟩
    · exact (h.aliases before rest inside).append h'.dot
    · exact h'.aliases front after inside
    · -- no alias lies across the seam: neither end can take a part of the word
      exfalso
      rcases aliasWord_cases word left right with rfl | last | last
      · exact h'.start (List.prefix_append _ after)
      · apply h.finish.1
        rw [List.getLast?_append, last]
        rfl
      · apply h.finish.2
        rw [List.getLast?_append, last]
        rfl
  case start =>
    -- a text of three characters or more decides alone; a shorter one would end in the word
    rcases a with _ | ⟨c, _ | ⟨d, _ | ⟨e, a⟩⟩⟩
    · exact h'.start
    · intro begins
      obtain ⟨rfl, -⟩ := List.cons_prefix_cons.1 begins
      exact h.finish.1 rfl
    · intro begins
      obtain ⟨-, later⟩ := List.cons_prefix_cons.1 begins
      obtain ⟨rfl, -⟩ := List.cons_prefix_cons.1 later
      exact h.finish.2 rfl
    · intro begins
      refine h.start ?_
      simpa [List.cons_prefix_cons] using begins
  case dot =>
    cases a with
    | nil => exact h'.dot
    | cons => exact h.dot
  case finish =>
    rw [List.getLast?_append]
    cases last : b.getLast? with
    | none => exact h.finish
    | some d =>
      rw [Option.some_or, ← last]
      exact h'.finish

/-- A text without blanks has no alias. -/
theorem of_not_mem (blank : ' ' ∉ text) (dot : text.head? ≠ some '.')
    (finish : text.getLast? ≠ some 'A' ∧ text.getLast? ≠ some 'S') : Tidy text := by
  refine ⟨?_, ?_, dot, finish⟩
  · rintro before after rfl
    simp [aliasWord] at blank
  · rintro ⟨rest, rfl⟩
    simp at blank

/-- A fixed text without an alias in it. -/
theorem of_absent (absent : ¬aliasWord <:+: text) (start : ¬['A', 'S', ' '] <+: text)
    (dot : text.head? ≠ some '.')
    (finish : text.getLast? ≠ some 'A' ∧ text.getLast? ≠ some 'S') : Tidy text := by
  refine ⟨?_, start, dot, finish⟩
  rintro before after rfl
  exact absurd ⟨before, after, rfl⟩ absent

theorem nil : Tidy [] := .of_not_mem List.not_mem_nil (by decide) (by simp)

theorem word {w : String} (fixed : w ∈ words) : Tidy w.toList := by
  have facts : ∀ w ∈ words, ¬aliasWord <:+: w.toList ∧ ¬['A', 'S', ' '] <+: w.toList ∧
      w.toList.head? ≠ some '.' ∧ w.toList.getLast? ≠ some 'A' ∧ w.toList.getLast? ≠ some 'S' := by
    decide +kernel
  obtain ⟨absent, start, dot, finish⟩ := facts w fixed
  exact .of_absent absent start dot finish

/-- A text without these letters does not end in the beginning of an alias. -/
theorem finish_of_not_mem (a : 'A' ∉ text) (s : 'S' ∉ text) :
    text.getLast? ≠ some 'A' ∧ text.getLast? ≠ some 'S' :=
  ⟨fun last => a (List.mem_of_getLast? last), fun last => s (List.mem_of_getLast? last)⟩

theorem placeholder (n : Nat) : Tidy ('$' :: (toString n).toList) := by
  refine .of_not_mem (not_mem_placeholder (by decide) (by decide)) ?_ (finish_of_not_mem
    (not_mem_placeholder (by decide) (by decide)) (not_mem_placeholder (by decide) (by decide)))
  rw [List.head?_cons]
  decide

theorem not_mem_quotePart {part : List Char} (valid : Ident.isPart part) :
    ' ' ∉ Ident.quotePart part := by
  have absent : ' ' ∉ part := Ident.not_mem_part valid (by decide)
  simp [Ident.quotePart, absent]

theorem not_mem_quoted (i : Ident) : ' ' ∉ i.quoted.toList := by
  obtain ⟨part, rest, eq⟩ := i.exists_parts
  have valid := i.valid
  rw [eq] at valid
  obtain ⟨first, later⟩ := List.forall_mem_cons.1 valid
  rw [Ident.toList_quoted eq, List.mem_append, not_or, List.mem_flatMap]
  refine ⟨not_mem_quotePart first, ?_⟩
  rintro ⟨next, inRest, mem⟩
  rcases List.mem_cons.1 mem with dot | mem
  · exact absurd dot (by decide)
  · exact not_mem_quotePart (later next inRest) mem

theorem getLast?_quotePart (part : List Char) : (Ident.quotePart part).getLast? = some '"' := by
  rw [Ident.quotePart, List.getLast?_append]
  rfl

theorem getLast?_quoted (i : Ident) : i.quoted.toList.getLast? = some '"' := by
  obtain ⟨part, rest, eq⟩ := i.exists_parts
  rw [Ident.toList_quoted eq]
  clear eq
  induction rest generalizing part with
  | nil => rw [List.flatMap_nil, List.append_nil, getLast?_quotePart]
  | cons next rest ih =>
    have later := ih next
    rw [List.flatMap_cons, List.getLast?_append]
    rw [List.cons_append, List.getLast?_cons, later]
    rfl

theorem head?_quoted (i : Ident) : i.quoted.toList.head? = some '"' := by
  obtain ⟨part, rest, eq⟩ := i.exists_parts
  rw [Ident.toList_quoted eq]
  rfl

/-- A quoted identifier is tidy, since it holds no blank. -/
theorem quoted (i : Ident) : Tidy i.quoted.toList := by
  refine .of_not_mem (not_mem_quoted i) ?_ ?_
  · rw [head?_quoted]
    decide
  · rw [getLast?_quoted]
    decide

theorem star (i : Ident) : Tidy (i.quoted.toList ++ ".*".toList) := by
  have last : (i.quoted.toList ++ ".*".toList).getLast? = some '*' := by
    rw [List.getLast?_append]
    rfl
  refine .of_not_mem ?_ ?_ ?_
  · rw [List.mem_append, not_or]
    exact ⟨not_mem_quoted i, by decide⟩
  · rw [List.head?_append, head?_quoted]
    decide
  · rw [last]
    decide

/-- A name that is not dotted stands behind its `AS` as it should. -/
theorem labelled {i : Ident} (plain : i.isDotted = false) :
    Tidy (" AS ".toList ++ i.quoted.toList) := by
  obtain ⟨part, valid, eq⟩ := Ident.toList_quoted_of_plain plain
  have blank := not_mem_quotePart valid
  have own : " AS ".toList = aliasWord := by decide
  rw [eq, own]
  constructor
  case aliases =>
    intro before after whole
    obtain rfl := after_aliasWord blank (by decide) whole
    refine .inl ⟨part, [], valid, ?_, by simp⟩
    rw [List.append_nil]
    rfl
  case start =>
    intro begins
    exact absurd (List.cons_prefix_cons.1 begins).1 (by decide)
  case dot =>
    rw [aliasWord, List.cons_append, List.head?_cons]
    decide
  case finish =>
    rw [List.getLast?_append, getLast?_quotePart]
    decide

/-- The closing of inner rows has an alias of its own. -/
theorem closing : Tidy ") AS r)".toList := by
  refine ⟨?_, by decide, by decide, by decide⟩
  intro before after whole
  have text : ") AS r)".toList = ')' :: (aliasWord ++ ['r', ')']) := by decide
  rw [text] at whole
  cases before with
  | nil => simp [aliasWord] at whole
  | cons c before =>
    obtain ⟨-, later⟩ := List.cons.inj whole
    obtain rfl := after_aliasWord (by decide) (by decide) later
    exact .inr ⟨[], rfl⟩

/-- A tidy text in brackets is tidy. -/
theorem enclosed {o c : String} {body : List Char} (pair : (o, c) ∈ brackets) (h : Tidy body) :
    Tidy (o.toList ++ body ++ c.toList) := by
  have facts : ∀ pair ∈ brackets, (¬aliasWord <:+: pair.1.toList ∧
      ¬['A', 'S', ' '] <+: pair.1.toList ∧ pair.1.toList.head? ≠ some '.' ∧
        pair.1.toList.getLast? ≠ some 'A' ∧ pair.1.toList.getLast? ≠ some 'S') ∧
          (pair.2 = ")" ∨ pair.2 = ") AS r)") := by
    decide +kernel
  obtain ⟨⟨absent, start, dot, finish⟩, closed⟩ := facts _ pair
  have opened : Tidy o.toList := .of_absent absent start dot finish
  refine (opened.append h).append ?_
  rcases closed with rfl | rfl
  · exact .of_not_mem (by decide) (by decide) (by decide)
  · exact closing

end Tidy

/-- A sentence whose labels are not dotted is tidy. -/
theorem Sentence.tidy {text : List Char} (h : Sentence (·.isDotted = false) text) : Tidy text := by
  induction h with
  | nil => exact .nil
  | append _ _ first second => exact first.append second
  | word fixed => exact .word fixed
  | placeholder n => exact .placeholder n
  | name i => exact .quoted i
  | star i => exact .star i
  | labelled plain => exact .labelled plain
  | enclosed pair _ inner => exact .enclosed pair inner

/-! ## Statements with single aliases -/

/-- The outermost closing gives the last alias. -/
theorem Tidy.singleAliases {body : List Char} (h : Tidy body) :
    SingleAliases (outermost.1.toList ++ body ++ outermost.2.toList) := by
  have opened : Tidy outermost.1.toList :=
    .of_absent (by decide +kernel) (by decide) (by decide) (by decide)
  have paren : Tidy [')'] := .of_not_mem (by decide) (by decide) (by decide)
  have front := (opened.append h).append paren
  have closing : outermost.2.toList = [')'] ++ (aliasWord ++ ['t']) := by decide
  -- an alias lies before the closing, or it is the closing's own, or it lies across the seam
  intro before after whole
  rw [closing, ← List.append_assoc] at whole
  rcases Text.occurrence_append whole with ⟨rest, inside, rfl⟩ | ⟨_, inside⟩ |
    ⟨x, y, word, left, right, inside, beyond⟩
  · exact .inl ((front.aliases before rest inside).append (by decide))
  · exact .inr (after_aliasWord (by decide) (by decide) inside)
  · exfalso
    rw [inside] at front
    rcases aliasWord_cases word left right with rfl | last | last
    · exact absurd (List.cons.inj beyond).1 (by decide)
    · apply front.finish.1
      rw [List.getLast?_append, last]
      rfl
    · apply front.finish.2
      rw [List.getLast?_append, last]
      rfl

variable {plan : Plan} {statement : Statement}

/-- A name without a dot is known as single. -/
theorem known_of_plain {name : String} (plain : '.' ∉ name.toList) :
    Ident.Known (·.isDotted = false) name := by
  intro i read
  rw [Ident.isDotted, decide_eq_false_iff_not, Ident.get_eq_ok_iff.1 read]
  exact mt Text.one_lt_length_split_iff.1 plain

/-- Labels without dots give an inner statement with single aliases. -/
theorem singleAliases_of_selectSql (plain : ∀ name ∈ plan.labels, '.' ∉ name.toList)
    (h : plan.selectSql = .ok statement) : SingleAliases statement.text.toList := by
  have sentence := sentence_of_selectSql (fun name mem => known_of_plain (plain name mem)) h
  intro before after eq
  exact .inl (sentence.tidy.aliases before after eq)

/-- Labels without dots give a statement with single aliases. -/
theorem singleAliases_of_sql (plain : ∀ name ∈ plan.labels, '.' ∉ name.toList)
    (h : plan.sql = .ok statement) : SingleAliases statement.text.toList := by
  have known : ∀ name ∈ plan.labels, Ident.Known (·.isDotted = false) name :=
    fun name mem => known_of_plain (plain name mem)
  obtain ⟨body, sentence, text⟩ := sentence_of_sql known h
  rw [text]
  exact sentence.tidy.singleAliases

end Plan

/-! ## Every label stands behind an alias -/

open Statement (raw ident textFrom)

/-- Whether a name stands behind an `AS` in a fragment, wherever the fragment is put. -/
def Statement.Labels (name : String) (statement : Statement) : Prop :=
  ∃ i, Ident.get name = .ok i ∧ ∀ count,
    Plan.aliasWord ++ i.quoted.toList <:+: (textFrom count statement.parts).toList

namespace Statement.Labels

variable {name : String} {a b : Statement}

theorem left (h : a.Labels name) (b : Statement) : (a ++ b).Labels name := by
  obtain ⟨i, read, shown⟩ := h
  refine ⟨i, read, fun count => ?_⟩
  rw [toList_append]
  exact (shown count).trans (List.prefix_append _ _).isInfix

theorem right (a : Statement) (h : b.Labels name) : (a ++ b).Labels name := by
  obtain ⟨i, read, shown⟩ := h
  refine ⟨i, read, fun count => ?_⟩
  rw [toList_append]
  exact (shown _).trans (List.suffix_append _ _).isInfix

/-- A list of fragments labels what one of them labels. -/
theorem foldr {fragments : List Statement} {fragment : Statement} (mem : fragment ∈ fragments)
    (h : fragment.Labels name) : (fragments.foldr (· ++ ·) Statement.empty).Labels name := by
  induction fragments with
  | nil => exact absurd mem List.not_mem_nil
  | cons first rest ih =>
    rcases List.mem_cons.1 mem with rfl | mem
    · exact left h _
    · exact right first (ih mem)

theorem joined {separator : String} {fragments : List Statement} {fragment : Statement}
    (mem : fragment ∈ fragments) (h : fragment.Labels name) :
    (joined separator fragments).Labels name := by
  refine foldr ?_ h
  induction fragments with
  | nil => exact absurd mem List.not_mem_nil
  | cons first rest ih =>
    cases rest with
    | nil => exact mem
    | cons next rest =>
      rw [List.intersperse_cons_cons]
      rcases List.mem_cons.1 mem with rfl | mem
      · exact List.mem_cons_self
      · exact List.mem_cons_of_mem _ (List.mem_cons_of_mem _ (ih mem))

end Statement.Labels

theorem labels_tableFragment {table name : String} {statement : Statement}
    (h : tableFragment table name = .ok statement) : statement.Labels name := by
  simp only [tableFragment, Except.bind_eq_ok_iff, Except.pure_eq_ok_iff] at h
  obtain ⟨t, -, i, read, rfl⟩ := h
  refine ⟨i, read, fun count => ?_⟩
  rw [Statement.append_assoc, Statement.toList_append, Statement.toList_append, Statement.toList_raw,
    ident, ident, Statement.toList_raw, Statement.toList_raw]
  exact (List.suffix_append _ _).isInfix

theorem labels_sourceFragment {correlation : Correlation} {table relation : String}
    {statement : Statement} (h : correlation.sourceFragment table relation = .ok statement) :
    statement.Labels relation := by
  simp only [Correlation.sourceFragment, Except.bind_eq_ok_iff] at h
  obtain ⟨related, rendered, h⟩ := h
  have source := labels_tableFragment rendered
  cases correlation with
  | toOne | toMany => exact Except.pure_eq_ok_iff.1 h ▸ source
  | manyToMany =>
    simp only [Except.bind_eq_ok_iff, Except.pure_eq_ok_iff] at h
    obtain ⟨pivot, -, left, -, right, -, rfl⟩ := h
    exact ((((source.left _).left _).left _).left _).left _ |>.left _

/-- What is loaded is labelled with its relation. -/
theorem labels_eagerLoad {load : EagerLoad} {main : String} {statement : Statement}
    (h : load.fragment main = .ok statement) : statement.Labels load.relation := by
  simp only [EagerLoad.fragment, Except.bind_eq_ok_iff, Except.pure_eq_ok_iff] at h
  obtain ⟨columns, -, source, sourced, condition, -, order, -, i, -, rfl⟩ := h
  have inner := (labels_sourceFragment sourced).right (raw load.opening ++ columns ++ raw " FROM ")
  exact ((((inner.left _).left _).left _).left _).left _

theorem labels_predicate {relation table main : String} {correlation : Correlation}
    {filters : List Filter} {statement : Statement}
    (h : (Predicate.related relation table correlation filters).fragment main = .ok statement) :
    statement.Labels relation := by
  simp only [Predicate.fragment, Except.bind_eq_ok_iff, Except.pure_eq_ok_iff] at h
  obtain ⟨source, sourced, condition, -, rest, -, rfl⟩ := h
  have inner := (labels_sourceFragment sourced).right (raw "EXISTS (SELECT 1 FROM ")
  exact (((inner.left _).left _).left _).left _

theorem labels_clauseFragment (opening separator : String) {name : String}
    {members : List Statement} {member : Statement} (mem : member ∈ members) (h : member.Labels name) :
    (clauseFragment opening separator members).Labels name := by
  have some : members.isEmpty = false := List.isEmpty_eq_false_iff.2 (List.ne_nil_of_mem mem)
  rw [clauseFragment, some]
  exact (Statement.Labels.joined mem h).right _

namespace Plan

variable {plan : Plan} {statement : Statement}

/-- Every label of a plan stands behind an `AS` of its inner statement. -/
theorem labels_innerFragment (h : plan.innerFragment = .ok statement) {name : String}
    (mem : name ∈ plan.labels) : statement.Labels name := by
  simp only [innerFragment, Except.bind_eq_ok_iff, Except.pure_eq_ok_iff] at h
  obtain ⟨columns, -, eager, loaded, table, rendered, lookup, -, predicates, conditioned, sort, -,
    rfl⟩ := h
  rcases List.mem_append.1 mem with mem | mem
  · -- the label of the main table, of a load, or of a condition
    rcases List.mem_cons.1 mem with rfl | mem
    · exact (((labels_tableFragment rendered).right _).left _).left _
    · obtain ⟨load, inPlan, rfl⟩ := List.mem_map.1 mem
      obtain ⟨fragment, written, h⟩ := Except.exists_result_of_mem loaded inPlan
      simp only [Except.bind_eq_ok_iff, Except.pure_eq_ok_iff] at h
      obtain ⟨inner, rendered, rfl⟩ := h
      have shown := Statement.Labels.foldr written ((labels_eagerLoad rendered).right (raw ", "))
      exact ((((shown.right _).left _).left _).left _).left _
  · obtain ⟨predicate, inPlan, mem⟩ := List.mem_flatMap.1 mem
    cases predicate with
    | filter => exact absurd mem List.not_mem_nil
    | related =>
      obtain rfl := List.mem_singleton.1 mem
      obtain ⟨fragment, written, rendered⟩ := Except.exists_result_of_mem conditioned inPlan
      have shown := labels_clauseFragment " WHERE " " AND " (List.mem_append_right lookup written)
        (labels_predicate rendered)
      exact (shown.right _).left _

/-- A label that shows in a text with single aliases is not dotted. -/
theorem isDotted_of_singleAliases {text : List Char} (h : SingleAliases text) {i : Ident}
    (shown : aliasWord ++ i.quoted.toList <:+: text) : i.isDotted = false := by
  obtain ⟨before, after, rfl⟩ := shown
  obtain ⟨part, rest, eq⟩ := i.exists_parts
  have valid : Ident.isPart part := i.valid part (by rw [eq]; exact List.mem_cons_self)
  have cut := h before (i.quoted.toList ++ after) (by simp only [List.append_assoc])
  rw [Ident.toList_quoted eq] at cut
  rcases cut with (⟨part', rest', valid', same, head⟩ | ⟨_, same⟩) | same
  · -- both parts end at the first quote, so what follows them is the same
    have ends {p : List Char} (tail : List Char) (valid : Ident.isPart p) :
        Text.cut '"' (p ++ '"' :: tail) = (p, some tail) :=
      Text.cut_eq_some_iff.2 ⟨rfl, Ident.not_mem_part valid (by decide)⟩
    have tails : part ++ '"' :: ((rest.flatMap fun part => '.' :: Ident.quotePart part) ++ after) =
        part' ++ '"' :: rest' := by
      simpa [Ident.quotePart] using same
    have both := ends ((rest.flatMap fun part => '.' :: Ident.quotePart part) ++ after) valid
    rw [tails, ends rest' valid'] at both
    obtain ⟨-, rfl⟩ : part' = part ∧ rest' = _ := by simpa using both
    cases rest with
    | nil => simp [Ident.isDotted, eq]
    | cons => simp at head
  · exact absurd (List.cons.inj same).1 (by decide)
  · exact absurd (List.cons.inj same).1 (by decide)

/-- A statement with single aliases comes from labels without dots. -/
theorem plain_of_selectSql (h : plan.selectSql = .ok statement)
    (single : SingleAliases statement.text.toList) :
    ∀ name ∈ plan.labels, '.' ∉ name.toList := by
  intro name mem
  obtain ⟨inner, rendered, same⟩ := exists_innerFragment h
  obtain ⟨i, read, shown⟩ := labels_innerFragment rendered mem
  rw [same.text] at single
  have plain := isDotted_of_singleAliases single (shown 0)
  rw [Ident.isDotted, decide_eq_false_iff_not, Ident.get_eq_ok_iff.1 read] at plain
  exact mt Text.one_lt_length_split_iff.2 plain

end Plan

end Retrieval
