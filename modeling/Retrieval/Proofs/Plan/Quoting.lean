import Retrieval.Proofs.Plan.Grammar
import Retrieval.Proofs.Text.Quotes

/-!
# No name leaves its quotes

Cut at its double quotes, the text of a statement shows the parts of identifiers inside of them and
nothing but fixed texts and placeholders outside (`Plan.Sealed`). This holds for every plan whose
statement can be written, whatever texts the plan holds: a text gets inside of quotes only as a part
of an identifier, and values are bound.

The proof is by induction on the sentence that the text is. Two things are carried along: how the
segments alternate, and that a scan of what is outside comes through with all brackets closed.
-/

namespace Retrieval.Plan

open Text (Quoting unquoted depth)

/-- The fixed texts of statements: the words, the openings and closings, and what stands before,
between and behind the parts of an identifier. -/
def fixedTexts : List String :=
  words ++ (outermost :: brackets).flatMap (fun pair => [pair.1, pair.2]) ++ [" AS ", ".", ".*"]

/-- A row of fixed texts and placeholders. -/
inductive Template : List Char → Prop where
  | nil : Template []
  | text {w : String} {rest : List Char} (fixed : w ∈ fixedTexts) (later : Template rest) :
    Template (w.toList ++ rest)
  | placeholder {rest : List Char} (n : Nat) (later : Template rest) :
    Template ('$' :: (toString n).toList ++ rest)

/-- The literal of an empty array. -/
def emptyArray : String := "'[]'::json"

/-- What is asked of the text of a statement. -/
structure Sealed (text : List Char) : Prop where
  even : text.count '"' % 2 = 0
  inside : ∀ part ∈ Text.inside text, Ident.isPart part
  outside : ∀ segment ∈ Text.outside text, Template segment
  /-- No statement is ended there and no comment begun. -/
  harmless : ∀ segment ∈ Text.outside text, ';' ∉ segment ∧ '-' ∉ segment ∧ '\\' ∉ segment
  /-- No literal stands there but that of an empty array. -/
  literals : ∀ segment ∈ Text.outside text, ∃ pieces : List (List Char),
    segment = pieces.flatten ∧ ∀ piece ∈ pieces, piece = emptyArray.toList ∨ '\'' ∉ piece
  balanced : Text.Balanced (unquoted text)

/-! ## Rows of fixed texts and placeholders -/

namespace Template

variable {a b segment : List Char}

/-- Rows of fixed texts and placeholders make one row. -/
theorem append (h : Template a) (h' : Template b) : Template (a ++ b) := by
  induction h with
  | nil => exact h'
  | text fixed _ ih =>
    rw [List.append_assoc]
    exact .text fixed ih
  | placeholder n _ ih =>
    rw [List.append_assoc]
    exact .placeholder n ih

/-- A fixed text is a row by itself. -/
theorem of_fixed {w : String} (fixed : w ∈ fixedTexts) : Template w.toList := by
  rw [← List.append_nil w.toList]
  exact .text fixed .nil

/-- A character that is in no fixed text and in no placeholder is in no row of them. -/
theorem not_mem {c : Char} (absent : ∀ w ∈ fixedTexts, c ∉ w.toList) (sign : c ≠ '$')
    (digit : c.isDigit = false) (h : Template segment) : c ∉ segment := by
  induction h with
  | nil => exact List.not_mem_nil
  | text fixed _ ih =>
    rw [List.mem_append, not_or]
    exact ⟨absent _ fixed, ih⟩
  | placeholder n _ ih =>
    rw [List.mem_append, not_or]
    exact ⟨not_mem_placeholder sign digit, ih⟩

/-- A row of fixed texts and placeholders ends no statement and begins no comment. -/
theorem harmless (h : Template segment) : ';' ∉ segment ∧ '-' ∉ segment ∧ '\\' ∉ segment := by
  have absent : ∀ w ∈ fixedTexts, ';' ∉ w.toList ∧ '-' ∉ w.toList ∧ '\\' ∉ w.toList := by
    decide +kernel
  refine ⟨not_mem ?_ (by decide) (by decide) h, not_mem ?_ (by decide) (by decide) h,
    not_mem ?_ (by decide) (by decide) h⟩
  · exact fun w fixed => (absent w fixed).1
  · exact fun w fixed => (absent w fixed).2.1
  · exact fun w fixed => (absent w fixed).2.2

/-- Only one fixed text has single quotes, and they are those of its literal. -/
theorem literal_of_fixed {w : String} (fixed : w ∈ fixedTexts) :
    '\'' ∉ w.toList ∨ w.toList = "(SELECT COALESCE(json_agg(r), ".toList ++ emptyArray.toList
      ++ ") FROM (SELECT ".toList := by
  revert w
  decide +kernel

/-- A row of fixed texts and placeholders has no literal but that of an empty array. -/
theorem literals (h : Template segment) : ∃ pieces : List (List Char),
    segment = pieces.flatten ∧ ∀ piece ∈ pieces, piece = emptyArray.toList ∨ '\'' ∉ piece := by
  induction h with
  | nil => exact ⟨[], rfl, fun piece mem => absurd mem List.not_mem_nil⟩
  | @text w rest fixed _ ih =>
    obtain ⟨pieces, rfl, each⟩ := ih
    rcases literal_of_fixed fixed with plain | literal
    · exact ⟨w.toList :: pieces, rfl, List.forall_mem_cons.2 ⟨.inr plain, each⟩⟩
    · refine ⟨"(SELECT COALESCE(json_agg(r), ".toList :: emptyArray.toList ::
        ") FROM (SELECT ".toList :: pieces, ?_, ?_⟩
      · rw [literal]
        simp only [List.flatten_cons, List.append_assoc]
      · refine List.forall_mem_cons.2 ⟨.inr (by decide), ?_⟩
        refine List.forall_mem_cons.2 ⟨.inl rfl, ?_⟩
        exact List.forall_mem_cons.2 ⟨.inr (by decide), each⟩
  | @placeholder rest n _ ih =>
    obtain ⟨pieces, rfl, each⟩ := ih
    refine ⟨('$' :: (toString n).toList) :: pieces, rfl, ?_⟩
    exact List.forall_mem_cons.2 ⟨.inr (not_mem_placeholder (by decide) (by decide)), each⟩

end Template

/-! ## Sentences -/

/-- What is carried through a sentence: its segments alternate, and all brackets that are opened
outside of quotes are closed there. -/
structure Closed (text : List Char) : Prop where
  quoting : Quoting Template (Ident.isPart ·) text
  nesting : depth 0 (unquoted text) = some 0

/-- A text without brackets leaves the depth. -/
theorem depth_of_not_mem {text : List Char} (opening : '(' ∉ text) (closing : ')' ∉ text)
    (count : Nat) : depth count text = some count := by
  induction text with
  | nil => rfl
  | cons c rest ih =>
    rw [List.mem_cons, not_or] at opening closing
    rw [Text.depth_cons, Text.opened, if_neg (Ne.symm opening.1), if_neg (Ne.symm closing.1)]
    exact ih opening.2 closing.2

namespace Closed

variable {a b body : List Char}

/-- Texts that close what they open do so together. -/
theorem append (h : Closed a) (h' : Closed b) : Closed (a ++ b) := by
  refine ⟨h.quoting.append .append h'.quoting, ?_⟩
  rw [h.quoting.unquoted_append, Text.depth_append, h.nesting]
  exact h'.nesting

/-- A text without quotes and brackets. -/
theorem plain (row : Template a) (quotes : '"' ∉ a) (opening : '(' ∉ a) (closing : ')' ∉ a) :
    Closed a := by
  refine ⟨.plain quotes row, ?_⟩
  rw [Text.unquoted_plain quotes]
  exact depth_of_not_mem opening closing 0

theorem nil : Closed [] :=
  .plain .nil List.not_mem_nil List.not_mem_nil List.not_mem_nil

/-- A part in its quotes has nothing outside. -/
theorem unquoted_quotePart {part : List Char} (h : Ident.isPart part) :
    unquoted (Ident.quotePart part) = [] := by
  have quotes : '"' ∉ part := Ident.not_mem_part h (by decide)
  rw [unquoted, Text.outside, Ident.quotePart, List.cons_append, Text.split, if_pos rfl,
    Text.split_append_cons, Text.split_of_not_mem quotes]
  rfl

/-- A part in quotes opens and closes one quote. -/
theorem quotePart {part : List Char} (h : Ident.isPart part) : Closed (Ident.quotePart part) := by
  refine ⟨.quoted (Ident.not_mem_part h (by decide)) .nil h, ?_⟩
  rw [unquoted_quotePart h]
  rfl

theorem dot : Closed ['.'] :=
  .plain (Template.of_fixed (w := ".") (by decide)) (by decide) (by decide) (by decide)

/-- A quoted identifier closes what it opens. -/
theorem quoted (i : Ident) : Closed i.quoted.toList := Ident.quoted_induction append quotePart dot i

/-- Words have no quotes, and they close the brackets that they open. -/
theorem word {w : String} (fixed : w ∈ words) : Closed w.toList := by
  have facts : ∀ w ∈ words, w ∈ fixedTexts ∧ '"' ∉ w.toList ∧ depth 0 w.toList = some 0 := by
    decide +kernel
  obtain ⟨text, quotes, scanned⟩ := facts w fixed
  refine ⟨.plain quotes (.of_fixed text), ?_⟩
  rw [Text.unquoted_plain quotes]
  exact scanned

/-- The brackets that an opening leaves open are closed by its closing, whatever closed text stands
between them. -/
theorem enclosed {opening closing : String} (pair : (opening, closing) ∈ outermost :: brackets)
    (h : Closed body) : Closed (opening.toList ++ body ++ closing.toList) := by
  have facts : ∀ pair ∈ outermost :: brackets, (pair.1 ∈ fixedTexts ∧ pair.2 ∈ fixedTexts) ∧
      ('"' ∉ pair.1.toList ∧ '"' ∉ pair.2.toList) ∧
        (depth 0 pair.1.toList).bind (depth · pair.2.toList) = some 0 := by
    decide +kernel
  obtain ⟨⟨left, right⟩, ⟨leftQuotes, rightQuotes⟩, scanned⟩ := facts _ pair
  have opened : Quoting Template (Ident.isPart ·) opening.toList :=
    .plain leftQuotes (.of_fixed left)
  have closed : Quoting Template (Ident.isPart ·) closing.toList :=
    .plain rightQuotes (.of_fixed right)
  have front := opened.append .append h.quoting
  refine ⟨front.append .append closed, ?_⟩
  rw [front.unquoted_append, opened.unquoted_append, Text.unquoted_plain leftQuotes,
    Text.unquoted_plain rightQuotes, Text.depth_append, Text.depth_append]
  -- `count` brackets are open before the text between and still open behind it
  obtain ⟨count, before, after⟩ := Option.bind_eq_some_iff.1 scanned
  have inner : depth count (unquoted body) = some count := by
    have around := Text.depth_add h.nesting count
    rwa [Nat.zero_add] at around
  rw [before, Option.bind_some, inner, Option.bind_some]
  exact after

end Closed

/-- A sentence closes what it opens. -/
theorem Sentence.closed {label : Ident → Prop} {text : List Char} (h : Sentence label text) :
    Closed text := by
  induction h with
  | nil => exact .nil
  | append _ _ first second => exact first.append second
  | word fixed => exact .word fixed
  | placeholder n =>
    have row : Template ('$' :: (toString n).toList) := by
      rw [← List.append_nil ('$' :: (toString n).toList)]
      exact .placeholder n .nil
    have absent {c : Char} (sign : c ≠ '$') (digit : c.isDigit = false) :
        c ∉ '$' :: (toString n).toList := not_mem_placeholder sign digit
    exact .plain row (absent (by decide) (by decide)) (absent (by decide) (by decide))
      (absent (by decide) (by decide))
  | name i => exact .quoted i
  | star i =>
    have star : Closed ".*".toList :=
      .plain (.of_fixed (by decide)) (by decide) (by decide) (by decide)
    exact (Closed.quoted i).append star
  | @labelled i _ =>
    have word : Closed " AS ".toList :=
      .plain (.of_fixed (by decide)) (by decide) (by decide) (by decide)
    exact word.append (.quoted i)
  | enclosed pair _ inner => exact .enclosed (List.mem_cons_of_mem _ pair) inner

/-- A text that closes what it opens is sealed. -/
theorem Closed.sealed {text : List Char} (h : Closed text) : Sealed text where
  even := h.quoting.even_count
  inside := Text.Alternating.inside_of_mem h.quoting
  outside := Text.Alternating.outside_of_mem h.quoting
  harmless segment mem := (Text.Alternating.outside_of_mem h.quoting segment mem).harmless
  literals segment mem := (Text.Alternating.outside_of_mem h.quoting segment mem).literals
  balanced := Text.balanced_of_depth h.nesting

/-- Whatever texts a plan holds, none of them leaves its quotes in the statement. -/
theorem sealed_of_sql {plan : Plan} {statement : Statement} (h : plan.sql = .ok statement) :
    Sealed statement.text.toList := by
  have any : ∀ name ∈ plan.labels, Ident.Known (fun _ => True) name := fun _ _ _ _ => trivial
  obtain ⟨body, sentence, text⟩ := sentence_of_sql any h
  rw [text]
  exact (Closed.enclosed List.mem_cons_self sentence.closed).sealed

/-- A plan whose values try to end the statement. -/
def hostile : Plan :=
  { resourceType := "Post\"; --", table := "app.posts", label := "order"
    columns := .ofList ["*", "tags.id"]
    eager := [⟨"tags", "tags", "id", .ofList ["label"],
      .manyToMany "post_tag" "post_id" "tag_id" "id" "id", some 3⟩]
    predicates := [.filter ⟨"title", .like, some "\"; DROP TABLE posts; --"⟩]
    sort := [⟨"title", .descending⟩]
    lookup := some (.primaryOrAlternate "id" "slug" "1' OR ('1' = '1"), window := none }

/-- A plan whose values and names try to break out. -/
theorem sealed_of_sql_hostile :
    ∃ statement, hostile.sql = .ok statement ∧ Sealed statement.text.toList := by
  have renders : hostile.sql.error? = none := by decide +kernel
  obtain ⟨statement, written⟩ := Except.error?_eq_none_iff.1 renders
  exact ⟨statement, written, sealed_of_sql written⟩

end Retrieval.Plan
