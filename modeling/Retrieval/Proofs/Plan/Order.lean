import Retrieval.Proofs.Plan.Quoting
import Retrieval.Proofs.Plan.Usable
import Retrieval.Proofs.Request.SortKeys

/-!
# The order of a list

An `ORDER BY` is the own one of a statement if it stands outside of quotes and brackets
(`Text.outer`); related rows are ordered as well, but in brackets. `Plan.OrderedBy` says of the
inner statement that its own order lists some members, or that it has none.

All that is written before the order is a phrase, and a phrase has no order outside of brackets
(`Plan.Phrase.unordered`). So the order is the last clause of the inner statement, it is written
exactly if there are sort keys, and its members are the sort keys in order
(`Plan.orderedBy_of_selectSql`). The sort keys of a list are those that are kept of its tokens, so
they come through from the text that was sent to the statement.
-/

namespace Retrieval

open Statement (raw ident bound textFrom)

/-! ## Texts without an order -/

namespace Plan

/-- The words that begin an order. -/
def orderWords : List Char := "ORDER BY".toList

/-- A closed text that has no order outside of brackets; no other word of statements has a `Y`. -/
structure Unordered (text : List Char) : Prop where
  closed : Closed text
  absent : 'Y' ∉ Text.outer text

/-- What stands outside of a text that closes its brackets stands outside of all. -/
theorem Closed.outer_append {a : List Char} (h : Closed a) (b : List Char) :
    Text.outer (a ++ b) = Text.outer a ++ Text.outer b := by
  rw [Text.outer, h.quoting.unquoted_append, Text.unbracketed_append h.nesting]
  rfl

namespace Unordered

variable {a b body : List Char}

/-- A text without an order has the words for it nowhere outside of brackets. -/
theorem orderWords_absent (h : Unordered a) : ¬orderWords <:+: Text.outer a := by
  intro inside
  exact h.absent (inside.subset (by decide))

/-- Texts without an order have none together. -/
theorem append (h : Unordered a) (h' : Unordered b) : Unordered (a ++ b) := by
  refine ⟨h.closed.append h'.closed, ?_⟩
  rw [h.closed.outer_append, List.mem_append, not_or]
  exact ⟨h.absent, h'.absent⟩

/-- A closed text without quotes in which that letter does not stand at all. -/
theorem plain (closed : Closed a) (quotes : '"' ∉ a) (absent : 'Y' ∉ a) : Unordered a :=
  ⟨closed, fun mem => absent (Text.mem_of_mem_outer quotes mem)⟩

theorem nil : Unordered [] := .plain .nil List.not_mem_nil List.not_mem_nil

/-- A fixed word is no order, unless it is the one for it. -/
theorem word {w : String} (fixed : w ∈ plainWords) : Unordered w.toList := by
  have facts : ∀ w ∈ plainWords, '"' ∉ w.toList ∧ 'Y' ∉ w.toList := by
    decide +kernel
  exact .plain (.word (List.mem_filter.1 fixed).1) (facts w fixed).1 (facts w fixed).2

theorem placeholder (n : Nat) : Unordered ('$' :: (toString n).toList) := by
  have sentence : Sentence (fun _ => True) ('$' :: (toString n).toList) := .placeholder n
  exact .plain sentence.closed (not_mem_placeholder (by decide) (by decide))
    (not_mem_placeholder (by decide) (by decide))

theorem quoted (i : Ident) : Unordered i.quoted.toList := by
  refine Ident.quoted_induction .append ?_ (.plain .dot (by decide) (by decide)) i
  intro part valid
  refine ⟨.quotePart valid, ?_⟩
  rw [Text.outer, Closed.unquoted_quotePart valid]
  exact List.not_mem_nil

/-- Nothing of a text between brackets is outside of them. -/
theorem enclosed {opening closing : String} (pair : (opening, closing) ∈ brackets)
    (h : Closed body) : Unordered (opening.toList ++ body ++ closing.toList) := by
  have facts : ∀ pair ∈ brackets, ('"' ∉ pair.1.toList ∧ '"' ∉ pair.2.toList) ∧
      pair.1 ∈ fixedTexts ∧
      ∃ n ∈ [0, 1], Text.depth 0 pair.1.toList = some (0 + (n + 1)) ∧
        'Y' ∉ Text.unbracketed 0 pair.1.toList ∧
        'Y' ∉ Text.unbracketed (0 + (n + 1)) pair.2.toList := by
    decide +kernel
  obtain ⟨⟨leftQuotes, rightQuotes⟩, left, n, -, scanned, before, behind⟩ := facts _ pair
  refine ⟨.enclosed (List.mem_cons_of_mem _ pair) h, ?_⟩
  have opened : Text.Quoting Template (Ident.isPart ·) opening.toList :=
    .plain leftQuotes (.of_fixed left)
  have inner := Text.depth_add h.nesting (n + 1)
  rw [Text.outer, (opened.append .append h.quoting).unquoted_append, opened.unquoted_append,
    Text.unquoted_plain leftQuotes, Text.unquoted_plain rightQuotes, List.append_assoc,
    Text.unbracketed_append scanned, Text.unbracketed_append inner,
    Text.unbracketed_inside h.nesting n, List.nil_append, List.mem_append, not_or]
  exact ⟨before, behind⟩

end Unordered

/-- A phrase has no order. -/
theorem Phrase.unordered {label : Ident → Prop} {text : List Char} (h : Phrase label text) :
    Unordered text := by
  have row {w : String} (fixed : w ∈ [" AS ", ".*"]) : Unordered w.toList := by
    have facts : ∀ w ∈ [" AS ", ".*"], w ∈ fixedTexts ∧ '"' ∉ w.toList ∧ '(' ∉ w.toList ∧
        ')' ∉ w.toList ∧ 'Y' ∉ w.toList := by
      decide +kernel
    obtain ⟨text, quotes, opening, closing, absent⟩ := facts w fixed
    exact .plain (.plain (.of_fixed text) quotes opening closing) quotes absent
  induction h with
  | nil => exact .nil
  | append _ _ first second => exact first.append second
  | word fixed => exact .word fixed
  | placeholder n => exact .placeholder n
  | name i => exact .quoted i
  | star i => exact .append (.quoted i) (row (by decide))
  | @labelled i _ => exact .append (row (by decide)) (.quoted i)
  | enclosed pair inner => exact .enclosed pair inner.closed

end Plan

/-! ## The clause of the sort keys -/

namespace Statement

/-- Whether a fragment is written as a text, wherever it is put. -/
def Reads (statement : Statement) (text : String) : Prop :=
  ∀ count, textFrom count statement.parts = text

/-- Fragments that read as texts read as the texts put together. -/
theorem Reads.append {a b : Statement} {text text' : String} (h : a.Reads text)
    (h' : b.Reads text') : (a ++ b).Reads (text ++ text') := by
  intro count
  rw [parts_append, textFrom_append, h, h']

theorem reads_empty : Statement.empty.Reads "" := fun _ => rfl

theorem reads_raw (text : String) : (raw text).Reads text := fun _ => String.append_empty

theorem reads_joined {separator : String} {members : List Statement} {texts : List String}
    (each : List.Forall₂ Reads members texts) :
    (joined separator members).Reads (separator.intercalate texts) := by
  rw [joined]
  induction each with
  | nil => exact reads_empty
  | cons first later ih =>
    cases later with
    | nil =>
      have whole := first.append reads_empty
      rwa [String.append_empty] at whole
    | cons second others =>
      rw [List.intersperse_cons_cons, String.intercalate_cons_cons, String.append_assoc]
      exact first.append ((reads_raw separator).append ih)

end Statement

/-- Whether a text is a sort key in a statement: its column behind an alias, and its direction. -/
def SortKey.WrittenAs (label : String) (key : SortKey) (text : String) : Prop :=
  ∃ i, Ident.column label key.field = .ok i ∧
    text = i.quoted ++ if key.direction = .descending then " DESC" else " ASC"

/-- A sort key is written as its column and its direction. -/
theorem exists_reads_of_sortKey {key : SortKey} {main : String} {statement : Statement}
    (h : key.fragment main = .ok statement) :
    ∃ text, statement.Reads text ∧ key.WrittenAs main text := by
  simp only [SortKey.fragment, columnFragment, Except.bind_eq_ok_iff, Except.pure_eq_ok_iff] at h
  obtain ⟨_, ⟨i, read, rfl⟩, rfl⟩ := h
  have column := Statement.reads_raw i.quoted
  have direction := Statement.reads_raw key.direction.sql
  refine ⟨_, (column.append (Statement.reads_raw " ")).append direction, i, read, ?_⟩
  cases key.direction <;> exact String.append_assoc ..

/-- Sort keys are written one by one. -/
theorem exists_reads_of_sortKeys {keys : List SortKey} {main : String} {sort : List Statement}
    (each : List.Forall₂ (fun key statement => key.fragment main = .ok statement) keys sort) :
    ∃ members, List.Forall₂ Statement.Reads sort members ∧
      List.Forall₂ (SortKey.WrittenAs main) keys members := by
  induction each with
  | nil => exact ⟨[], .nil, .nil⟩
  | cons rendered _ ih =>
    obtain ⟨text, reads, written⟩ := exists_reads_of_sortKey rendered
    obtain ⟨texts, others, others'⟩ := ih
    exact ⟨text :: texts, .cons reads others, .cons written others'⟩

namespace Plan

/-- Whether the order of an inner statement, outside of quotes and brackets, lists some members. -/
inductive OrderedBy (text : String) : List String → Prop where
  | unordered : ¬orderWords <:+: Text.outer text.toList → OrderedBy text []
  /-- The only order is the end of the text, behind a front that leaves no quote or bracket open. -/
  | ordered {front : String} {members : List String} :
    members ≠ [] → text = front ++ " ORDER BY " ++ ", ".intercalate members →
    Closed front.toList → ¬orderWords <:+: Text.outer front.toList →
    ¬orderWords <:+: Text.outer (", ".intercalate members).toList → OrderedBy text members

/-- The order of the inner statement lists the sort keys of the plan. -/
theorem orderedBy_of_selectSql {plan : Plan} {inner : Statement} (h : plan.selectSql = .ok inner) :
    ∃ members, List.Forall₂ (SortKey.WrittenAs plan.label) plan.sort members ∧
      OrderedBy inner.text members := by
  have any : ∀ name ∈ plan.labels, Ident.Known (fun _ => True) name := fun _ _ _ _ => trivial
  obtain ⟨_, rendered, same⟩ := exists_innerFragment h
  obtain ⟨front, sort, phrased, sorted, rfl⟩ := exists_phrased_of_innerFragment any rendered
  have unordered := (phrased 0).unordered
  obtain ⟨members, reads, written⟩ := exists_reads_of_sortKeys (Except.forall₂_of_mapM sorted)
  refine ⟨members, written, ?_⟩
  have text : (front ++ clauseFragment " ORDER BY " ", " sort).text = front.text ++
      textFrom front.placeholders (clauseFragment " ORDER BY " ", " sort).parts := by
    rw [Statement.text, Statement.parts_append, Statement.textFrom_append, Nat.zero_add]
    rfl
  -- the front is phrased and so has no order; the clause brings one if there are members
  rw [same.text, text]
  cases reads with
  | nil =>
    have none : textFrom front.placeholders (clauseFragment " ORDER BY " ", " []).parts = "" := rfl
    rw [none, String.append_empty]
    exact .unordered unordered.orderWords_absent
  | @cons first member rest others one later =>
    have list : (Statement.joined ", " (first :: rest)).Reads
        (", ".intercalate (member :: others)) := Statement.reads_joined (.cons one later)
    have clause := (Statement.reads_raw " ORDER BY ").append list
    -- no member has an order of its own
    have joined : (Statement.joined ", " (first :: rest)).Phrased fun _ => True := by
      refine .joined (by decide) fun fragment mem => ?_
      obtain ⟨key, -, rendered⟩ := Except.exists_of_mem_mapM sorted mem
      exact phrased_sortKey rendered
    have absent := (joined 0).unordered.orderWords_absent
    rw [list] at absent
    rw [clauseFragment, if_neg (by simp), clause, ← String.append_assoc]
    exact .ordered (List.cons_ne_nil _ _) rfl unordered.closed unordered.orderWords_absent
      absent

end Plan

/-! ## Conversions -/

/-- The sort keys of a list are those that are kept of its tokens. -/
theorem Request.sorts_read {scope : Scope} {settings : Settings} {params : RawParams}
    {tokens refused : List String} {kept : List SortKey}
    (tokenized : SortKey.Tokens params.sorting tokens)
    (sorts : scope.main.Sorts tokens kept refused) :
    (Request.read scope settings params .index).sorting = kept := by
  obtain ⟨fields, filters, limits, window, problems, eq⟩ :=
    read_sorted_frame scope settings params .index
  rw [eq]
  show (sorted scope params .index).sorting = kept
  rw [sorted, if_pos rfl, readSorting_of_sorts tokenized sorts]
  exact List.nil_append kept

namespace Converter

/-- Every token of a list of sort keys is kept, refused or blank, and in the statement of a list the
outer order has exactly the keys that are kept, in their order. -/
theorem sorting_accounted :
    (∀ (main : Metadata) (text : String), ∃ tokens kept refused, Text.Joins ',' text tokens ∧
      main.Sorts tokens kept refused ∧
      kept.length + refused.length = (tokens.filter (¬SortKey.Blank ·)).length ∧
      ∀ request : Request,
        request.readSorting main (some text) = request.withSorting kept refused) ∧
      ∀ (converter : Converter) (resourceType : String) (params : RawParams) (id : Option String)
        (conversion : Conversion) (statement : Statement),
        converter.convert resourceType params .index id = .ok conversion →
        conversion.plan.sql = .ok statement →
        ∃ scope tokens refused inner count members, converter.scope resourceType = .ok scope ∧
          SortKey.Tokens params.sorting tokens ∧
          scope.main.Sorts tokens conversion.request.sorting refused ∧
          statement.text = "SELECT row_to_json(t) FROM (" ++ inner ++
            conversion.plan.windowText count ++ ") AS t" ∧
          List.Forall₂ (SortKey.WrittenAs scope.main.name) conversion.request.sorting members ∧
          Plan.OrderedBy inner members := by
  refine ⟨fun main text => ?_, fun converter resourceType params id conversion statement h h' => ?_⟩
  · obtain ⟨tokens, tokenized⟩ := SortKey.exists_tokens (some text)
    obtain ⟨kept, refused, sorts⟩ := main.exists_sorts tokens
    exact ⟨tokens, kept, refused, tokenized, sorts, sorts.length_add,
      Request.readSorting_of_sorts tokenized sorts⟩
  · -- the same kept keys stand in the request, in the plan and in its order
    obtain ⟨scope, found, -, rfl⟩ := convert_eq_ok_iff.1 h
    obtain ⟨tokens, tokenized⟩ := SortKey.exists_tokens params.sorting
    obtain ⟨kept, refused, sorts⟩ := scope.main.exists_sorts tokens
    obtain ⟨inner, rendered, -⟩ := Plan.exists_of_sql h'
    obtain ⟨members, written, ordered⟩ := Plan.orderedBy_of_selectSql rendered
    have sorting : (Request.read scope converter.settings params .index).sorting = kept :=
      Request.sorts_read tokenized sorts
    have sort : (Plan.ofRequest scope (Request.read scope converter.settings params .index)
        id).sort = kept :=
      (if_pos (Request.read_action scope converter.settings params .index)).trans sorting
    rw [sort] at written
    refine ⟨scope, tokens, refused, inner.text, inner.placeholders, members, found, tokenized, ?_,
      Plan.text_of_sql rendered h', ?_, ordered⟩
    · rw [sorting]
      exact sorts
    · rw [sorting]
      exact written

/-- A field kept twice, once with blanks around it, two fields refused and a token without any. -/
theorem sorting_accounted_blog :
    let params := { Example.everything with sorting := some "-title,secret,, title ,+,-\tid" }
    let kept : List SortKey := [⟨"title", .descending⟩, ⟨"title", .ascending⟩]
    ∃ conversion statement, Example.strict.convert "Post" params .index none = .ok conversion ∧
      conversion.plan.sql = .ok statement ∧ conversion.request.sorting = kept ∧
      ∃ inner count members, statement.text = "SELECT row_to_json(t) FROM (" ++ inner ++
          conversion.plan.windowText count ++ ") AS t" ∧
        List.Forall₂ (SortKey.WrittenAs "post") kept members ∧ Plan.OrderedBy inner members := by
  intro params kept
  obtain ⟨conversion, converted⟩ : ∃ conversion,
      Example.strict.convert "Post" params .index none = .ok conversion := ⟨_, rfl⟩
  obtain ⟨statement, rendered⟩ : ∃ statement, conversion.plan.sql = .ok statement := by
    rw [conversion.plan.exists_sql_iff]
    cases converted
    decide +kernel
  have sorting : conversion.request.sorting = kept := by
    cases converted
    decide +kernel
  obtain ⟨scope, tokens, refused, inner, count, members, found, -, -, text, written, ordered⟩ :=
    sorting_accounted.2 _ _ _ _ _ _ converted rendered
  have name : scope.main.name = "post" := by
    cases found
    rfl
  rw [name, sorting] at written
  exact ⟨conversion, statement, converted, rendered, sorting, inner, count, members, text, written,
    ordered⟩

end Converter

end Retrieval
