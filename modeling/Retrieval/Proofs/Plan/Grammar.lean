import Retrieval.Proofs.Plan.Fragments
import Retrieval.Proofs.Text.Placeholders

/-!
# The language of statements

Whatever texts a plan holds, a statement that is written for it is a sentence of one small language
(`Plan.Sentence`): words that are fixed here, placeholders, identifiers in quotes, names behind
`AS`, and sentences between an opening and a closing. Every renderer is gone through once, up to
`Plan.sentence_of_sql`; what is true of the texts of statements is then shown by induction on the
sentence.

All of it but an order is a `Plan.Phrase`: a sentence in which an order stands in brackets only. So
the statement of a plan has an order of its own only where its sort keys are written
(`Plan.exists_phrased_of_innerFragment`).

The names behind `AS` are those of `Plan.labels`. What is asked of them is left open, so that one
can say more of the sentence where one knows more of the names.
-/

namespace Retrieval

open Statement (raw ident bound textFrom)

namespace Plan

/-- The fixed words of statements. -/
def words : List String :=
  ["SELECT ", " FROM ", " INNER JOIN ", " ON ", " WHERE ", " AND ", " OR ", " ORDER BY ", " LIMIT ",
    " LIMIT 1", " OFFSET ", ", ", " ", " = ", "::text = ", "ASC", "DESC"]
    ++ Filter.Op.all.map (·.sql)

/-- The openings of inner sentences with their closings. -/
def brackets : List (String × String) :=
  [("(", ")"), ("EXISTS (SELECT 1 FROM ", ")"),
    ("(SELECT row_to_json(r) FROM (SELECT ", ") AS r)"),
    ("(SELECT COALESCE(json_agg(r), '[]'::json) FROM (SELECT ", ") AS r)")]

/-- The opening and the closing of a whole statement. -/
def outermost : String × String := ("SELECT row_to_json(t) FROM (", ") AS t")

/-- The texts of statements, given what is known of the names behind `AS`. -/
inductive Sentence (label : Ident → Prop) : List Char → Prop where
  | nil : Sentence label []
  | append {a b : List Char} (first : Sentence label a) (second : Sentence label b) :
    Sentence label (a ++ b)
  | word {w : String} (fixed : w ∈ words) : Sentence label w.toList
  | placeholder (n : Nat) : Sentence label ('$' :: (toString n).toList)
  | name (i : Ident) : Sentence label i.quoted.toList
  | star (i : Ident) : Sentence label (i.quoted.toList ++ ".*".toList)
  | labelled {i : Ident} (known : label i) : Sentence label (" AS ".toList ++ i.quoted.toList)
  | enclosed {opening closing : String} {body : List Char}
    (pair : (opening, closing) ∈ brackets) (inner : Sentence label body) :
    Sentence label (opening.toList ++ body ++ closing.toList)

/-- The words other than those that begin an order. -/
def plainWords : List String := words.filter (· ≠ " ORDER BY ")

/-- The sentences that have no order but in brackets. -/
inductive Phrase (label : Ident → Prop) : List Char → Prop where
  | nil : Phrase label []
  | append {a b : List Char} (first : Phrase label a) (second : Phrase label b) :
    Phrase label (a ++ b)
  | word {w : String} (fixed : w ∈ plainWords) : Phrase label w.toList
  | placeholder (n : Nat) : Phrase label ('$' :: (toString n).toList)
  | name (i : Ident) : Phrase label i.quoted.toList
  | star (i : Ident) : Phrase label (i.quoted.toList ++ ".*".toList)
  | labelled {i : Ident} (known : label i) : Phrase label (" AS ".toList ++ i.quoted.toList)
  | enclosed {opening closing : String} {body : List Char}
    (pair : (opening, closing) ∈ brackets) (inner : Sentence label body) :
    Phrase label (opening.toList ++ body ++ closing.toList)

/-- Every phrase is a sentence. -/
theorem Phrase.sentence {label : Ident → Prop} {text : List Char} (h : Phrase label text) :
    Sentence label text := by
  induction h with
  | nil => exact .nil
  | append _ _ first second => exact first.append second
  | word fixed => exact .word (List.mem_filter.1 fixed).1
  | placeholder n => exact .placeholder n
  | name i => exact .name i
  | star i => exact .star i
  | labelled known => exact .labelled known
  | enclosed pair inner => exact .enclosed pair inner

/-- A placeholder has no characters but its sign and digits. -/
theorem not_mem_placeholder {n : Nat} {c : Char} (sign : c ≠ '$') (digit : c.isDigit = false) :
    c ∉ '$' :: (toString n).toList := by
  rw [List.mem_cons, not_or]
  refine ⟨sign, fun mem => ?_⟩
  rw [Statement.isDigit_of_mem_numeral mem] at digit
  exact Bool.noConfusion digit

/-- The names that stand behind `AS` in the statement of a plan. -/
def labels (plan : Plan) : List String :=
  plan.label :: plan.eager.map (·.relation) ++ plan.predicates.flatMap fun
    | .filter _ => []
    | .related relation .. => [relation]

end Plan

namespace Statement

/-- Whether the text of a fragment has a property, wherever the fragment is put. -/
def Everywhere (P : List Char → Prop) (statement : Statement) : Prop :=
  ∀ count, P (textFrom count statement.parts).toList

/-- Whether the text of a fragment is a sentence, wherever the fragment is put. -/
def Spoken (label : Ident → Prop) (statement : Statement) : Prop :=
  ∀ count, Plan.Sentence label (textFrom count statement.parts).toList

/-- Whether the text of a fragment is a phrase, wherever the fragment is put. -/
def Phrased (label : Ident → Prop) (statement : Statement) : Prop :=
  statement.Everywhere (Plan.Phrase label)

variable {label : Ident → Prop} {a b body : Statement}

theorem toList_raw (count : Nat) (text : String) :
    (textFrom count (raw text).parts).toList = text.toList := by
  rw [raw, textFrom, textFrom, String.append_empty]

/-- The numbers of placeholders go on behind the first fragment. -/
theorem toList_append (count : Nat) (a b : Statement) :
    (textFrom count (a ++ b).parts).toList = (textFrom count a.parts).toList ++
      (textFrom (count + a.placeholders) b.parts).toList := by
  rw [parts_append, textFrom_append, String.toList_append]
  rfl

theorem toList_bound (count : Nat) (param : Param) :
    (textFrom count (bound param).parts).toList = '$' :: (toString (count + 1)).toList := by
  have sign : toString "$" = "$" := rfl
  simp [bound, textFrom, sign]

/-! ### Properties of texts put together -/

namespace Everywhere

variable {P : List Char → Prop}

theorem raw {text : String} (h : P text.toList) : Everywhere P (raw text) := by
  intro count
  rw [toList_raw]
  exact h

/-- A property closed under putting texts together passes to fragments put together. -/
theorem append (closed : ∀ {a b}, P a → P b → P (a ++ b)) (h : Everywhere P a)
    (h' : Everywhere P b) : Everywhere P (a ++ b) := by
  intro count
  rw [toList_append]
  exact closed (h _) (h' _)

theorem foldr (nil : P []) (closed : ∀ {a b}, P a → P b → P (a ++ b))
    {fragments : List Statement} (each : ∀ fragment ∈ fragments, Everywhere P fragment) :
    Everywhere P (fragments.foldr (· ++ ·) Statement.empty) := by
  induction fragments with
  | nil => exact fun _ => nil
  | cons fragment rest ih =>
    obtain ⟨first, later⟩ := List.forall_mem_cons.1 each
    exact append closed first (ih later)

theorem joined (nil : P []) (closed : ∀ {a b}, P a → P b → P (a ++ b)) {separator : String}
    (fixed : P separator.toList) {fragments : List Statement}
    (each : ∀ fragment ∈ fragments, Everywhere P fragment) :
    Everywhere P (joined separator fragments) := by
  refine foldr nil closed ?_
  induction fragments with
  | nil => simp
  | cons fragment rest ih =>
    obtain ⟨first, later⟩ := List.forall_mem_cons.1 each
    cases rest with
    | nil => simpa using first
    | cons next rest =>
      rw [List.intersperse_cons_cons]
      exact List.forall_mem_cons.2 ⟨first, List.forall_mem_cons.2 ⟨raw fixed, ih later⟩⟩

/-- A clause has the property if its words and members have it. -/
theorem clauseFragment (nil : P []) (closed : ∀ {a b}, P a → P b → P (a ++ b))
    {opening separator : String} (fixed : P opening.toList) (fixed' : P separator.toList)
    {members : List Statement} (each : ∀ member ∈ members, Everywhere P member) :
    Everywhere P (clauseFragment opening separator members) := by
  unfold Retrieval.clauseFragment
  split
  · exact fun _ => nil
  · exact append closed (raw fixed) (joined nil closed fixed' each)

end Everywhere

namespace Phrased

theorem empty : Phrased label .empty := fun _ => .nil

theorem append (h : a.Phrased label) (h' : b.Phrased label) : (a ++ b).Phrased label :=
  Everywhere.append .append h h'

theorem word {w : String} (fixed : w ∈ Plan.plainWords) : (raw w).Phrased label :=
  Everywhere.raw (.word fixed)

theorem ident (i : Ident) : (ident i).Phrased label := Everywhere.raw (.name i)

theorem bound (param : Param) : (bound param).Phrased label := by
  intro count
  rw [toList_bound]
  exact .placeholder (count + 1)

theorem star (i : Ident) : (Statement.ident i ++ raw ".*").Phrased label := by
  intro count
  rw [toList_append, toList_raw, Statement.ident, toList_raw]
  exact .star i

/-- A name may be given if it is one of the labels. -/
theorem labelled {i : Ident} (known : label i) :
    (raw " AS " ++ Statement.ident i).Phrased label := by
  intro count
  rw [toList_append, toList_raw, Statement.ident, toList_raw]
  exact .labelled known

/-- What is enclosed need not be a phrase itself. -/
theorem enclosed {opening closing : String} (pair : (opening, closing) ∈ Plan.brackets)
    (inner : body.Spoken label) : (raw opening ++ body ++ raw closing).Phrased label := by
  intro count
  rw [toList_append, toList_append, toList_raw, toList_raw]
  exact .enclosed pair (inner _)

/-- A sentence whose rows are labelled, and which is given a name itself. The closing ends before
the last `AS`, which belongs to the name. -/
theorem nested {opening : String} {i : Ident} (pair : (opening, ") AS r)") ∈ Plan.brackets)
    (inner : body.Spoken label) (known : label i) :
    (raw opening ++ body ++ raw ") AS r) AS " ++ Statement.ident i).Phrased label := by
  intro count
  have cut : ") AS r) AS ".toList = ") AS r)".toList ++ " AS ".toList := by decide
  rw [toList_append, toList_append, toList_append, toList_raw, toList_raw, Statement.ident,
    toList_raw, cut, ← List.append_assoc, List.append_assoc _ " AS ".toList]
  exact .append (.enclosed pair (inner _)) (.labelled known)

theorem foldr {fragments : List Statement}
    (each : ∀ fragment ∈ fragments, fragment.Phrased label) :
    (fragments.foldr (· ++ ·) Statement.empty).Phrased label :=
  Everywhere.foldr .nil .append each

theorem joined {separator : String} (fixed : separator ∈ Plan.plainWords)
    {fragments : List Statement} (each : ∀ fragment ∈ fragments, fragment.Phrased label) :
    (joined separator fragments).Phrased label :=
  Everywhere.joined .nil .append (.word fixed) each

theorem clauseFragment {opening separator : String} (fixed : opening ∈ Plan.plainWords)
    (fixed' : separator ∈ Plan.plainWords) {members : List Statement}
    (each : ∀ member ∈ members, member.Phrased label) :
    (clauseFragment opening separator members).Phrased label :=
  Everywhere.clauseFragment .nil .append (.word fixed) (.word fixed') each

/-- Every phrased fragment is spoken. -/
theorem spoken (h : a.Phrased label) : a.Spoken label := fun count => (h count).sentence

end Phrased

namespace Spoken

theorem append (h : a.Spoken label) (h' : b.Spoken label) : (a ++ b).Spoken label :=
  Everywhere.append .append h h'

theorem word {w : String} (fixed : w ∈ Plan.words) : (raw w).Spoken label :=
  Everywhere.raw (.word fixed)

theorem clauseFragment {opening separator : String} (fixed : opening ∈ Plan.words)
    (fixed' : separator ∈ Plan.words) {members : List Statement}
    (each : ∀ member ∈ members, member.Spoken label) :
    (clauseFragment opening separator members).Spoken label :=
  Everywhere.clauseFragment .nil .append (.word fixed) (.word fixed') each

end Spoken

end Statement

/-! ## Every renderer -/

open Statement (Phrased Spoken)

variable {label : Ident → Prop}

theorem phrased_columnFragment {qualifier column : String} {statement : Statement}
    (h : columnFragment qualifier column = .ok statement) : statement.Phrased label := by
  simp only [columnFragment, Except.bind_eq_ok_iff, Except.pure_eq_ok_iff] at h
  obtain ⟨i, -, rfl⟩ := h
  exact .ident i

theorem phrased_projectedFragment {qualifier column : String} {statement : Statement}
    (h : projectedFragment qualifier column = .ok statement) : statement.Phrased label := by
  unfold projectedFragment at h
  split at h
  case isTrue =>
    simp only [Except.bind_eq_ok_iff, Except.pure_eq_ok_iff] at h
    obtain ⟨i, -, rfl⟩ := h
    exact .star i
  case isFalse => exact phrased_columnFragment h

theorem phrased_projectionFragment {qualifier : String} {columns : FieldSet} {statement : Statement}
    (h : projectionFragment qualifier columns = .ok statement) : statement.Phrased label := by
  simp only [projectionFragment, Except.bind_eq_ok_iff, Except.pure_eq_ok_iff] at h
  obtain ⟨fragments, each, rfl⟩ := h
  refine .joined (by decide) fun fragment mem => ?_
  obtain ⟨column, -, rendered⟩ := Except.exists_of_mem_mapM each mem
  exact phrased_projectedFragment rendered

/-- Whether a name stands for a known identifier, if for any. -/
def Ident.Known (label : Ident → Prop) (name : String) : Prop :=
  ∀ i, Ident.get name = .ok i → label i

/-- The one name that a table gives is the label. -/
theorem phrased_tableFragment {table name : String} {statement : Statement}
    (known : Ident.Known label name) (h : tableFragment table name = .ok statement) :
    statement.Phrased label := by
  simp only [tableFragment, Except.bind_eq_ok_iff, Except.pure_eq_ok_iff] at h
  obtain ⟨t, -, i, parsed, rfl⟩ := h
  rw [Statement.append_assoc]
  exact .append (.ident t) (.labelled (known i parsed))

theorem phrased_sourceFragment {correlation : Correlation} {table relation : String}
    {statement : Statement} (known : Ident.Known label relation)
    (h : correlation.sourceFragment table relation = .ok statement) : statement.Phrased label := by
  simp only [Correlation.sourceFragment, Except.bind_eq_ok_iff] at h
  obtain ⟨related, rendered, h⟩ := h
  have source := phrased_tableFragment known rendered
  cases correlation with
  | toOne | toMany => exact Except.pure_eq_ok_iff.1 h ▸ source
  | manyToMany =>
    simp only [Except.bind_eq_ok_iff, Except.pure_eq_ok_iff] at h
    obtain ⟨pivot, -, left, leftRendered, right, rightRendered, rfl⟩ := h
    have joined : (related ++ raw " INNER JOIN " ++ ident pivot).Phrased label :=
      .append (.append source (.word (by decide))) (.ident pivot)
    have on : (related ++ raw " INNER JOIN " ++ ident pivot ++ raw " ON " ++ left).Phrased label :=
      .append (.append joined (.word (by decide))) (phrased_columnFragment leftRendered)
    exact .append (.append on (.word (by decide))) (phrased_columnFragment rightRendered)

theorem phrased_conditionFragment {correlation : Correlation} {main relation : String}
    {statement : Statement} (h : correlation.conditionFragment main relation = .ok statement) :
    statement.Phrased label := by
  cases correlation with
  | toOne | toMany | manyToMany =>
    simp only [Correlation.conditionFragment, Except.bind_eq_ok_iff, Except.pure_eq_ok_iff] at h
    obtain ⟨left, leftRendered, right, rightRendered, rfl⟩ := h
    exact .append (.append (phrased_columnFragment leftRendered) (.word (by decide)))
      (phrased_columnFragment rightRendered)

theorem phrased_limitFragment (limit : Option UInt64) : (limitFragment limit).Phrased label := by
  cases limit with
  | none => exact .empty
  | some => exact .append (.word (by decide)) (.bound _)

/-- Several related rows have an order, so this is the one renderer that writes no phrase. -/
theorem spoken_orderFragment {load : EagerLoad} {statement : Statement}
    (h : load.orderFragment = .ok statement) : statement.Spoken label := by
  unfold EagerLoad.orderFragment at h
  split at h
  · obtain rfl := Except.pure_eq_ok_iff.1 h
    exact .word (by decide)
  · simp only [Except.bind_eq_ok_iff, Except.pure_eq_ok_iff] at h
    obtain ⟨key, rendered, rfl⟩ := h
    exact .append (.append (.word (by decide)) (phrased_columnFragment rendered).spoken)
      (phrased_limitFragment load.limit).spoken

theorem phrased_eagerLoad {load : EagerLoad} {main : String} {statement : Statement}
    (known : Ident.Known label load.relation) (h : load.fragment main = .ok statement) :
    statement.Phrased label := by
  simp only [EagerLoad.fragment, Except.bind_eq_ok_iff, Except.pure_eq_ok_iff] at h
  obtain ⟨columns, projected, source, sourced, condition, conditioned, order, ordered, i, parsed,
    rfl⟩ := h
  -- the sentence between the brackets: columns, source, condition and order
  have pair : (load.opening, ") AS r)") ∈ Plan.brackets := by
    unfold EagerLoad.opening
    split <;> decide
  have selected : (columns ++ raw " FROM " ++ source).Phrased label :=
    .append (.append (phrased_projectionFragment projected) (.word (by decide)))
      (phrased_sourceFragment known sourced)
  have filtered : (columns ++ raw " FROM " ++ source ++ raw " WHERE " ++ condition).Phrased label :=
    .append (.append selected (.word (by decide))) (phrased_conditionFragment conditioned)
  have whole := Phrased.nested pair (filtered.spoken.append (spoken_orderFragment ordered))
    (known i parsed)
  simp only [Statement.append_assoc] at whole ⊢
  exact whole

theorem phrased_filter {filter : Filter} {qualifier : String} {statement : Statement}
    (h : filter.fragment qualifier = .ok statement) : statement.Phrased label := by
  simp only [Filter.fragment, Except.bind_eq_ok_iff, Except.pure_eq_ok_iff] at h
  obtain ⟨column, rendered, rfl⟩ := h
  have op : filter.op.sql ∈ Plan.plainWords := by
    cases filter.op <;> decide
  have compared : (column ++ raw " " ++ raw filter.op.sql).Phrased label :=
    .append (.append (phrased_columnFragment rendered) (.word (by decide))) (.word op)
  cases filter.value with
  | none => exact compared.append .empty
  | some value => exact compared.append (.append (.word (by decide)) (.bound _))

/-- The one name that a condition gives is that of its relation. -/
theorem phrased_predicate {predicate : Predicate} {main : String} {statement : Statement}
    (known : ∀ relation table correlation filters,
      predicate = .related relation table correlation filters → Ident.Known label relation)
    (h : predicate.fragment main = .ok statement) : statement.Phrased label := by
  cases predicate with
  | filter f => exact phrased_filter h
  | related relation table correlation filters =>
    simp only [Predicate.fragment, Except.bind_eq_ok_iff, Except.pure_eq_ok_iff] at h
    obtain ⟨source, sourced, condition, conditioned, rest, each, rfl⟩ := h
    have others : (rest.foldr (· ++ ·) Statement.empty).Phrased label := by
      refine .foldr fun fragment mem => ?_
      obtain ⟨f, -, rendered⟩ := Except.exists_of_mem_mapM each mem
      simp only [Except.bind_eq_ok_iff, Except.pure_eq_ok_iff] at rendered
      obtain ⟨inner, rendered, rfl⟩ := rendered
      exact .append (.word (by decide)) (phrased_filter rendered)
    have tied : (source ++ raw " WHERE " ++ condition).Phrased label :=
      .append (.append (phrased_sourceFragment (known _ _ _ _ rfl) sourced) (.word (by decide)))
        (phrased_conditionFragment conditioned)
    have pair : ("EXISTS (SELECT 1 FROM ", ")") ∈ Plan.brackets := by decide
    have whole := Phrased.enclosed pair (tied.append others).spoken
    simp only [Statement.append_assoc] at whole ⊢
    exact whole

theorem phrased_lookup {lookup : Lookup} {main : String} {statement : Statement}
    (h : lookup.fragment main = .ok statement) : statement.Phrased label := by
  cases lookup with
  | primary key value =>
    simp only [Lookup.fragment, Except.bind_eq_ok_iff, Except.pure_eq_ok_iff] at h
    obtain ⟨column, rendered, rfl⟩ := h
    exact .append (.append (phrased_columnFragment rendered) (.word (by decide))) (.bound _)
  | primaryOrAlternate key alternate value =>
    simp only [Lookup.fragment, Except.bind_eq_ok_iff, Except.pure_eq_ok_iff] at h
    obtain ⟨column, rendered, other, otherRendered, rfl⟩ := h
    have left : (column ++ raw "::text = " ++ bound (.text value)).Phrased label :=
      .append (.append (phrased_columnFragment rendered) (.word (by decide))) (.bound _)
    have right : (other ++ raw " = " ++ bound (.text value)).Phrased label :=
      .append (.append (phrased_columnFragment otherRendered) (.word (by decide))) (.bound _)
    have body : (column ++ raw "::text = " ++ bound (.text value) ++ raw " OR " ++
        (other ++ raw " = " ++ bound (.text value))).Phrased label :=
      .append (.append left (.word (by decide))) right
    have pair : ("(", ")") ∈ Plan.brackets := by decide
    have whole := Phrased.enclosed pair body.spoken
    simp only [Statement.append_assoc] at whole ⊢
    exact whole

theorem phrased_sortKey {key : SortKey} {main : String} {statement : Statement}
    (h : key.fragment main = .ok statement) : statement.Phrased label := by
  simp only [SortKey.fragment, Except.bind_eq_ok_iff, Except.pure_eq_ok_iff] at h
  obtain ⟨column, rendered, rfl⟩ := h
  have direction : key.direction.sql ∈ Plan.plainWords := by
    cases key.direction <;> decide
  exact .append (.append (phrased_columnFragment rendered) (.word (by decide))) (.word direction)

namespace Plan

variable {plan : Plan} {statement : Statement}

/-- A relation that is loaded gives its name to a table. -/
theorem relation_mem_labels {load : EagerLoad} (mem : load ∈ plan.eager) :
    load.relation ∈ plan.labels :=
  List.mem_append_left _ (List.mem_cons_of_mem _ (List.mem_map_of_mem mem))

/-- A relation in a condition gives its name to a table. -/
theorem related_mem_labels {relation table : String} {correlation : Correlation}
    {filters : List Filter} (mem : .related relation table correlation filters ∈ plan.predicates) :
    relation ∈ plan.labels :=
  List.mem_append_right _ (List.mem_flatMap.2 ⟨_, mem, List.mem_cons_self⟩)

theorem phrased_boundsFragment (plan : Plan) : plan.boundsFragment.Phrased label := by
  unfold boundsFragment
  split
  · exact .word (by decide)
  · cases plan.window with
    | none => exact .empty
    | some window =>
      have limit : (raw " LIMIT " ++ bound (boundCount window.lookahead)).Phrased label :=
        .append (.word (by decide)) (.bound _)
      exact .append (.append limit (.word (by decide))) (.bound _)

/-- The inner statement is a phrase with the clause of the sort keys behind it. -/
theorem exists_phrased_of_innerFragment (known : ∀ name ∈ plan.labels, Ident.Known label name)
    (h : plan.innerFragment = .ok statement) : ∃ front sort, front.Phrased label ∧
      plan.sort.mapM (·.fragment plan.label) = .ok sort ∧
        statement = front ++ clauseFragment " ORDER BY " ", " sort := by
  simp only [innerFragment, Except.bind_eq_ok_iff, Except.pure_eq_ok_iff] at h
  obtain ⟨columns, projected, eager, loaded, table, rendered, lookup, found, predicates,
    conditioned, sort, sorted, rfl⟩ := h
  refine ⟨_, sort, ?_, sorted, rfl⟩
  -- the two parts that are put together of lists
  have related : (eager.foldr (· ++ ·) Statement.empty).Phrased label := by
    refine .foldr fun fragment mem => ?_
    obtain ⟨load, inPlan, h⟩ := Except.exists_of_mem_mapM loaded mem
    simp only [Except.bind_eq_ok_iff, Except.pure_eq_ok_iff] at h
    obtain ⟨inner, rendered, rfl⟩ := h
    have named := known _ (relation_mem_labels inPlan)
    exact .append (.word (by decide)) (phrased_eagerLoad named rendered)
  have conditions : ∀ member ∈ lookup ++ predicates, member.Phrased label := by
    intro member mem
    rcases List.mem_append.1 mem with mem | mem
    · obtain ⟨l, -, rendered⟩ := Except.exists_of_mem_mapM found mem
      exact phrased_lookup rendered
    · obtain ⟨predicate, inPlan, rendered⟩ := Except.exists_of_mem_mapM conditioned mem
      refine phrased_predicate ?_ rendered
      rintro relation table correlation filters rfl
      exact known relation (related_mem_labels inPlan)
  have selected :
      (raw "SELECT " ++ columns ++ eager.foldr (· ++ ·) Statement.empty).Phrased label :=
    .append (.append (.word (by decide)) (phrased_projectionFragment projected)) related
  have main : Ident.Known label plan.label := known _ List.mem_cons_self
  have source : (raw "SELECT " ++ columns ++ eager.foldr (· ++ ·) Statement.empty ++ raw " FROM "
      ++ table).Phrased label :=
    .append (.append selected (.word (by decide))) (phrased_tableFragment main rendered)
  exact source.append (.clauseFragment (by decide) (by decide) conditions)

/-- A plan whose labels are known is written as a sentence. -/
theorem spoken_innerFragment (known : ∀ name ∈ plan.labels, Ident.Known label name)
    (h : plan.innerFragment = .ok statement) : statement.Spoken label := by
  obtain ⟨front, sort, phrased, sorted, rfl⟩ := exists_phrased_of_innerFragment known h
  refine phrased.spoken.append (.clauseFragment (by decide) (by decide) fun member mem => ?_)
  obtain ⟨key, -, rendered⟩ := Except.exists_of_mem_mapM sorted mem
  exact (phrased_sortKey rendered).spoken

/-- The text of every statement is a sentence between the outermost opening and closing. -/
theorem sentence_of_sql (known : ∀ name ∈ plan.labels, Ident.Known label name)
    (h : plan.sql = .ok statement) : ∃ body, Sentence label body ∧
      statement.text.toList = outermost.1.toList ++ body ++ outermost.2.toList := by
  obtain ⟨_, enclosed, same⟩ := exists_fragment h
  obtain ⟨inner, rendered, rfl⟩ := fragment_eq_ok_iff.1 enclosed
  have body := (spoken_innerFragment known rendered).append (phrased_boundsFragment plan).spoken
  refine ⟨_, body 0, ?_⟩
  have assoc (o c : Statement) : o ++ inner ++ plan.boundsFragment ++ c =
      o ++ (inner ++ plan.boundsFragment) ++ c := by
    rw [Statement.append_assoc o inner]
  rw [same.text, Statement.text, assoc, Statement.toList_append, Statement.toList_append,
    Statement.toList_raw, Statement.toList_raw]
  rfl

/-- So is the text of the inner statement. -/
theorem sentence_of_selectSql (known : ∀ name ∈ plan.labels, Ident.Known label name)
    (h : plan.selectSql = .ok statement) : Sentence label statement.text.toList := by
  obtain ⟨inner, rendered, same⟩ := exists_innerFragment h
  rw [same.text]
  exact spoken_innerFragment known rendered 0

end Plan

end Retrieval
