import Retrieval.Proofs.Plan.Binding

/-!
# Literals stay out of the text

A plan holds literals that clients choose freely: the values of filters, the key of a single row,
the limits of related rows and the page. They are bound and never written, so two plans that differ
in nothing else have the same text or fail with the same error (`Plan.sameText_of_masked_eq`).

Each literal is masked by a fixed one (`Plan.masked`), and every renderer writes a masked part as it
writes the part itself. Whether there is a literal at all is not masked, because that shows in the
text.
-/

namespace Retrieval

open Except (Agree)
open Statement (raw ident bound)

/-! ## Masked plans -/

/-- A filter with its value masked. -/
def Filter.masked (filter : Filter) : Filter :=
  { filter with value := filter.value.map fun _ => "" }

/-- Related rows to load with their limit masked. -/
def EagerLoad.masked (load : EagerLoad) : EagerLoad :=
  { load with limit := load.limit.map fun _ => 0 }

/-- A condition with the values of its filters masked. -/
def Predicate.masked : Predicate → Predicate
  | .filter f => .filter f.masked
  | .related relation table correlation filters =>
    .related relation table correlation (filters.map Filter.masked)

/-- A lookup with its value masked. -/
def Lookup.masked : Lookup → Lookup
  | .primary key _ => .primary key ""
  | .primaryOrAlternate key alternate _ => .primaryOrAlternate key alternate ""

/-- A plan with every literal masked. -/
def Plan.masked (plan : Plan) : Plan :=
  { plan with
    eager := plan.eager.map EagerLoad.masked
    predicates := plan.predicates.map Predicate.masked
    lookup := plan.lookup.map Lookup.masked
    window := plan.window.map fun _ => ⟨0, 0⟩ }

/-! ## Statements with the same text -/

namespace Statement

/-- Whether two fragments are written alike and bind as many values. -/
structure SameText (a b : Statement) : Prop where
  parts : a.parts = b.parts
  values : a.params.length = b.params.length

namespace SameText

variable {a b c d : Statement}

theorem refl (a : Statement) : SameText a a := ⟨rfl, rfl⟩

/-- Having the same text is an equivalence. -/
theorem equivalence : Equivalence SameText where
  refl := refl
  symm h := ⟨h.parts.symm, h.values.symm⟩
  trans h h' := ⟨h.parts.trans h'.parts, h.values.trans h'.values⟩

/-- Fragments with the same texts have the same text together. -/
theorem append (h : SameText a b) (h' : SameText c d) : SameText (a ++ c) (b ++ d) where
  parts := by rw [parts_append, parts_append, h.parts, h'.parts]
  values := by rw [params_append, params_append, List.length_append, List.length_append, h.values,
    h'.values]

/-- Fragments behind the same beginning. -/
theorem behind (a : Statement) (h : SameText b c) : SameText (a ++ b) (a ++ c) := (refl a).append h

/-- Fragments before the same ending. -/
theorem before (h : SameText a b) (c : Statement) : SameText (a ++ c) (b ++ c) := h.append (refl c)

/-- A value is bound and not written. -/
theorem bound (param other : Param) : SameText (bound param) (bound other) := ⟨rfl, rfl⟩

theorem foldr {fragments others : List Statement} (h : List.Forall₂ SameText fragments others) :
    SameText (fragments.foldr (· ++ ·) Statement.empty)
      (others.foldr (· ++ ·) Statement.empty) := by
  induction h with
  | nil => exact refl Statement.empty
  | cons first _ ih => exact first.append ih

theorem joined (separator : String) {fragments others : List Statement}
    (h : List.Forall₂ SameText fragments others) :
    SameText (joined separator fragments) (joined separator others) := by
  induction h with
  | nil => exact refl _
  | cons first later ih =>
    cases later with
    | nil => exact first.append (refl _)
    | cons => exact first.append (ih.behind (raw separator))

theorem clauseFragment (opening separator : String) {members others : List Statement}
    (h : List.Forall₂ SameText members others) :
    SameText (clauseFragment opening separator members) (clauseFragment opening separator others) := by
  cases h with
  | nil => exact refl _
  | cons first later => exact (joined separator (.cons first later)).behind (raw opening)

/-- The text is a matter of the parts alone. -/
theorem text (h : SameText a b) : a.text = b.text := by rw [Statement.text, h.parts]; rfl

end SameText

end Statement

/-! ## Every renderer -/

open Statement (SameText)

/-- A filter has a value or none, and only the value is masked. -/
theorem sameText_filter (filter : Filter) (label : String) :
    Agree SameText (filter.fragment label) (filter.masked.fragment label) := by
  obtain ⟨field, op, value⟩ := filter
  refine .step fun column => .pure ?_
  apply SameText.behind
  cases value with
  | none => exact .refl _
  | some value => exact .behind _ (.bound _ _)

theorem sameText_predicate (predicate : Predicate) (main : String) :
    Agree SameText (predicate.fragment main) (predicate.masked.fragment main) := by
  cases predicate with
  | filter f => exact sameText_filter f main
  | related relation table correlation filters =>
    have each (f : Filter) : Agree SameText (do return raw " AND " ++ (← f.fragment relation))
        (do return raw " AND " ++ (← f.masked.fragment relation)) :=
      (sameText_filter f relation).bind fun _ _ same => .pure (same.behind (raw " AND "))
    refine .step fun source => .step fun condition => ?_
    refine (Agree.mapM each filters).bind fun rest rest' same => .pure ?_
    exact ((SameText.foldr same).behind _).before (raw ")")

/-- The key of a lookup is bound, so that masking leaves the text. -/
theorem sameText_lookup (lookup : Lookup) (main : String) :
    Agree SameText (lookup.fragment main) (lookup.masked.fragment main) := by
  cases lookup with
  | primary key value => exact .step fun column => .pure (.behind _ (.bound _ _))
  | primaryOrAlternate key alternate value =>
    refine .step fun column => .step fun other => .pure ?_
    have first : SameText (raw "(" ++ column ++ raw "::text = " ++ bound (.text value))
        (raw "(" ++ column ++ raw "::text = " ++ bound (.text "")) := .behind _ (.bound _ _)
    have compared := ((first.before (raw " OR ")).before other).before (raw " = ")
    exact (compared.append (.bound _ _)).before (raw ")")

theorem sameText_orderFragment (load : EagerLoad) :
    Agree SameText load.orderFragment load.masked.orderFragment := by
  unfold EagerLoad.orderFragment
  rw [EagerLoad.masked]
  split
  · exact .pure (.refl _)
  · refine .step fun key => .pure (.behind _ ?_)
    cases load.limit with
    | none => exact .refl _
    | some limit => exact .behind _ (.bound _ _)

theorem sameText_eagerLoad (load : EagerLoad) (main : String) :
    Agree SameText (load.fragment main) (load.masked.fragment main) := by
  rw [EagerLoad.fragment, EagerLoad.fragment]
  refine .step fun columns => .step fun source => .step fun condition => ?_
  refine .bind (sameText_orderFragment load) fun order order' same => .step fun i => .pure ?_
  exact ((same.behind _).before (raw ") AS r) AS ")).before (ident i)

namespace Plan

/-- Masking leaves the text of the inner fragment. -/
theorem sameText_innerFragment (plan : Plan) :
    Agree SameText plan.innerFragment plan.masked.innerFragment := by
  have load (load : EagerLoad) : Agree SameText (do return raw ", " ++ (← load.fragment plan.label))
      (do return raw ", " ++ (← load.masked.fragment plan.label)) :=
    (sameText_eagerLoad load plan.label).bind fun _ _ same => .pure (same.behind (raw ", "))
  have lookup (lookup : Lookup) := sameText_lookup lookup plan.label
  have predicate (predicate : Predicate) := sameText_predicate predicate plan.label
  have lookups : plan.masked.lookup.toList = plan.lookup.toList.map Lookup.masked := by
    show (plan.lookup.map Lookup.masked).toList = _
    cases plan.lookup <;> rfl
  unfold innerFragment
  rw [lookups]
  refine .step fun columns => (Agree.mapM load plan.eager).bind fun _ _ loaded => ?_
  refine .step fun table => (Agree.mapM lookup plan.lookup.toList).bind fun _ _ located => ?_
  refine (Agree.mapM predicate plan.predicates).bind fun _ _ conditioned => ?_
  refine .step fun sort => .pure ?_
  have loads := ((SameText.foldr loaded).behind (raw "SELECT " ++ columns)).before (raw " FROM ")
  have conditions := SameText.clauseFragment " WHERE " " AND " (List.rel_append located conditioned)
  exact ((loads.before table).append conditions).before _

/-- Masking leaves whether there is a page. -/
theorem sameText_boundsFragment (plan : Plan) : SameText plan.boundsFragment plan.masked.boundsFragment := by
  have single : plan.masked.isSingle = plan.isSingle := Option.isSome_map
  have window : plan.masked.window = plan.window.map fun _ => ⟨0, 0⟩ := rfl
  unfold boundsFragment
  rw [single, window]
  split
  · exact .refl _
  · cases plan.window with
    | none => exact .refl _
    | some window =>
      exact ((SameText.behind (raw " LIMIT ") (.bound _ _)).before (raw " OFFSET ")).append
        (.bound _ _)

/-- Masking leaves the text of the whole fragment. -/
theorem sameText_fragment (plan : Plan) : Agree SameText plan.fragment plan.masked.fragment := by
  refine (sameText_innerFragment plan).bind fun inner inner' same => .pure ?_
  exact ((same.behind _).append (sameText_boundsFragment plan)).before _

/-- Two plans that differ only in their literals fail with the same error, or have the same text
with as many values. -/
theorem sameText_of_masked_eq {plan other : Plan} (h : plan.masked = other.masked) :
    (∀ failure, plan.sql = .error failure ↔ other.sql = .error failure) ∧
      ∀ statement, plan.sql = .ok statement → ∃ statement', other.sql = .ok statement' ∧
        statement'.text = statement.text ∧
          statement'.params.length = statement.params.length := by
  have fragments : Agree SameText plan.fragment other.fragment := by
    have masked := sameText_fragment plan
    rw [h] at masked
    exact masked.of_third SameText.equivalence (sameText_fragment other)
  refine ⟨fun failure => ?_, fun statement written => ?_⟩
  · rw [(agree_sql plan).error_iff, (agree_sql other).error_iff, fragments.error_iff]
  · obtain ⟨fragment, whole, same⟩ := (agree_sql plan).exists_ok written
    obtain ⟨fragment', whole', alike⟩ := fragments.exists_ok whole
    obtain ⟨statement', written', same'⟩ := (agree_sql other).exists_ok_left whole'
    refine ⟨statement', written', ?_, ?_⟩
    · rw [same'.text, ← alike.text, same.text]
    · rw [same'.params, ← alike.values, same.params]

/-- The plan with other literals, some of which are texts of statements. -/
def crowdedOtherwise : Plan :=
  { crowded with
    eager := [⟨"author", "users", "id", .ofList ["*"], .toOne "author_id" "id", some 0⟩,
      ⟨"tags", "tags", "id", .ofList ["label"],
        .manyToMany "post_tag" "post_id" "tag_id" "id" "id", some 3⟩]
    predicates := [.filter ⟨"price$2", .ge, some "0 OR 1 = 1"⟩,
      .related "tags" "tags" (.manyToMany "post_tag" "post_id" "tag_id" "id" "id")
        [⟨"label", .like, some ""⟩, ⟨"label", .notNull, none⟩,
          ⟨"id", .ne, some "3\"); DROP TABLE posts; --"⟩]]
    window := some ⟨0xffffffffffffffff, 0⟩ }

/-- Two crowded plans that differ in every value. -/
theorem sameText_of_masked_eq_crowded :
    crowded.masked = crowdedOtherwise.masked ∧ ∃ statement statement',
      crowded.sql = .ok statement ∧ crowdedOtherwise.sql = .ok statement' ∧
        statement'.text = statement.text ∧ statement'.params.length = statement.params.length ∧
          statement'.params ≠ statement.params := by
  have masked : crowded.masked = crowdedOtherwise.masked := by decide
  have renders : crowded.sql.error? = none := by decide +kernel
  obtain ⟨statement, written⟩ := Except.error?_eq_none_iff.1 renders
  obtain ⟨statement', written', text, values⟩ := (sameText_of_masked_eq masked).2 _ written
  refine ⟨masked, statement, statement', written, written', text, values, ?_⟩
  rw [params_of_sql written, params_of_sql written']
  decide

end Plan

end Retrieval
