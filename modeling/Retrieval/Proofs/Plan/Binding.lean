import Retrieval.Proofs.Plan.References

/-!
# Values and placeholders

The statement of a plan binds the values of the slots of the plan in order; its text has a
placeholder for each, numbered from one, at the place where the value belongs
(`Plan.numbered_of_sql`). The placeholders are counted in the text itself, outside of quotes, where
a dollar sign is part of a name.
-/

namespace Retrieval

open Statement (placesFrom)

namespace Plan

/-- What is asked of a statement that binds the values of some slots. -/
structure Numbered (slots : List Slot) (statement : Statement) : Prop where
  params : statement.params = slots.map (·.value)
  /-- The placeholders outside of quotes are numbered from one, each number once. -/
  numerals : (Text.placeholders statement.text.toList).map (·.numeral) =
    (List.range' 1 slots.length).map fun n => (toString n).toList
  /-- Every placeholder stands where the value of its number belongs. -/
  leads : List.Forall₂ (fun slot placeholder => slot.lead.toList <:+ placeholder.before) slots
    (Text.placeholders statement.text.toList)

variable {statement : Statement}

/-- A statement that bears some slots binds their values in order, to placeholders that are numbered
from one and stand where the values belong. -/
theorem numbered_of_bears {slots : List Slot} (h : statement.Bears slots) :
    Numbered slots statement := by
  have found := Statement.placeholders_text h.quiet
  refine ⟨h.params, ?_, ?_⟩
  · rw [found, Statement.numerals_placesFrom]
    exact congrArg (fun n => (List.range' 1 n).map Statement.numeral) h.placeholders_eq
  · rw [found]
    exact h.leads [] 0

/-- What says the same binds the same values at the same places. -/
theorem Numbered.of_alike {slots : List Slot} {other : Statement} (h : Numbered slots other)
    (same : statement.Alike other) : Numbered slots statement where
  params := same.params.trans h.params
  numerals := by rw [same.text, h.numerals]
  leads := by
    rw [same.text]
    exact h.leads

/-- Every statement binds the values of its plan in order, each at its own place, and the number of
placeholders is never found to be wrong. -/
theorem numbered_of_sql (plan : Plan) :
    (∀ placeholders values, plan.sql ≠ .error (.unevenBinding placeholders values)) ∧
      ∀ statement, plan.sql = .ok statement → Numbered plan.slots statement := by
  refine ⟨fun placeholders values failed => ?_, fun statement written => ?_⟩
  · obtain ⟨error, other⟩ := badIdent_of_sql failed
    exact Failure.noConfusion other
  · obtain ⟨whole, rendered, same⟩ := exists_fragment written
    exact (numbered_of_bears (bears_fragment rendered)).of_alike same

/-- A plan with a value in every clause but the lookup, and dollar signs in its names. -/
def crowded : Plan :=
  { resourceType := "Post", table := "app.posts", label := "post$1"
    columns := .ofList ["id", "price$2"]
    eager := [⟨"author", "users", "id", .ofList ["*"], .toOne "author_id" "id", some 7⟩,
      ⟨"tags", "tags", "id", .ofList ["label"],
        .manyToMany "post_tag" "post_id" "tag_id" "id" "id", some 0xffffffffffffffff⟩]
    predicates := [.filter ⟨"price$2", .ge, some "$9"⟩,
      .related "tags" "tags" (.manyToMany "post_tag" "post_id" "tag_id" "id" "id")
        [⟨"label", .like, some "%\"$1"⟩, ⟨"label", .notNull, none⟩, ⟨"id", .ne, some "3"⟩]]
    sort := [⟨"price$2", .descending⟩]
    lookup := none, window := some ⟨3, 20⟩ }

/-- A plan with values of every kind, one of which looks like a placeholder. -/
theorem numbered_of_sql_crowded : ∃ statement, crowded.sql = .ok statement ∧
    Numbered crowded.slots statement ∧
      crowded.slots.map (·.value) = [.int8 0x7fffffffffffffff, .text "$9", .text "%\"$1", .text "3",
        .int8 21, .int8 40] := by
  have renders : crowded.sql.error? = none := by decide +kernel
  obtain ⟨statement, written⟩ := Except.error?_eq_none_iff.1 renders
  exact ⟨statement, written, (numbered_of_sql crowded).2 statement written, by decide⟩

end Plan

end Retrieval
