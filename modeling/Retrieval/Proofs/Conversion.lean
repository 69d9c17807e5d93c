import Retrieval.Conversion
import Retrieval.Proofs.Resource

/-!
# What a conversion is made of

A conversion is the request that was read and its plan (`convert_eq_ok_iff`). So whatever holds of
`Request.read` and `Plan.ofRequest` holds of conversions.

`Example.blog` is a small registry with every kind of relation. Statements about all conversions are
tried on it.
-/

namespace Retrieval.Converter

variable {converter : Converter} {resourceType : String}

/-- The scope of a type has its description and the registry of the converter. -/
theorem scope_eq_ok_iff {scope : Scope} :
    converter.scope resourceType = .ok scope ↔
      converter.registry.find? resourceType = some scope.main ∧
        scope.registry = converter.registry ∧ scope.resourceType = resourceType := by
  obtain ⟨registry, type, main⟩ := scope
  unfold Converter.scope
  cases converter.registry.find? resourceType with
  | none => simp
  | some found =>
    rw [Except.ok.injEq, Scope.mk.injEq, Option.some.injEq]
    constructor
    · rintro ⟨rfl, rfl, rfl⟩
      exact ⟨rfl, rfl, rfl⟩
    · rintro ⟨rfl, rfl, rfl⟩
      exact ⟨rfl, rfl, rfl⟩

/-- The main resource of a scope comes out of a registry, so it is valid. -/
theorem valid_of_scope {scope : Scope} (h : converter.scope resourceType = .ok scope) :
    scope.main.Valid :=
  Registry.valid_of_find? (scope_eq_ok_iff.1 h).1

/-- A conversion is the request read in a scope and its plan; only the key of a single entity may be
missing. -/
theorem convert_eq_ok_iff {params : RawParams} {action : Action} {id : Option String}
    {conversion : Conversion} :
    converter.convert resourceType params action id = .ok conversion ↔
      ∃ scope, converter.scope resourceType = .ok scope ∧ ¬(action = .entity ∧ id = none) ∧
        conversion = ⟨Request.read scope converter.settings params action,
          .ofRequest scope (Request.read scope converter.settings params action) id⟩ := by
  unfold convert
  cases converter.scope resourceType with
  | error failure => simp [bind, Except.bind]
  | ok scope =>
    by_cases missing : action = .entity ∧ id = none
    · simp [missing, bind, Except.bind, throw, throwThe, MonadExceptOf.throw]
    · simp [missing, bind, Except.bind, pure, Except.pure, eq_comm]

end Retrieval.Converter

namespace Retrieval.Example

/-- Posts have an author, comments and tags; every field of an author may be selected. -/
def blog : Registry :=
  ⟨⟨[("Comment", { Metadata.basic "comment" "comments" with selectable := ["body"] }),
      ("Post", { Metadata.basic "post" "posts" with
        selectable := ["id", "title"]
        sortable := ["title"]
        relations := ⟨[("author", ⟨"User", .toOne none⟩), ("comments", ⟨"Comment", .toMany none⟩),
          ("tags", ⟨"Tag", .manyToMany none none none⟩)], by decide⟩ }),
      ("Tag", { Metadata.basic "tag" "tags" with selectable := ["id", "label"] }),
      ("User", Metadata.basic "user" "users")], by decide⟩, by decide⟩

/-- Filters on the blog are confined. -/
def strict : Converter := ⟨blog, Settings.standard.confined⟩

/-- A request for every relation of the blog, with filters. -/
def everything : RawParams :=
  { RawParams.empty with
    fields := ⟨[("author", .one "*"), ("comments", .one "body,id"), ("post", .one "title"),
      ("tags", .one "label,id")], by decide⟩
    filters := ⟨[("post", .many ["id > 3", "secret = 1"]), ("tags", .one "label = lean")],
      by decide⟩
    sorting := some "-title,secret" }

end Retrieval.Example
