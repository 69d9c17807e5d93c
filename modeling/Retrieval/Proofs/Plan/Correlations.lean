import Retrieval.Proofs.Plan.Compile

/-!
# Correlations and columns

A correlation names the columns by which related rows are matched to main rows, and a client that
puts the rows together needs these columns on either side. They are selected where relations are
joined and named where the plan is made, each time from the declaration alone; `Plan.Tied` says that
the two agree. On the related side of a many-to-many relation the key is not selected under its own
name, because the pivot table may have a column of that name.
-/

namespace Retrieval

/-- Whether a name is among the columns, alone or together with all others. -/
def FieldSet.Gives (fields : FieldSet) (name : String) : Prop :=
  name ∈ fields ∨ fields.toList = [wildcard]

/-- Whether the columns that a correlation compares are among those taken of the main table, given
first, and of the related one. -/
def EagerLoad.TiedTo (columns : FieldSet) (load : EagerLoad) : Prop :=
  match load.correlation with
  | .toOne foreignKey ownerKey => columns.Gives foreignKey ∧ load.columns.Gives ownerKey
  | .toMany foreignKey _ => load.columns.Gives foreignKey
  | .manyToMany _ _ _ localKey relatedKey => columns.Gives localKey ∧ relatedKey ∉ load.columns

/-- Whether all related rows of a plan can be matched to main rows, by the correlation that selects
main rows as well. -/
structure Plan.Tied (plan : Plan) : Prop where
  loads : ∀ load ∈ plan.eager, load.TiedTo plan.columns
  /-- A condition on a relation that is loaded compares the same columns. -/
  conditions : ∀ load ∈ plan.eager, ∀ table correlation filters,
    .related load.relation table correlation filters ∈ plan.predicates →
      correlation = load.correlation

namespace Scope

variable {scope : Scope} {confined : Bool} {params : RawParams} {key : String}

/-- The keys that a relation adds to the columns of its own resource. -/
def ownKeys (scope : Scope) (relation : Relation) (target : Metadata) : List String :=
  match relation.kind with
  | .toOne _ => [target.primaryKey]
  | .toMany _ => [relation.relatedForeignKey scope.main.name]
  | .manyToMany .. => []

/-! ## Keys in the lists -/

/-- The main list has the keys of every relation that is loaded. -/
theorem mem_mainList_of_mem_mainKeys {name : String} (loaded : key ∈ scope.loaded params)
    (mem : name ∈ Request.mainKeys scope key) :
    name ∈ scope.mainList confined params ∨ scope.mainList confined params = [wildcard] := by
  rw [mainList]
  split
  case isTrue => exact .inr rfl
  case isFalse =>
    apply Or.inl
    rw [List.mem_eraseDups]
    exact List.mem_append_right _ (List.mem_flatMap.2 ⟨key, loaded, mem⟩)

/-- The list of a relation has the key that its kind adds to it. -/
theorem mem_relatedList_of_mem_ownKeys {relation : Relation} {target : Metadata} {name : String}
    (mem : name ∈ scope.ownKeys relation target) :
    name ∈ scope.relatedList confined params key relation target ∨
      scope.relatedList confined params key relation target = [wildcard] := by
  rw [relatedList]
  split
  case isTrue => exact .inr rfl
  case isFalse =>
    apply Or.inl
    rw [ownKeys] at mem
    cases kind : relation.kind with
    | toOne | toMany =>
      rw [kind] at mem
      exact List.mem_eraseDups.2 (List.mem_append_right _ mem)
    | manyToMany =>
      rw [kind] at mem
      exact absurd mem List.not_mem_nil

/-- The list of a many-to-many relation does not have the related key, except behind the name of the
relation. -/
theorem not_mem_relatedList {relation : Relation} {target : Metadata} (valid : target.Valid)
    {pivot foreign related : Option String}
    (kind : relation.kind = .manyToMany pivot foreign related) :
    target.primaryKey ∉ scope.relatedList confined params key relation target := by
  rw [relatedList]
  split
  case isTrue =>
    have named := valid.isName_primaryKey
    simpa using Ident.ne_of_isName named (by decide)
  case isFalse =>
    rw [kind, mem_renamed_iff (FieldSet.nodup_eraseDups _)]
    rintro (⟨-, ne⟩ | ⟨eq, -⟩)
    · exact ne rfl
    · exact qualified_ne key target.primaryKey eq.symm

end Scope

/-! ## Plans -/

/-- A relation that is loaded is tied to the main list. -/
theorem EagerLoad.Loads.tiedTo {scope : Scope} {confined : Bool} {params : RawParams}
    {relation : Relation} {target : Metadata} {load : EagerLoad} {columns : FieldSet}
    (loads : load.Loads scope confined params relation target)
    (list : columns.toList = scope.mainList confined params) : load.TiedTo columns := by
  have main {name : String} (mem : name ∈ Request.mainKeys scope load.relation) :
      columns.Gives name := by
    rw [FieldSet.Gives, FieldSet.mem_iff, list]
    exact Scope.mem_mainList_of_mem_mainKeys loads.mem_loaded mem
  have own {name : String} (mem : name ∈ scope.ownKeys relation target) :
      load.columns.Gives name := by
    rw [FieldSet.Gives, FieldSet.mem_iff, loads.columns]
    exact Scope.mem_relatedList_of_mem_ownKeys mem
  rw [Request.mainKeys, (Scope.related?_eq_some_iff.1 loads.related).1] at main
  rw [Scope.ownKeys] at own
  rw [TiedTo, loads.correlation, Relation.correlation]
  dsimp only at main
  -- the correlation of a kind compares the very keys that the kind adds
  cases kind : relation.kind with
  | toOne =>
    rw [kind] at main own
    exact ⟨main List.mem_cons_self, own List.mem_cons_self⟩
  | toMany =>
    rw [kind] at own
    exact own List.mem_cons_self
  | manyToMany =>
    rw [kind] at main
    refine ⟨main List.mem_cons_self, ?_⟩
    rw [FieldSet.mem_iff, loads.columns]
    exact Scope.not_mem_relatedList (Scope.valid_of_related? loads.related) kind

/-- The columns that a plan compares are the same wherever the relation stands. -/
theorem Plan.tied_ofParams {scope : Scope} {settings : Settings} {params : RawParams}
    {action : Action} {id : Option String} (valid : scope.main.Valid) :
    (ofParams scope settings params action id).Tied := by
  constructor
  case loads =>
    intro load mem
    obtain ⟨relation, target, loads⟩ := loads_of_mem_eager valid mem
    exact loads.tiedTo (columns_ofParams valid)
  case conditions =>
    intro load mem table correlation filters asked
    obtain ⟨relation, target, loads⟩ := loads_of_mem_eager valid mem
    obtain ⟨-, relation', target', related, -, rfl, -⟩ := asks_of_mem_predicates asked
    -- the relation is declared once, so the condition is on the same resource
    rw [loads.related, Option.some.injEq, Prod.mk.injEq] at related
    obtain ⟨rfl, rfl⟩ := related
    exact loads.correlation.symm

/-! ## Conversions -/

namespace Converter

/-- Related rows can be matched to main rows by the columns of every plan of a conversion. -/
theorem tied_of_convert {converter : Converter} {resourceType : String} {params : RawParams}
    {action : Action} {id : Option String} {conversion : Conversion}
    (h : converter.convert resourceType params action id = .ok conversion) :
    conversion.plan.Tied := by
  obtain ⟨scope, found, -, rfl⟩ := convert_eq_ok_iff.1 h
  exact Plan.tied_ofParams (valid_of_scope found)

/-- Every kind of relation, with a condition on one of them. The keys are added to the columns, and
that of the tags is put behind their name. -/
theorem tied_of_convert_blog :
    ∃ conversion, Example.strict.convert "Post" Example.everything .index none = .ok conversion ∧
      conversion.plan.columns.toList = ["title", "id", "author_id"] ∧
      conversion.plan.eager.map (fun load => (load.columns.toList, load.correlation)) =
        [(["*"], .toOne "author_id" "id"), (["body", "post_id"], .toMany "post_id" "id"),
          (["label", "tags.id"], .manyToMany "post_tag" "post_id" "tag_id" "id" "id")] ∧
      conversion.plan.Tied := by
  have converted : Example.strict.convert "Post" Example.everything .index none = .ok _ := rfl
  exact ⟨_, converted, by decide +kernel, by decide +kernel, tied_of_convert converted⟩

end Converter

end Retrieval
