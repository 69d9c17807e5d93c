import Retrieval.Proofs.Conversion
import Retrieval.Proofs.Request.Reading

/-!
# The fields of a converted request

Which fields a request ends up with, as lists in their final order. Three passes write them: the
selection, the fields of filters, and the keys that join the relations. `Scope.mainList` and
`Scope.relatedList` say what they leave, from the parameters alone, and `Scope.fieldList?` says
under which keys something stands at all.

A star stands for all columns, so it stands alone (`Scope.wildcard_mem_chosen_iff`) and no pass adds
to it. Any other list is a chain of lists put behind each other with repetitions dropped at the end.
-/

namespace Retrieval

namespace Scope

/-- The columns selected on the main resource: those chosen, those filtered by, and the keys of the
loaded relations in the order of their names. -/
def mainList (scope : Scope) (confined : Bool) (params : RawParams) : List String :=
  let names := scope.chosen params scope.main.name
  if names = [wildcard] then [wildcard]
  else (names ++ (scope.kept confined params scope.main.name).map (·.field)
    ++ (scope.loaded params).flatMap (Request.mainKeys scope)).eraseDups

/-- A list with one name moved to its end under another name, if the list has it. -/
def renamed (name other : String) (names : List String) : List String :=
  if name ∈ names then (names.erase name ++ [other]).eraseDups else names

/-- The columns selected on a related resource: those chosen, those filtered by, and its own key if
the relation is tied by one. A pivot table may have a column of the name of the related primary key,
so that column is qualified. -/
def relatedList (scope : Scope) (confined : Bool) (params : RawParams) (key : String)
    (relation : Relation) (target : Metadata) : List String :=
  let names := scope.chosen params key
  let all := names ++ (scope.kept confined params key).map (·.field)
  if names = [wildcard] then [wildcard]
  else match relation.kind with
    | .toOne _ => (all ++ [target.primaryKey]).eraseDups
    | .toMany _ => (all ++ [relation.relatedForeignKey scope.main.name]).eraseDups
    | .manyToMany .. =>
      renamed target.primaryKey s!"{key}.{target.primaryKey}" all.eraseDups

/-- The columns selected under a key. Only the main resource and the relations to registered
resources under which something is chosen have any. -/
def fieldList? (scope : Scope) (confined : Bool) (params : RawParams) (key : String) :
    Option (List String) :=
  if key = scope.main.name then some (scope.mainList confined params)
  else (scope.related? key).bind fun (relation, target) =>
    if scope.chosen params key = [] then none
    else some (scope.relatedList confined params key relation target)

end Scope

/-! ## Stars -/

namespace Metadata.Valid

variable {metadata : Metadata} (valid : metadata.Valid)
include valid

/-- The star is no name, so that no valid description has it for a field. -/
theorem wildcard_not_mem_selectable : wildcard ∉ metadata.selectable := by
  intro mem
  have star : metadata.canSelect wildcard = false := valid.not_canSelect_wildcard (by decide)
  rw [canSelect, List.contains_iff_mem.2 mem] at star
  exact Bool.noConfusion star

/-- The star is allowed only where nothing else is. -/
theorem allowed_of_wildcard_mem (mem : wildcard ∈ metadata.allowed) :
    metadata.allowed = [wildcard] := by
  unfold allowed at mem ⊢
  split at mem
  case isTrue none => rw [if_pos none]
  case isFalse => exact absurd mem valid.wildcard_not_mem_selectable

/-- The star is chosen only by itself. -/
theorem chosen_of_wildcard_mem {names : List String} (mem : wildcard ∈ metadata.chosen names) :
    metadata.chosen names = [wildcard] := by
  unfold chosen at mem ⊢
  split at mem
  case isTrue star => rw [if_pos star, valid.allowed_of_wildcard_mem mem]
  case isFalse plain => exact absurd (List.mem_filter.1 mem).1 plain

end Metadata.Valid

/-- What is allowed may be selected, or is the star where nothing may. -/
theorem Metadata.mem_allowed {metadata : Metadata} {name : String} (mem : name ∈ metadata.allowed) :
    name ∈ metadata.selectable ∨ name = wildcard ∧ metadata.selectable = [] := by
  unfold allowed at mem
  split at mem
  case isTrue none => exact .inr ⟨List.mem_singleton.1 mem, none⟩
  case isFalse => exact .inl mem

namespace Scope

variable {scope : Scope} {key : String}

/-- What is chosen is declared, or it is the star where nothing is. -/
theorem mem_chosen {params : RawParams} {name : String} {metadata : Metadata}
    (found : scope.resource? key = some metadata) (mem : name ∈ scope.chosen params key) :
    name ∈ metadata.selectable ∨ name = wildcard ∧ metadata.selectable = [] := by
  rw [chosen_of_resource? params found] at mem
  split at mem
  case isTrue => exact Metadata.mem_allowed mem
  case isFalse =>
    rw [Metadata.chosen] at mem
    split at mem
    case isTrue => exact Metadata.mem_allowed mem
    case isFalse => exact .inl (List.contains_iff_mem.1 (List.mem_filter.1 mem).2)

/-- A star is chosen alone. -/
theorem wildcard_mem_chosen_iff (valid : scope.main.Valid) (params : RawParams) :
    wildcard ∈ scope.chosen params key ↔ scope.chosen params key = [wildcard] := by
  constructor
  · intro mem
    cases found : scope.resource? key with
    | none => simp [chosen, found] at mem
    | some metadata =>
      have valid' := valid_of_resource? valid found
      rw [chosen_of_resource? params found] at mem ⊢
      split at mem
      case isTrue none => rw [if_pos none, valid'.allowed_of_wildcard_mem mem]
      case isFalse some => rw [if_neg some, valid'.chosen_of_wildcard_mem mem]
  · intro star
    rw [star]
    exact List.mem_cons_self

/-! ## Members of the lists -/

/-- A name behind the name of a relation is another name. -/
theorem qualified_ne (key name : String) : s!"{key}.{name}" ≠ name := by
  show key ++ "." ++ name ≠ name
  intro eq
  have length := congrArg String.length eq
  rw [String.length_append, String.length_append] at length
  have dot : ".".length = 1 := rfl
  omega

/-- Renaming exchanges one name for another, if it is there. -/
theorem mem_renamed_iff {names : List String} (nodup : names.Nodup) {name other member : String} :
    member ∈ renamed name other names ↔
      member ∈ names ∧ member ≠ name ∨ member = other ∧ name ∈ names := by
  rw [renamed]
  split
  case isTrue mem =>
    rw [List.mem_eraseDups, List.mem_append, List.mem_singleton, nodup.mem_erase_iff,
      and_iff_left mem, and_comm]
  case isFalse absent =>
    simp only [absent, and_false, or_false]
    exact ⟨fun mem => ⟨mem, fun eq => absent (eq ▸ mem)⟩, fun mem => mem.1⟩

/-- A star that is taken for all names was chosen. -/
theorem mem_fields_of_star {confined : Bool} {params : RawParams} {name : String}
    (star : scope.chosen params key = [wildcard]) (mem : name ∈ [wildcard]) :
    name ∈ scope.chosen params key ++ (scope.kept confined params key).map (·.field) := by
  rw [star]
  exact List.mem_append_left _ mem

/-- A column of the main resource is chosen, filtered by, or a key of a loaded relation. -/
theorem mem_mainList {confined : Bool} {params : RawParams} {name : String}
    (mem : name ∈ scope.mainList confined params) :
    name ∈ scope.chosen params scope.main.name
        ++ (scope.kept confined params scope.main.name).map (·.field) ∨
      ∃ key ∈ scope.loaded params, name ∈ Request.mainKeys scope key := by
  rw [mainList] at mem
  split at mem
  case isTrue star => exact .inl (mem_fields_of_star star mem)
  case isFalse =>
    rw [List.mem_eraseDups, List.mem_append] at mem
    exact mem.imp_right List.mem_flatMap.1

/-- A column of a related resource is chosen, filtered by, or the key that the kind of the relation
adds. -/
theorem mem_relatedList {confined : Bool} {params : RawParams} {name : String}
    {relation : Relation} {target : Metadata}
    (mem : name ∈ scope.relatedList confined params key relation target) :
    name ∈ scope.chosen params key ++ (scope.kept confined params key).map (·.field) ∨
      match relation.kind with
      | .toOne _ => name = target.primaryKey
      | .toMany _ => name = relation.relatedForeignKey scope.main.name
      | .manyToMany .. => name = s!"{key}.{target.primaryKey}" ∧
          target.primaryKey ∈ scope.chosen params key
            ++ (scope.kept confined params key).map (·.field) := by
  rw [relatedList] at mem
  split at mem
  case isTrue star => exact .inl (mem_fields_of_star star mem)
  case isFalse =>
    cases kind : relation.kind with
    | toOne | toMany =>
      rw [kind, List.mem_eraseDups, List.mem_append, List.mem_singleton] at mem
      exact mem
    | manyToMany =>
      rw [kind, mem_renamed_iff (FieldSet.nodup_eraseDups _), List.mem_eraseDups,
        List.mem_eraseDups] at mem
      exact mem.imp_left And.left

/-! ## Loaded relations -/

/-- Behind a relation is its target, unless the relation is called like the main resource. -/
theorem resource?_of_related? {relation : Relation} {target : Metadata}
    (relational : key ≠ scope.main.name) (h : scope.related? key = some (relation, target)) :
    scope.resource? key = some target := by
  rw [resource?_of_ne relational, h, Option.map_some]

/-- Nothing is chosen under a relation that leads nowhere. -/
theorem chosen_of_dangling (params : RawParams) (relational : key ≠ scope.main.name)
    (h : scope.related? key = none) : scope.chosen params key = [] := by
  rw [chosen, resource?_of_ne relational, h]
  rfl

end Scope

namespace Request

variable {scope : Scope} {key : String} (params : RawParams)

/-- Nothing is selected behind a relation that leads nowhere. -/
theorem selected?_of_dangling {relation : Relation} (relational : key ≠ scope.main.name)
    (declared : scope.main.relation? key = some relation) (h : scope.related? key = none) :
    selected? scope params key = none := by
  have unknown (names : List String) : selection? scope key names = none := by
    rw [selection?, Scope.metadata?_of_dangling relational declared h]
    rfl
  rw [selected?, if_neg relational, Option.or_none]
  cases params.fields.find? key with
  | none => rfl
  | some value => exact unknown value.segments

/-- A declared relation is selected exactly when fields are chosen under it. -/
theorem isSome_selected?_iff {relation : Relation} (valid : scope.main.Valid)
    (relational : key ≠ scope.main.name) (declared : scope.main.relation? key = some relation) :
    (selected? scope params key).isSome ↔ scope.chosen params key ≠ [] := by
  cases h : scope.related? key with
  | none =>
    rw [selected?_of_dangling params relational declared h,
      Scope.chosen_of_dangling params relational h]
    simp
  | some pair =>
    rw [selected?_eq params valid (Scope.resource?_of_related? relational h)]
    split
    case isTrue none => simp [none]
    case isFalse some => simpa using some

/-- Selected keys that are no relations add nothing to the main resource, so the loaded relations
are all that counts. -/
theorem flatMap_mainKeys_unjoined (settings : Settings) (action : Action)
    (valid : scope.main.Valid) :
    (otherKeys scope (unjoined scope settings params action).fields).flatMap (mainKeys scope) =
      (scope.loaded params).flatMap (mainKeys scope) := by
  have undeclared (names : List String) : names.flatMap (mainKeys scope) =
      (names.filter scope.main.relations.contains).flatMap (mainKeys scope) := by
    induction names with
    | nil => rfl
    | cons name rest ih =>
      cases h : scope.main.relation? name with
      | none =>
        have absent : scope.main.relations.contains name = false := by
          rw [OrderedMap.contains, ← Metadata.relation?, h, Option.isSome_none]
        rw [List.flatMap_cons, ih, List.filter_cons_of_neg (by simp [absent]), mainKeys, h,
          List.nil_append]
      | some relation =>
        have present : scope.main.relations.contains name = true := by
          rw [OrderedMap.contains, ← Metadata.relation?, h, Option.isSome_some]
        rw [List.flatMap_cons, ih, List.filter_cons_of_pos present, List.flatMap_cons]
  rw [undeclared]
  apply congrArg (List.flatMap (mainKeys scope))
  -- both lists are in the order of the names, so it is enough that they have the same members
  refine OrderedMap.eq_of_mem_iff ?_ ?_ fun name => ?_
  · exact ((OrderedMap.keys_sorted _).filter _).filter _
  · exact (OrderedMap.keys_sorted _).filter _
  · rw [List.mem_filter, OrderedMap.contains_iff, mem_otherKeys_unjoined, Scope.mem_loaded_iff]
    constructor
    · rintro ⟨⟨selected, relational⟩, mem⟩
      obtain ⟨relation, declared⟩ := OrderedMap.mem_keys_iff.1 mem
      exact ⟨mem, relational, (isSome_selected?_iff params valid relational declared).1 selected⟩
    · rintro ⟨mem, relational, some⟩
      obtain ⟨relation, declared⟩ := OrderedMap.mem_keys_iff.1 mem
      exact ⟨⟨(isSome_selected?_iff params valid relational declared).2 some, relational⟩, mem⟩

/-! ## The main resource -/

/-- The fields that filters add are those of the filters that are kept. -/
theorem filteredFields_eq {metadata : Metadata} (confined : Bool)
    (h : scope.resource? key = some metadata) :
    filteredFields scope confined params key =
      (scope.kept confined params key).map (·.field) := by
  rw [filteredFields, sentFilters?_eq params confined h]

/-- A list of chosen names, once more names are added to it. -/
theorem toList_extend_chosen (valid : scope.main.Valid) (names : List String) :
    (extend (.ofList (scope.chosen params key)) names).toList =
      if scope.chosen params key = [wildcard] then [wildcard]
      else (scope.chosen params key ++ names).eraseDups := by
  rw [toList_extend, FieldSet.toList_ofList, FieldSet.eraseDups_append_left]
  by_cases star : scope.chosen params key = [wildcard]
  · rw [if_pos star, star]
    rfl
  · have plain : wildcard ∉ (scope.chosen params key).eraseDups := by
      rw [List.mem_eraseDups, Scope.wildcard_mem_chosen_iff valid]
      exact star
    rw [if_neg star, if_neg plain]

/-- The request has the list of the main resource under its name. -/
theorem read_mainList (settings : Settings) (action : Action) (valid : scope.main.Valid) :
    ((Request.read scope settings params action).fields.find? scope.main.name).map (·.toList) =
      some (scope.mainList settings.strictFilters params) := by
  rw [read_main settings params action valid, selected?_eq params valid Scope.resource?_main,
    if_neg (Scope.chosen_main_ne_nil params), Option.map_some, Option.map_some,
    toList_extend_chosen params valid, filteredFields_eq params _ Scope.resource?_main,
    flatMap_mainKeys_unjoined params settings action valid, ← List.append_assoc]
  rfl

/-! ## Relations -/

/-- Qualifying moves the key to the end, behind the name of the relation, if it was selected. -/
theorem toList_qualifyKey (relation primaryKey : String) (fields : FieldSet) :
    (qualifyKey relation primaryKey fields).toList =
      Scope.renamed primaryKey s!"{relation}.{primaryKey}" fields.toList := by
  rw [qualifyKey, Scope.renamed]
  by_cases mem : primaryKey ∈ fields.toList
  · rw [if_pos (FieldSet.contains_iff.2 mem), if_pos mem, ← FieldSet.toList_remove,
      ← FieldSet.toList_ensureAll]
    rfl
  · rw [if_neg (mt FieldSet.contains_iff.1 mem), if_neg mem]

/-- The key of a relation is the primary key of its target. -/
theorem relatedKey_eq {relation : Relation} {target : Metadata}
    (h : scope.related? key = some (relation, target)) :
    relatedKey scope relation = target.primaryKey := by
  rw [relatedKey, (Scope.related?_eq_some_iff.1 h).2, Option.map_some, Option.getD_some]

/-- Joining a relation adds its own key to the list, or qualifies it. -/
theorem toList_joined {relation : Relation} {target : Metadata} (valid : scope.main.Valid)
    (relational : key ≠ scope.main.name) (h : scope.related? key = some (relation, target))
    (confined : Bool) :
    (joined? scope key (extend (.ofList (scope.chosen params key))
      (filteredFields scope confined params key))).map (·.toList) =
        some (scope.relatedList confined params key relation target) := by
  have found := Scope.resource?_of_related? relational h
  have plain : wildcard ∉ filteredFields scope confined params key :=
    wildcard_not_mem_filteredFields params confined key
  rw [joined?, (Scope.related?_eq_some_iff.1 h).1, Option.map_some, Option.map_some,
    Scope.relatedList]
  refine congrArg some ?_
  cases relation.kind with
  | toOne =>
    dsimp only
    rw [extend_extend _ plain, toList_extend_chosen params valid, relatedKey_eq h,
      filteredFields_eq params confined found, List.append_assoc]
  | toMany =>
    dsimp only
    rw [extend_extend _ plain, toList_extend_chosen params valid,
      filteredFields_eq params confined found, List.append_assoc]
  | manyToMany =>
    dsimp only
    rw [toList_qualifyKey, toList_extend_chosen params valid, relatedKey_eq h,
      filteredFields_eq params confined found]
    by_cases star : scope.chosen params key = [wildcard]
    · -- a star is no key, so there is nothing to rename
      have named := (Scope.valid_of_related? h).isName_primaryKey
      have other : target.primaryKey ∉ [wildcard] := by
        simpa using Ident.ne_of_isName named (by decide)
      rw [if_pos star, if_pos star, Scope.renamed, if_neg other]
    · rw [if_neg star, if_neg star]

/-- The request has the list of a relation under its name, if something was chosen of it. -/
theorem read_relatedList {relation : Relation} {target : Metadata} (settings : Settings)
    (action : Action) (valid : scope.main.Valid) (relational : key ≠ scope.main.name)
    (h : scope.related? key = some (relation, target)) :
    ((Request.read scope settings params action).fields.find? key).map (·.toList) =
      if scope.chosen params key = [] then none
      else some (scope.relatedList settings.strictFilters params key relation target) := by
  rw [read_fields scope settings params action relational,
    selected?_eq params valid (Scope.resource?_of_related? relational h)]
  split
  case isTrue => rfl
  case isFalse => exact toList_joined params valid relational h settings.strictFilters

/-- Under a key that leads to no registered resource nothing is selected in the end. -/
theorem read_of_dangling (settings : Settings) (action : Action)
    (relational : key ≠ scope.main.name) (h : scope.related? key = none) :
    (Request.read scope settings params action).fields.find? key = none := by
  rw [read_fields scope settings params action relational]
  cases declared : scope.main.relation? key with
  | none =>
    rw [Option.bind_eq_none_iff]
    intro fields _
    rw [joined?, declared, Option.map_none]
  | some relation =>
    rw [selected?_of_dangling params relational declared h, Option.map_none, Option.bind_none]

/-- Under every key stands the list of its fields. -/
theorem read_fieldList? (settings : Settings) (action : Action) (valid : scope.main.Valid)
    (key : String) :
    ((Request.read scope settings params action).fields.find? key).map (·.toList) =
      scope.fieldList? settings.strictFilters params key := by
  rw [Scope.fieldList?]
  by_cases main : key = scope.main.name
  · rw [if_pos main, main, read_mainList params settings action valid]
  · rw [if_neg main]
    cases h : scope.related? key with
    | none =>
      rw [read_of_dangling params settings action main h, Option.map_none, Option.bind_none]
    | some pair => exact read_relatedList params settings action valid main h

/-- Under a key of a known resource stand the filters that are kept. -/
theorem read_kept (settings : Settings) (action : Action) {metadata : Metadata}
    (h : scope.resource? key = some metadata) :
    ((Request.read scope settings params action).filters.find? key).getD [] =
      scope.kept settings.strictFilters params key := by
  -- the resolution drops only keys that lead nowhere
  rw [read_filters, if_neg (resolves_of_resource? h), sentFilters?_eq params _ h]

end Request

/-! ## Conversions -/

namespace Converter

/-- The fields of a converted request, exactly: under every key the list that the parameters spell,
the fields of the filters that are kept being part of it. -/
theorem fields_of_convert {converter : Converter} {resourceType : String} {params : RawParams}
    {action : Action} {id : Option String} {conversion : Conversion}
    (h : converter.convert resourceType params action id = .ok conversion) :
    ∃ scope, converter.scope resourceType = .ok scope ∧
      (∀ key, (conversion.request.fields.find? key).map (·.toList) =
        scope.fieldList? converter.settings.strictFilters params key) ∧
      ∀ key metadata, scope.resource? key = some metadata →
        (conversion.request.filters.find? key).getD [] =
          scope.kept converter.settings.strictFilters params key := by
  obtain ⟨scope, found, -, rfl⟩ := convert_eq_ok_iff.1 h
  refine ⟨scope, found, fun key => ?_, fun key metadata leads => ?_⟩
  · exact Request.read_fieldList? params converter.settings action (valid_of_scope found) key
  · exact Request.read_kept params converter.settings action leads

/-- A request for every relation of the blog, each kind joined in its way. -/
theorem fields_of_convert_blog :
    ∃ conversion, Example.strict.convert "Post" Example.everything .index none = .ok conversion ∧
      conversion.request.fields.entries.map (fun entry => (entry.1, entry.2.toList)) =
        [("author", ["*"]), ("comments", ["body", "post_id"]),
          ("post", ["title", "id", "author_id"]), ("tags", ["label", "tags.id"])] ∧
      ∃ scope, Example.strict.scope "Post" = .ok scope ∧
        ∀ key, (conversion.request.fields.find? key).map (·.toList) =
          scope.fieldList? true Example.everything key := by
  refine ⟨_, rfl, by decide +kernel, ?_⟩
  have converted : Example.strict.convert "Post" Example.everything .index none = .ok _ := rfl
  obtain ⟨scope, found, lists, -⟩ := fields_of_convert converted
  exact ⟨scope, found, lists⟩

end Converter

end Retrieval
