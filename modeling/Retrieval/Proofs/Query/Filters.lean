import Retrieval.Proofs.Query.Params
import Retrieval.Proofs.Request.Filter
import Retrieval.Proofs.Request.Flawless

/-!
# Filters from a query to a request

A filter in a query is decoded in two places: reading the query makes spaces of plus signs, and
reading the filters undoes the escapes. Together they undo the writing of a form component once, so
what is read as a filter is the text that the client wrote (`readFilters_ofQuery`).
-/

namespace Retrieval

open Text.Percent (Writes)

/-! ## The filters of a query -/

namespace RawParams

/-- The pairs that send a text as a filter under a key. -/
def SendsFilter (key text : String) (pair : List Char) : Prop :=
  ∃ name value, Writes ("filters[" ++ key ++ "]").toList name ∧ Writes text.toList value ∧
    pair = name ++ '=' :: value

variable {key : String} {texts : List String} {pairs : List (List Char)}

/-- The items of the pairs are filters, and undoing their escapes gives the texts that were sent. -/
theorem exists_writesPairs (ne_empty : key ≠ "") (closes : ']' ∉ key.toList)
    (sent : List.Forall₂ (SendsFilter key) texts pairs) :
    ∃ raw : List String, WritesPairs (raw.map (.filters key)) pairs ∧
      raw.map (fun text => String.ofList (Text.Percent.decode text.toList)) = texts := by
  induction sent with
  | nil => exact ⟨[], .nil, rfl⟩
  | @cons text _ texts pairs first _ ih =>
    obtain ⟨raw, spelled, decoded⟩ := ih
    obtain ⟨name, value, writesName, writesValue, rfl⟩ := first
    have named : Names "filters" (some key.toList) name := by
      refine ⟨_, .group [] (by decide) (by simpa using ne_empty) closes, ?_⟩
      simpa using writesName
    have read : String.ofList (Text.Percent.decode (Text.replace '+' ' ' value)) = text := by
      rw [← Text.Percent.decodeForm, writesValue.decodeForm_eq, String.ofList_toList]
    refine ⟨String.ofList (Text.replace '+' ' ' value) :: raw, ?_, ?_⟩
    · exact .item (.filters named (writesValue.uncut (by decide))) spelled
    · rw [List.map_cons, decoded, String.toList_ofList, read]

/-- Filters of one key gather nothing under another. -/
theorem textsAt_filters (raw : List String) (name : String) :
    textsAt (raw.map (.filters key)) (.filters name) = if name = key then raw else [] := by
  rw [textsAt, List.filter_map, List.map_map]
  by_cases h : name = key
  · have every : raw.filter ((·.place = .filters name) ∘ Item.filters key) = raw :=
      List.filter_eq_self.2 fun text _ => by simp [Item.place, h]
    rw [if_pos h, every]
    exact List.map_id' raw
  · have none : raw.filter ((·.place = .filters name) ∘ Item.filters key) = [] :=
      List.filter_eq_nil_iff.2 fun text _ => by simp [Item.place, Ne.symm h]
    rw [if_neg h, none, List.map_nil]

/-- A query that sends texts as filters under one key spells the filters that the texts are. -/
theorem spelledFilters_ofQuery (ne_empty : key ≠ "") (closes : ']' ∉ key.toList)
    (sent : List.Forall₂ (SendsFilter key) texts pairs) (name : String) :
    (ofQuery (String.ofList (List.intercalate ['&'] pairs))).spelledFilters name =
      if name = key then texts.filterMap Filter.parse? else [] := by
  obtain ⟨raw, written, decoded⟩ := exists_writesPairs ne_empty closes sent
  have query : WritesQuery (raw.map (.filters key))
      (String.ofList (List.intercalate ['&'] pairs)).toList :=
    ⟨pairs, written, .inl (String.toList_ofList ..)⟩
  have gathers := gathers_ofQuery query
  rw [spelledFilters, gathers.filters, textsAt_filters, texts_ofTexts?]
  split
  · rw [← decoded, List.filterMap_map]
    refine List.filterMap_congr fun text _ => ?_
    rw [Function.comp_apply, Filter.parse?, String.toList_ofList]
  · rfl

end RawParams

/-! ## The filters of a request -/

namespace Request

variable {scope : Scope} {name : String} (params : RawParams)

/-- Without confinement no filter is refused. -/
theorem refuses_unconfined (scope : Scope) (filter : Filter) :
    refuses scope false name filter = false := Bool.false_and _

/-- Where filters are not confined, all that are spelled are kept. -/
theorem sentFilters?_unconfined : sentFilters? scope false params name =
    if params.spelledFilters name = [] then none else some (params.spelledFilters name) := by
  have kept : (params.spelledFilters name).filter (!refuses scope false name ·) =
      params.spelledFilters name :=
    List.filter_eq_self.2 fun filter _ => by rw [refuses_unconfined, Bool.not_false]
  rw [sentFilters?_eq_ite, kept]

/-- Filters that are not confined are read without a problem, and nothing else changes. -/
theorem readFilters_unconfined (scope : Scope) (request : Request) (fresh : request.filters = .empty)
    {filters : OrderedMap (List Filter)}
    (spelled : ∀ name, filters.find? name =
      if params.spelledFilters name = [] then none else some (params.spelledFilters name)) :
    request.readFilters scope params.filters false = { request with filters } := by
  -- the pass changes filters and problems only, and each is known by itself
  obtain ⟨filters', problems, eq⟩ := readFilters_frame scope params.filters false request
  have same : filters' = filters := by
    refine OrderedMap.ext_find? fun name => ?_
    have found := readFilters_find? scope params.filters false fresh name
    rw [eq, ← sentFilters?, sentFilters?_unconfined] at found
    rw [spelled]
    exact found
  have quiet : problems = request.problems := by
    have reported := readFilters_problems scope params.filters false request
    rw [eq, (filteringProblems_eq_nil_iff false).2, List.append_nil] at reported
    · exact reported
    · exact fun key filter _ => refuses_unconfined scope filter
  rw [eq, same, quiet]

/-- Texts sent as filters under one key are decoded once on their way from the query to the request:
it holds the filters that the texts are, in order, under the key and nothing under any other one.
The literal of each is an ending of the text that was sent. -/
theorem readFilters_ofQuery (scope : Scope) (resourceType resource : String) (action : Action)
    {key : String} (ne_empty : key ≠ "") (closes : ']' ∉ key.toList) {texts : List String}
    {pairs : List (List Char)} (sent : List.Forall₂ (RawParams.SendsFilter key) texts pairs) :
    (start resourceType resource action).readFilters scope
        (RawParams.ofQuery (String.ofList (List.intercalate ['&'] pairs))).filters false =
      { start resourceType resource action with
        filters := if texts.filterMap Filter.parse? = [] then .empty
          else OrderedMap.empty.insert key (texts.filterMap Filter.parse?) } ∧
    ∀ filter ∈ texts.filterMap Filter.parse?, ∀ value, filter.value = some value →
      ∃ text ∈ texts, Filter.parse? text = some filter ∧ value.toList <:+ text.toList := by
  constructor
  · refine readFilters_unconfined _ scope _ rfl fun name => ?_
    rw [RawParams.spelledFilters_ofQuery ne_empty closes sent]
    by_cases own : name = key
    · rw [if_pos own]
      split
      · rfl
      · rw [OrderedMap.find?_insert, if_pos own]
    · rw [if_neg own, if_pos rfl]
      split
      · rfl
      · rw [OrderedMap.find?_insert, if_neg own]
        rfl
  · intro filter mem value compares
    obtain ⟨text, sent, parsed⟩ := List.mem_filterMap.1 mem
    exact ⟨text, sent, parsed, Filter.value_suffix parsed compares⟩

/-- A key with a bracket, and texts with every kind of character that a query gives a meaning to,
the spaces in them written in both ways. The second text is no filter. -/
theorem readFilters_ofQuery_reserved :
    ∃ scope, Example.strict.scope "Post" = .ok scope ∧
      ((start "Post" "post" .index).readFilters scope (RawParams.ofQuery
          ("filters%5Bp%5Bt%5D=title%20like%20%251%2B%26%3D%C3%A9" ++
            "&filters%5Bp%5Bt%5D=no+filter%21&filters[p[t]=id+%3D+%2B1")).filters false).filters =
        OrderedMap.empty.insert "p[t" [⟨"title", .like, some "%1+&=é"⟩, ⟨"id", .eq, some "+1"⟩] := by
  have sent : List.Forall₂ (RawParams.SendsFilter "p[t") ["title like %1+&=é", "no filter!", "id = +1"]
      (["filters%5Bp%5Bt%5D=title%20like%20%251%2B%26%3D%C3%A9",
        "filters%5Bp%5Bt%5D=no+filter%21", "filters[p[t]=id+%3D+%2B1"].map String.toList) := by
    have first : Writes "title like %1+&=é".toList _ := .encode _
    have second : Writes "no filter!".toList _ :=
      (Writes.refl_of_plain (by decide : ['n', 'o'].all Text.Percent.isPlain)).append
        (.space (.encode "filter!".toList))
    have third : Writes "id = +1".toList _ :=
      (Writes.refl_of_plain (by decide : ['i', 'd'].all Text.Percent.isPlain)).append
        (.space ((Writes.encode ['=']).append (.space (.encode ['+', '1']))))
    refine .cons ⟨_, _, .encode _, first, rfl⟩ (.cons ⟨_, _, .encode _, second, rfl⟩ ?_)
    exact .cons ⟨_, _, .refl_of_plain (by decide), third, rfl⟩ .nil
  have parsed : ["title like %1+&=é", "no filter!", "id = +1"].filterMap Filter.parse? =
      [⟨"title", .like, some "%1+&=é"⟩, ⟨"id", .eq, some "+1"⟩] := by decide +kernel
  obtain ⟨scope, found⟩ : ∃ scope, Example.strict.scope "Post" = .ok scope := ⟨_, rfl⟩
  have read := (readFilters_ofQuery scope "Post" "post" .index (by decide) (by decide) sent).1
  rw [parsed] at read
  exact ⟨scope, found, congrArg filters read⟩

end Request

end Retrieval
