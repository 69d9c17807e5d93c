import Retrieval.Proofs.Conversion
import Retrieval.Proofs.Request.Problems
import Retrieval.Proofs.Text.Bytes
import Retrieval.Proofs.Text.Pieces

/-!
# What the selection reports

Which problems the selection of fields meets, said from the texts that were sent: `Sends` of the
names between their commas, `Scope.Leads` of the resource of a key, and `Scope.Reports` of the
problems of one key, a case for each way in which a key can go wrong or not. The problems of the
pass are those of the keys in order (`Request.readFields_problems`), so a report for each key makes
up the whole list.

Nothing but the names counts (`Request.readFields_congr`). A key without names is passed over, and
the other keys with their names are one ordered list, however the names are spread over texts.
-/

namespace Retrieval

/-! ## Names that are sent -/

/-- Whether some names, in order, are what texts have between their commas, apart from empty
pieces. -/
def Sends (texts names : List String) : Prop :=
  ∃ pieces, List.Forall₂ (Text.Joins ',') texts pieces ∧ names = pieces.flatten.filter (· ≠ "")

/-- Whether some names are sent under a key; none are if nothing is. -/
def OrderedMap.SendsAt (raw : OrderedMap RawValue) (key : String) (names : List String) : Prop :=
  Sends (((raw.find? key).map (·.texts)).getD []) names

/-- The names that are sent are the segments of the value. -/
theorem sends_iff {value : RawValue} {names : List String} :
    Sends value.texts names ↔ value.segments = names := by
  rw [RawValue.segments_eq, List.flatMap_def, eq_comm]
  simp only [Sends, Text.forall₂_joins_iff, exists_eq_left']

instance (texts names : List String) : Decidable (Sends texts names) :=
  decidable_of_iff ((RawValue.many texts).segments = names) sends_iff.symm

-- names are not trimmed
example : Sends ["title,, body", "", "title"] ["title", " body", "title"] := by decide

/-- Without a value no names are sent under a key. -/
theorem sendsAt_iff {raw : OrderedMap RawValue} {key : String} {names : List String} :
    raw.SendsAt key names ↔ ((raw.find? key).map RawValue.segments).getD [] = names := by
  rw [OrderedMap.SendsAt]
  cases raw.find? key with
  | none => exact (sends_iff : Sends (RawValue.many []).texts names ↔ _)
  | some value => exact sends_iff

/-! ## Problems of a key -/

namespace Scope

/-- The type that a key other than the main name stands for. -/
inductive Means (scope : Scope) (key : String) : String → Prop
  | declared {relation : Relation} :
    scope.main.relation? key = some relation → Means scope key relation.target
  | convention :
    scope.main.relation? key = none → Means scope key (Naming.siblingType scope.resourceType key)

/-- The resource that a key leads to, if that is registered. -/
inductive Leads (scope : Scope) (key : String) : Option Metadata → Prop
  | main : key = scope.main.name → Leads scope key (some scope.main)
  | other {type : String} :
    key ≠ scope.main.name → Means scope key type → Leads scope key (scope.registry.find? type)

/-- The problems that the names sent under a key give rise to. -/
inductive Reports (scope : Scope) (key : String) (names : List String) : List Problem → Prop
  | silent : names = [] → Reports scope key names []
  | unknown : names ≠ [] → Leads scope key none → Reports scope key names [.unknownResource key]
  /-- A star excuses all names. -/
  | star {metadata : Metadata} :
    Leads scope key (some metadata) → wildcard ∈ names → Reports scope key names []
  | plain {metadata : Metadata} :
    names ≠ [] → Leads scope key (some metadata) → wildcard ∉ names →
    Reports scope key names
      ((names.filter (· ∉ metadata.selectable)).map (.unknownField key))

variable {scope : Scope} {key : String}

/-- A key means one type. -/
theorem means_iff {type : String} (relational : key ≠ scope.main.name) :
    scope.Means key type ↔ scope.typeOf key = type := by
  -- one rule asks for a declaration and the other for none, so they exclude each other
  rw [typeOf, if_neg (by simpa [isMain] using relational)]
  cases declared : scope.main.relation? key with
  | none =>
    constructor
    · rintro (found | _)
      · rw [declared] at found
        cases found
      · rfl
    · rintro rfl
      exact .convention declared
  | some relation =>
    constructor
    · rintro (found | absent)
      · rw [declared] at found
        cases found
        rfl
      · rw [declared] at absent
        cases absent
    · rintro rfl
      exact .declared declared

/-- A key leads to one description, or to none. -/
theorem leads_iff {found : Option Metadata} :
    scope.Leads key found ↔ scope.metadata? key = found := by
  by_cases main : key = scope.main.name
  · rw [metadata?, isMain, if_pos (decide_eq_true main)]
    constructor
    · rintro (_ | ⟨relational, _⟩)
      · rfl
      · exact absurd main relational
    · rintro rfl
      exact .main main
  · rw [metadata?, isMain, if_neg (mt of_decide_eq_true main)]
    constructor
    · rintro (same | ⟨_, means⟩)
      · exact absurd same main
      · rw [(means_iff main).1 means]
    · rintro rfl
      exact .other main ((means_iff main).2 rfl)

/-- The report on a key is the list of its problems. -/
theorem reports_iff {names : List String} {problems : List Problem} :
    scope.Reports key names problems ↔ Request.fieldProblems scope key names = problems := by
  have unselectable_of_star (metadata : Metadata) (star : wildcard ∈ names) :
      metadata.unselectable names = [] := if_pos (List.contains_iff_mem.2 star)
  have unselectable_of_plain (metadata : Metadata) (plain : wildcard ∉ names) :
      metadata.unselectable names = names.filter (· ∉ metadata.selectable) := by
    rw [Metadata.unselectable, if_neg (mt List.contains_iff_mem.1 plain)]
    refine List.filter_congr fun name _ => ?_
    simp [Metadata.canSelect]
  rw [Request.fieldProblems]
  constructor
  · -- the tests are made in the order of the rules: names, resource, star
    rintro (none | ⟨some, leads⟩ | ⟨leads, star⟩ | ⟨some, leads, plain⟩)
    · rw [if_pos (List.isEmpty_iff.2 none)]
    · rw [if_neg (mt List.isEmpty_iff.1 some), leads_iff.1 leads]
    · rw [if_neg (mt List.isEmpty_iff.1 (List.ne_nil_of_mem star)), leads_iff.1 leads]
      dsimp only
      rw [unselectable_of_star _ star, List.map_nil]
    · rw [if_neg (mt List.isEmpty_iff.1 some), leads_iff.1 leads]
      dsimp only
      rw [unselectable_of_plain _ plain]
  · rintro rfl
    by_cases none : names = []
    · rw [if_pos (List.isEmpty_iff.2 none)]
      exact .silent none
    · rw [if_neg (mt List.isEmpty_iff.1 none)]
      cases known : scope.metadata? key with
      | none => exact .unknown none (leads_iff.2 known)
      | some metadata =>
        dsimp only
        by_cases star : wildcard ∈ names
        · rw [unselectable_of_star _ star, List.map_nil]
          exact .star (leads_iff.2 known) star
        · rw [unselectable_of_plain _ star]
          exact .plain none (leads_iff.2 known) star

end Scope

/-! ## The pass -/

/-- The keys under which names are sent, with the names. -/
def OrderedMap.sentLists (raw : OrderedMap RawValue) : List (String × List String) :=
  (raw.entries.map fun entry => (entry.1, entry.2.segments)).filter (·.2 ≠ [])

/-- The lists that were sent are those with a name. -/
theorem OrderedMap.mem_sentLists_iff {raw : OrderedMap RawValue} {key : String}
    {names : List String} :
    (key, names) ∈ raw.sentLists ↔ names ≠ [] ∧ raw.SendsAt key names := by
  rw [sendsAt_iff, sentLists, List.mem_filter, List.mem_map, decide_eq_true_iff, and_comm]
  refine and_congr_right fun some => ⟨?_, fun sent => ?_⟩
  · rintro ⟨⟨_, value⟩, mem, same⟩
    obtain ⟨rfl, rfl⟩ := Prod.mk.inj same
    rw [(raw.mem_entries_iff _ value).1 mem, Option.map_some, Option.getD_some]
  · cases found : raw.find? key with
    | none =>
      rw [found] at sent
      exact absurd sent.symm some
    | some value =>
      rw [found, Option.map_some, Option.getD_some] at sent
      exact ⟨(key, value), (raw.mem_entries_iff key value).2 found, sent ▸ rfl⟩

/-- The lists that were sent come in the order of their keys. -/
theorem OrderedMap.sentLists_sorted (raw : OrderedMap RawValue) :
    raw.sentLists.Pairwise (·.1 < ·.1) := by
  refine List.Pairwise.filter _ ?_
  rw [List.pairwise_map]
  exact raw.sorted

/-- The same names are sent under every key of two maps exactly if their lists are the same. -/
theorem OrderedMap.sendsAlike_iff {raw other : OrderedMap RawValue} :
    (∀ key, ∃ names, raw.SendsAt key names ∧ other.SendsAt key names) ↔
      raw.sentLists = other.sentLists := by
  constructor
  · intro same
    -- both lists are in the order of their keys, so it is enough that they have the same entries
    refine eq_of_mem_iff_by (·.1) raw.sentLists_sorted other.sentLists_sorted ?_
    rintro ⟨key, names⟩
    obtain ⟨_, sent, sent'⟩ := same key
    rw [mem_sentLists_iff, mem_sentLists_iff, sendsAt_iff, sendsAt_iff, sendsAt_iff.1 sent,
      sendsAt_iff.1 sent']
  · intro same key
    have carried {first second : OrderedMap RawValue} (same : first.sentLists = second.sentLists)
        {names : List String} (some : names ≠ []) (sent : first.SendsAt key names) :
        second.SendsAt key names :=
      (mem_sentLists_iff.1 (same ▸ mem_sentLists_iff.2 ⟨some, sent⟩)).2
    obtain ⟨names, sent⟩ : ∃ names, raw.SendsAt key names := ⟨_, sendsAt_iff.2 rfl⟩
    obtain ⟨names', sent'⟩ : ∃ names, other.SendsAt key names := ⟨_, sendsAt_iff.2 rfl⟩
    -- a key with names is in one list and hence in the other
    by_cases some : names = []
    · by_cases some' : names' = []
      · subst some some'
        exact ⟨[], sent, sent'⟩
      · exact ⟨names', carried same.symm some' sent', sent'⟩
    · exact ⟨names, sent, carried same some sent⟩

namespace Request

variable {scope : Scope} {raw other : OrderedMap RawValue}

/-- A key without names is passed over. -/
theorem select_nil (request : Request) (key : String) : request.select scope key [] = request := rfl

/-- The pass reads the lists that were sent, and then what the main resource has by default. -/
theorem readFields_eq (request : Request) :
    request.readFields scope raw =
      (raw.sentLists.foldl (fun request entry => request.select scope entry.1 entry.2)
        request).defaultMain scope := by
  rw [OrderedMap.sentLists, List.foldl_filter, List.foldl_map, readFields]
  congr
  funext request entry
  split
  case isTrue => rfl
  case isFalse none =>
    have none : entry.2.segments = [] := by simpa using none
    rw [none, select_nil]

/-- The selection is the same if the same names are sent under each key. -/
theorem readFields_congr
    (same : ∀ key, ∃ names, raw.SendsAt key names ∧ other.SendsAt key names) (request : Request) :
    request.readFields scope other = request.readFields scope raw := by
  rw [readFields_eq, readFields_eq, OrderedMap.sendsAlike_iff.1 same]

/-- The problems of the pass are a report for each entry, one behind the other. -/
theorem readFields_problems_eq_iff {request : Request} {problems : List Problem} :
    (request.readFields scope raw).problems = request.problems ++ problems ↔
      ∃ reports, List.Forall₂ (fun entry report => ∃ names, Sends entry.2.texts names ∧
        scope.Reports entry.1 names report) raw.entries reports ∧ problems = reports.flatten := by
  have graph (entry : String × RawValue) (report : List Problem) :
      (∃ names, Sends entry.2.texts names ∧ scope.Reports entry.1 names report) ↔
        fieldProblems scope entry.1 entry.2.segments = report := by
    simp only [sends_iff, Scope.reports_iff, exists_eq_left']
  rw [readFields_problems, List.append_right_inj, List.flatMap_def, eq_comm]
  simp only [forall₂_iff_map_eq graph, exists_eq_left']

/-- On a fresh request the selection meets exactly the problems that are reported of the keys, in
the order of their bytes. What it leaves depends on the names that are sent under each key, and on
nothing else. -/
theorem readFields_reports (scope : Scope) :
    (∀ (raw : OrderedMap RawValue) (resourceType resource : String) (action : Action)
      (problems : List Problem),
      ((start resourceType resource action).readFields scope raw).problems = problems ↔
        ∃ reports, List.Forall₂ (fun entry report => ∃ names, Sends entry.2.texts names ∧
          scope.Reports entry.1 names report) raw.entries reports ∧
            problems = reports.flatten) ∧
      (∀ raw : OrderedMap RawValue, raw.entries.Pairwise fun entry later =>
        Text.Utf8.encode entry.1.toList < Text.Utf8.encode later.1.toList) ∧
      ∀ raw other : OrderedMap RawValue,
        (∀ key, ∃ names, raw.SendsAt key names ∧ other.SendsAt key names) →
        ∀ request : Request, request.readFields scope other = request.readFields scope raw := by
  refine ⟨fun raw resourceType resource action problems => ?_, fun raw => ?_,
    fun raw other same => readFields_congr same⟩
  · show _ = (start resourceType resource action).problems ++ problems ↔ _
    exact readFields_problems_eq_iff
  · exact raw.sorted.imp fun lt => Text.encode_lt (String.lt_iff.1 lt)

/-- Blank texts, empty pieces, a star, a name sent twice and a key that leads nowhere, with the same
names spread over texts in two ways. -/
theorem readFields_reports_blog :
    let sent : OrderedMap RawValue :=
      ⟨[("author", .many ["", ""]), ("comments", .many ["secret,,body", "secret"]),
        ("post", .one "title,*,secret"), ("tags", .one "label,color"),
        ("widgets", .many [",", "id"])], by decide⟩
    let respelled : OrderedMap RawValue :=
      ⟨[("comments", .many ["secret", "body,", "", "secret"]),
        ("post", .many ["title", ",*", "secret"]), ("tags", .many [",label", "color,"]),
        ("widgets", .one "id,")], by decide⟩
    let problems : List Problem :=
      [.unknownField "comments" "secret", .unknownField "comments" "secret",
        .unknownField "tags" "color", .unknownResource "widgets"]
    ∃ scope, Example.strict.scope "Post" = .ok scope ∧
      ((start "Post" "post" .index).readFields scope respelled).problems = problems ∧
      ∃ reports, List.Forall₂ (fun entry report => ∃ names, Sends entry.2.texts names ∧
        scope.Reports entry.1 names report) sent.entries reports ∧ problems = reports.flatten := by
  intro sent respelled problems
  obtain ⟨scope, found⟩ : ∃ scope, Example.strict.scope "Post" = .ok scope := ⟨_, rfl⟩
  obtain ⟨reported, -, alike⟩ := readFields_reports scope
  have met : ((start "Post" "post" .index).readFields scope sent).problems = problems := by
    cases found
    decide +kernel
  refine ⟨scope, found, ?_, (reported sent "Post" "post" .index problems).1 met⟩
  rw [alike sent respelled (OrderedMap.sendsAlike_iff.2 (by decide +kernel)), met]

end Request

end Retrieval
