import Mathlib.Data.List.Perm.Basic
import Retrieval.Proofs.OrderedMap
import Retrieval.Query.RawParams
import Retrieval.Resource.Metadata

/-!
# Reading what was written

Descriptions of resources and parameters of requests are written as records and read from records.
The fields of a record have no order, so a reader recovers what a writer writes when it reads it
from the fields in any order (`Value.Recovers`). This is shown for texts, lists and maps, and from
these for whole records, because a record is read by looking up the names of its fields.

A relation is written flat: the word for its kind stands among the other fields, and which further
fields there are depends on it. What is read as a relation is said exactly (`Relation.Flat`). One
text and a list of texts are told apart by their form alone (`RawValue.ofValue?_eq_some_iff`).
-/

namespace Retrieval

/-- A list is read entry by entry. -/
theorem mapM_eq_some_iff {α β : Type} {f : α → Option β} {l : List α} {results : List β} :
    l.mapM f = some results ↔ List.Forall₂ (fun a b => f a = some b) l results := by
  induction l generalizing results with
  | nil => simp [eq_comm]
  | cons a rest ih =>
    rw [List.forall₂_cons_left_iff, List.mapM_cons]
    simp only [Option.bind_eq_bind, Option.bind_eq_some_iff, Option.pure_def, Option.some.injEq, ih]
    constructor
    · rintro ⟨b, first, others, later, rfl⟩
      exact ⟨b, others, first, later, rfl⟩
    · rintro ⟨b, others, first, later, rfl⟩
      exact ⟨b, first, others, later, rfl⟩

namespace Value

/-! ## Texts -/

variable {value : Value}

/-- Only a text is read as a text. -/
theorem asText?_eq_some_iff {s : String} : value.asText? = some s ↔ value = .text s := by
  cases value <;> simp [asText?]

/-- A text that may be absent is read from a text or from null. -/
theorem asTextOrNull?_eq_some_iff {s : Option String} :
    value.asTextOrNull? = some s ↔ value = .ofText? s := by
  cases s <;> cases value <;> simp [asTextOrNull?, ofText?]

/-- Texts are read from a list of texts. -/
theorem asTexts?_eq_some_iff {texts : List String} :
    value.asList? asText? = some texts ↔ value = .ofTexts texts := by
  cases value with
  | list items =>
    rw [asList?, mapM_eq_some_iff, ofTexts, Value.list.injEq, ← List.forall₂_eq_eq_eq,
      List.forall₂_map_right_iff]
    simp only [asText?_eq_some_iff]
  | _ => simp [asList?, ofTexts]

/-! ## Fields in any order -/

/-- Two values that differ in the order of the fields of records only, however deep. -/
inductive Reordered : Value → Value → Prop where
  | same (value : Value) : Reordered value value
  | list {items others : List Value} (each : List.Forall₂ Reordered items others) :
    Reordered (.list items) (.list others)
  | record {fields arranged others : List (String × Value)}
    (names : fields.map (·.1) = arranged.map (·.1))
    (each : List.Forall₂ Reordered (fields.map (·.2)) (arranged.map (·.2)))
    (perm : arranged.Perm others) : Reordered (.record fields) (.record others)

/-- A reader recovers what a writer writes, in whatever order the fields of records stand. -/
def Recovers {α : Type} (read? : Value → Option α) (write : α → Value) : Prop :=
  ∀ a value, Reordered (write a) value → read? value = some a

namespace Reordered

/-- A text has no other order. -/
theorem eq_text {s : String} {value : Value} (h : Reordered (.text s) value) : value = .text s := by
  cases h
  rfl

/-- A text that may be absent has no other order. -/
theorem eq_ofText? {s : Option String} {value : Value} (h : Reordered (.ofText? s) value) :
    value = .ofText? s := by
  cases s with
  | none =>
    cases h
    rfl
  | some s => exact eq_text h

/-- Texts in a list keep their places. -/
theorem eq_ofTexts {texts : List String} {value : Value} (h : Reordered (.ofTexts texts) value) :
    value = .ofTexts texts := by
  cases h with
  | same => rfl
  | @list _ items each =>
    have placed : List.Forall₂ (fun s item => Value.text s = item) texts items :=
      (List.forall₂_map_left_iff.1 each).imp fun _ _ item => (eq_text item).symm
    have eq : texts.map .text = items := by
      rw [← List.forall₂_eq_eq_eq]
      exact List.forall₂_map_left_iff.2 placed
    rw [ofTexts, eq]

/-- A record stays a record. Its fields are first reordered each for itself and then change their
places. -/
theorem of_record {fields : List (String × Value)} {value : Value}
    (h : Reordered (.record fields) value) : ∃ arranged others : List (String × Value),
      value = .record others ∧ arranged.Perm others ∧
      List.Forall₂ (fun field other => field.1 = other.1 ∧ Reordered field.2 other.2) fields
        arranged := by
  cases h with
  | same => exact ⟨fields, fields, rfl, .refl _, List.forall₂_same.2 fun field _ => ⟨rfl, .same _⟩⟩
  | @record _ arranged others names each perm =>
    rw [← List.forall₂_eq_eq_eq, List.forall₂_map_left_iff, List.forall₂_map_right_iff] at names
    rw [List.forall₂_map_left_iff, List.forall₂_map_right_iff] at each
    exact ⟨arranged, others, rfl, perm, names.mp (fun _ _ => And.intro) each⟩

/-- The fields of a record of texts and nulls only change their places. -/
theorem perm_of_texts {fields : List (String × Value)} {value : Value}
    (h : Reordered (.record fields) value) (plain : ∀ field ∈ fields, ∃ s, field.2 = .ofText? s) :
    ∃ others, value = .record others ∧ fields.Perm others := by
  obtain ⟨arranged, others, rfl, perm, each⟩ := h.of_record
  have eq : fields = arranged := by
    rw [← List.forall₂_eq_eq_eq]
    refine ((List.forall₂_and_left _ _).2 ⟨plain, each⟩).imp ?_
    rintro field other ⟨⟨s, written⟩, name, same⟩
    rw [written] at same
    exact Prod.ext name (written.trans same.eq_ofText?.symm)
  exact ⟨others, rfl, eq ▸ perm⟩

/-- A record keeps its names, and under each of them the same value. -/
theorem exists_record {fields : List (String × Value)} {value : Value}
    (h : Reordered (.record fields) value) (nodup : (fields.map (·.1)).Nodup) :
    ∃ others, value = .record others ∧ (fields.map (·.1)).Perm (others.map (·.1)) ∧
      ∀ name, Option.Rel Reordered (fields.lookup name) (others.lookup name) := by
  obtain ⟨arranged, others, rfl, perm, each⟩ := h.of_record
  have names : fields.map (·.1) = arranged.map (·.1) := by
    rw [← List.forall₂_eq_eq_eq, List.forall₂_map_left_iff, List.forall₂_map_right_iff]
    exact each.imp fun _ _ => And.left
  refine ⟨others, rfl, names ▸ perm.map (·.1), fun name => ?_⟩
  rw [OrderedMap.lookup_perm perm (names ▸ nodup)]
  clear perm names nodup h
  induction each with
  | nil => exact .none
  | cons first _ ih =>
    rw [OrderedMap.lookup_cons, OrderedMap.lookup_cons, first.1]
    split
    · exact .some first.2
    · exact ih

end Reordered

/-! ## Parts of records -/

namespace Recovers

variable {α : Type} {read? : Value → Option α} {write : α → Value}

/-- A text is read back. -/
theorem texts : Recovers asText? .text := fun _ _ h => asText?_eq_some_iff.2 h.eq_text

/-- A text that may be absent is read back. -/
theorem textsOrNull : Recovers asTextOrNull? .ofText? :=
  fun _ _ h => asTextOrNull?_eq_some_iff.2 h.eq_ofText?

/-- A list of texts is read back. -/
theorem lists : Recovers (asList? asText?) .ofTexts :=
  fun _ _ h => asTexts?_eq_some_iff.2 h.eq_ofTexts

/-- A map is recovered when its values are: its names put the entries back into their order. -/
theorem maps (h : Recovers read? write) : Recovers (asMap? read?) (.ofMap write) := by
  intro m value reordered
  obtain ⟨arranged, others, rfl, perm, each⟩ := reordered.of_record
  -- every field is read as the entry that it was written for
  have read : List.Forall₂ (fun (field : String × Value) entry =>
      (do return (field.1, ← read? field.2)) = some entry) arranged m.entries := by
    refine (List.forall₂_map_left_iff.1 each).flip.imp ?_
    rintro ⟨name, written⟩ ⟨name, a⟩ ⟨rfl, same⟩
    rw [h a written same]
    rfl
  obtain ⟨entries, all, arranged⟩ := List.perm_comp_forall₂ perm.symm read
  rw [asMap?, mapM_eq_some_iff.2 all]
  exact congrArg some (OrderedMap.ofList_of_perm arranged.symm)

variable {fields others : List (String × Value)} {name : String} {a : α}

/-- A field is recovered where it was written. -/
theorem field (h : Recovers read? write)
    (same : Option.Rel Reordered (fields.lookup name) (others.lookup name))
    (written : fields.lookup name = some (write a)) :
    required? read? name others = some a ∧
      ∀ default, optional? default read? name others = some a := by
  rw [written] at same
  obtain ⟨value, found, reordered⟩ : ∃ value, others.lookup name = some value ∧
      Reordered (write a) value := by
    cases found : others.lookup name with
    | none => rw [found] at same; cases same
    | some value => rw [found] at same; cases same; exact ⟨_, rfl, ‹_›⟩
  have read := h a value reordered
  exact ⟨by rw [required?, found]; exact read, fun default => by rw [optional?, found]; exact read⟩

end Recovers

end Value

/-! ## Relations -/

namespace Relation

/-- The keys of a kind under their names. -/
def Kind.ownKeys : Kind → List (String × Option String)
  | toOne key | toMany key => [("foreign_key", key)]
  | manyToMany pivot foreign related =>
    [("pivot", pivot), ("foreign_pivot_key", foreign), ("related_pivot_key", related)]

/-- What the fields of a record have to be so that it is read as a relation: the target and the word
for the kind stand beside the keys of the kind, each a text or null, and an absent key may be left
out. Whatever else there is counts for nothing, as long as its numbers are not too large. -/
structure Flat (form : Value.Form) (fields : List (String × Value)) (relation : Relation) :
    Prop where
  target : fields.lookup "target" = some (.text relation.target)
  kind : ∃ tag, fields.lookup "kind" = some tag ∧ kindWord? form tag = some relation.kind.word
  keys : ∀ entry ∈ relation.kind.ownKeys, fields.lookup entry.1 = some (.ofText? entry.2) ∨
    fields.lookup entry.1 = none ∧ entry.2 = none
  bounded : ∀ field ∈ fields, field.2.isBounded

/-- A word stands for one kind. -/
theorem Kind.word_of_ofWord? {word : String} {kind : Kind} (h : ofWord? word = some kind) :
    word = kind.word := by
  unfold ofWord? at h
  split at h
  case h_4 => exact nomatch h
  all_goals exact Option.some.inj h ▸ rfl

/-- A key that may be null or left out. -/
theorem optional?_eq_some_iff {name : String} {fields : List (String × Value)}
    {key : Option String} : Value.optional? none Value.asTextOrNull? name fields = some key ↔
      fields.lookup name = some (.ofText? key) ∨ fields.lookup name = none ∧ key = none := by
  rw [Value.optional?]
  cases fields.lookup name with
  | none => simp [eq_comm]
  | some value => simp [Value.asTextOrNull?_eq_some_iff]

/-- A text that has to be there stands under its name. -/
theorem required?_eq_some_iff {name s : String} {fields : List (String × Value)} :
    Value.required? Value.asText? name fields = some s ↔ fields.lookup name = some (.text s) := by
  simp only [Value.required?, Option.bind_eq_bind, Option.bind_eq_some_iff,
    Value.asText?_eq_some_iff, exists_eq_right]

/-- The kind is read from its word, and its keys from under the names that the kind has for them. -/
theorem kind?_eq_some_iff {form : Value.Form} {fields : List (String × Value)} {kind : Kind} :
    kind? form fields = some kind ↔
      (∃ tag, fields.lookup "kind" = some tag ∧ kindWord? form tag = some kind.word) ∧
        ∀ entry ∈ kind.ownKeys,
          Value.optional? none Value.asTextOrNull? entry.1 fields = some entry.2 := by
  simp only [kind?, Option.bind_eq_bind, Option.bind_eq_some_iff, Option.pure_def]
  constructor
  · -- the word decides which keys are looked up
    rintro ⟨tag, found, word, worded, plain, known, named⟩
    obtain rfl := Kind.word_of_ofWord? known
    cases plain with
    | toOne | toMany =>
      simp only [Option.bind_eq_some_iff, Option.some.injEq] at named
      obtain ⟨key, given, rfl⟩ := named
      exact ⟨⟨tag, found, worded⟩, by simpa [Kind.ownKeys] using given⟩
    | manyToMany =>
      simp only [Option.bind_eq_some_iff, Option.some.injEq] at named
      obtain ⟨pivot, givenPivot, foreign, givenForeign, related, givenRelated, rfl⟩ := named
      refine ⟨⟨tag, found, worded⟩, ?_⟩
      simpa [Kind.ownKeys] using ⟨givenPivot, givenForeign, givenRelated⟩
  · rintro ⟨⟨tag, found, worded⟩, given⟩
    refine ⟨tag, found, kind.word, worded, ?_⟩
    cases kind with
    | toOne key | toMany key =>
      simp only [Kind.ownKeys, List.forall_mem_cons] at given
      exact ⟨_, rfl, by simp [given]⟩
    | manyToMany pivot foreign related =>
      simp only [Kind.ownKeys, List.forall_mem_cons] at given
      exact ⟨_, rfl, by simp [given]⟩

/-- A value is read as a relation exactly when it is a record that spells it. -/
theorem ofValue?_eq_some_iff {form : Value.Form} {value : Value} {relation : Relation} :
    ofValue? form value = some relation ↔
      ∃ fields, value = .record fields ∧ relation.Flat form fields := by
  cases value with
  | record fields =>
    simp only [ofValue?, Option.ite_none_right_eq_some, List.all_eq_true, Option.bind_eq_bind,
      Option.bind_eq_some_iff, Option.pure_def, Option.some.injEq, Value.record.injEq,
      exists_eq_left', kind?_eq_some_iff, optional?_eq_some_iff]
    constructor
    · rintro ⟨bounded, target, aimed, kind, ⟨tagged, keys⟩, rfl⟩
      exact ⟨required?_eq_some_iff.1 aimed, tagged, keys, bounded⟩
    · intro flat
      exact ⟨flat.bounded, _, required?_eq_some_iff.2 flat.target, _, ⟨flat.kind, flat.keys⟩, rfl⟩
  | _ => simp [ofValue?]

/-- The fields that a relation is written in. -/
def fields (relation : Relation) : List (String × Value) :=
  ("target", .text relation.target) :: ("kind", .text relation.kind.word) ::
    relation.kind.ownKeys.map fun entry => (entry.1, .ofText? entry.2)

/-- A relation is written as the record of its fields. -/
theorem toValue_eq (relation : Relation) : relation.toValue = .record relation.fields := by
  obtain ⟨target, kind⟩ := relation
  cases kind <;> rfl

/-- No field of a relation is written twice. -/
theorem nodup_fields (relation : Relation) : (relation.fields.map (·.1)).Nodup := by
  obtain ⟨target, kind⟩ := relation
  cases kind <;> simp [fields, Kind.ownKeys]

/-- Every field of a relation is a text or null. -/
theorem plain_fields (relation : Relation) :
    ∀ field ∈ relation.fields, ∃ s, field.2 = Value.ofText? s := by
  intro field mem
  rcases List.mem_cons.1 mem with rfl | mem
  · exact ⟨some relation.target, rfl⟩
  · rcases List.mem_cons.1 mem with rfl | mem
    · exact ⟨some relation.kind.word, rfl⟩
    · obtain ⟨entry, -, rfl⟩ := List.mem_map.1 mem
      exact ⟨entry.2, rfl⟩

/-- A relation is written flat. -/
theorem flat_fields (form : Value.Form) (relation : Relation) :
    relation.Flat form relation.fields where
  target := rfl
  kind := ⟨.text relation.kind.word, rfl, rfl⟩
  keys := by
    obtain ⟨target, kind⟩ := relation
    cases kind <;> simp [fields, Kind.ownKeys, OrderedMap.lookup_cons]
  bounded := by
    intro field mem
    obtain ⟨s, text⟩ := relation.plain_fields field mem
    rw [text]
    cases s <;> rfl

/-- Fields may change their places. -/
theorem Flat.of_perm {form : Value.Form} {relation : Relation}
    {fields others : List (String × Value)} (flat : relation.Flat form fields) (perm : fields.Perm others)
    (nodup : (fields.map (·.1)).Nodup) : relation.Flat form others := by
  have same := OrderedMap.lookup_perm perm nodup
  refine ⟨?_, ?_, ?_, fun field mem => flat.bounded field (perm.mem_iff.2 mem)⟩
  · rw [same]
    exact flat.target
  · rw [same]
    exact flat.kind
  · intro entry mem
    rw [same]
    exact flat.keys entry mem

/-- A relation is read back from its record, the fields in any order. -/
theorem recovers (form : Value.Form) : Value.Recovers (ofValue? form) toValue := by
  intro relation value h
  rw [toValue_eq] at h
  obtain ⟨others, rfl, perm⟩ := h.perm_of_texts relation.plain_fields
  have flat := (flat_fields form relation).of_perm perm relation.nodup_fields
  exact ofValue?_eq_some_iff.2 ⟨others, rfl, flat⟩

end Relation

/-! ## Descriptions of resources -/

/-- A record of declared names is read whatever the order of its fields. -/
theorem Value.fields?_of_perm (form : Form) {names : List String} {fields : List (String × Value)}
    (perm : names.Perm (fields.map (·.1))) :
    (Value.record fields).fields? form names = some fields := by
  rw [Value.fields?, if_pos]
  rw [List.all_eq_true]
  intro field mem
  have declared := perm.mem_iff.2 (List.mem_map_of_mem mem)
  rw [List.contains_iff_mem.2 declared, Bool.true_or]

namespace Metadata

/-- A description is read back from its record, the fields in any order. -/
theorem recovers (form : Value.Form) : Value.Recovers (ofValue? form) toValue := by
  intro metadata value h
  obtain ⟨others, rfl, names, same⟩ :=
    Value.Reordered.exists_record h (show fieldNames.Nodup by decide)
  have known := Value.fields?_of_perm form names
  have name := (Value.Recovers.texts.field (same "name") rfl).1
  have table := (Value.Recovers.texts.field (same "table") rfl).1
  have primaryKey := (Value.Recovers.texts.field (same "primary_key") rfl).2 defaultKey
  have selectable := (Value.Recovers.lists.field (same "selectable") rfl).2 []
  have sortable := (Value.Recovers.lists.field (same "sortable") rfl).2 []
  have alternateKey := (Value.Recovers.textsOrNull.field (same "alternate_key") rfl).2 none
  have relations := ((Relation.recovers form).maps.field (same "relations") rfl).2 .empty
  have known : (Value.record others).fields? form fieldNames = some others := known
  simp only [ofValue?, known, name, table, primaryKey, selectable, sortable, alternateKey,
    relations, Option.bind_eq_bind, Option.bind_some, Option.pure_def]

end Metadata

/-! ## Parameters of requests -/

namespace RawValue

/-- A value is read as a raw value exactly when the raw value is written so: a text is one text, and
a list of texts is several, however many it holds. -/
theorem ofValue?_eq_some_iff {value : Value} {raw : RawValue} :
    ofValue? value = some raw ↔ value = raw.toValue := by
  cases raw with
  | one text => cases value <;> simp [ofValue?, toValue, Value.asList?]
  | many texts =>
    rw [toValue, ← Value.asTexts?_eq_some_iff]
    cases value <;> simp [ofValue?, Value.asList?]

/-- One text or several are read back. -/
theorem recovers : Value.Recovers ofValue? toValue := by
  intro raw value h
  refine ofValue?_eq_some_iff.2 ?_
  cases raw with
  | one text => exact h.eq_text
  | many texts => exact h.eq_ofTexts

end RawValue

namespace RawParams

/-- Parameters are read back from their record, the fields in any order. -/
theorem recovers : Value.Recovers ofValue? toValue := by
  intro params value h
  obtain ⟨others, rfl, names, same⟩ :=
    Value.Reordered.exists_record h (show fieldNames.Nodup by decide)
  have known : (Value.record others).fields? .json fieldNames = some others :=
    Value.fields?_of_perm .json names
  have fields := (RawValue.recovers.maps.field (same "fields") rfl).2 .empty
  have filters := (RawValue.recovers.maps.field (same "filters") rfl).2 .empty
  have limit := (RawValue.recovers.maps.field (same "limit") rfl).2 .empty
  have sorting := (Value.Recovers.textsOrNull.field (same "sorting") rfl).2 none
  have page := (Value.Recovers.textsOrNull.field (same "page") rfl).2 none
  have perPage := (Value.Recovers.textsOrNull.field (same "per_page") rfl).2 none
  have unalias : others.lookup "sort" = none := by
    cases found : others.lookup "sort" with
    | none => rfl
    | some value =>
      have absent := same "sort"
      rw [found] at absent
      exact nomatch absent
  simp only [ofValue?, known, unalias, fields, filters, limit, sorting, page, perPage,
    Option.bind_eq_bind, Option.bind_some, Option.pure_def]

end RawParams

/-! ## Both formats -/

/-- Descriptions of resources and parameters of requests are read back from what they are written
as, in whatever order the fields of their records stand. A relation is written flat, as its target,
the word for its kind and the keys of the kind, and from such fields, and no others, it is read. A
raw value is read from what it is written as and from nothing else, so a text is never taken for a
list of one text. -/
theorem records_readBack :
    (∀ (form : Value.Form) (metadata : Metadata) (value : Value),
      Value.Reordered metadata.toValue value → Metadata.ofValue? form value = some metadata) ∧
    (∀ (params : RawParams) (value : Value),
      Value.Reordered params.toValue value → RawParams.ofValue? value = some params) ∧
    (∀ relation : Relation, relation.toValue = .record relation.fields ∧
      ∀ (form : Value.Form) (value : Value), Relation.ofValue? form value = some relation ↔
        ∃ fields, value = .record fields ∧ relation.Flat form fields) ∧
    ∀ (raw : RawValue) (value : Value),
      RawValue.ofValue? value = some raw ↔ value = raw.toValue := by
  refine ⟨fun form => Metadata.recovers form, RawParams.recovers, fun relation => ?_, ?_⟩
  · exact ⟨relation.toValue_eq, fun form value => Relation.ofValue?_eq_some_iff⟩
  · exact fun raw value => RawValue.ofValue?_eq_some_iff

/-- A description with a relation of every kind, some of their keys given, its fields from last to
first; and parameters with one text, a list of one text and a list of none. -/
theorem records_readBack_post :
    let post : Metadata := { Metadata.basic "post" "posts" with
      selectable := ["id", "title"]
      alternateKey := some "slug"
      relations := ⟨[("author", ⟨"User", .toOne (some "written_by")⟩),
        ("comments", ⟨"Comment", .toMany none⟩),
        ("tags", ⟨"Tag", .manyToMany none (some "article") none⟩)], by decide⟩ }
    let params : RawParams := { RawParams.empty with
      fields := ⟨[("author", .one "*"), ("post", .many ["title"]), ("tags", .many [])], by decide⟩
      page := some "" }
    (∃ fields, post.toValue = .record fields ∧
      Metadata.ofValue? .json (.record fields.reverse) = some post) ∧
    RawParams.ofValue? params.toValue = some params := by
  intro post params
  have reversed (fields : List (String × Value)) :
      Value.Reordered (.record fields) (.record fields.reverse) :=
    .record rfl (List.forall₂_same.2 fun value _ => .same value) (List.reverse_perm fields).symm
  exact ⟨⟨_, rfl, records_readBack.1 .json post _ (reversed _)⟩,
    records_readBack.2.1 params _ (.same _)⟩

end Retrieval
