import Mathlib.Data.List.Forall2
import Retrieval.Statement

/-!
# What writing adds

Text goes into the last piece of a statement or becomes a piece of its own, and spliced pieces are
never joined. So the pieces tell how a statement was written, and not only what it says. What it
says is its text, wherever it is put into another statement, and its values: two statements that are
the same in this are `Alike`.

To write to a statement is, up to this, to put a fragment behind it: that of a text, of an
identifier, of a value, or of several fragments with a text between any two.
-/

namespace Retrieval.Statement

/-- The fragment of an identifier. -/
def ident (ident : Ident) : Statement := raw ident.quoted

/-- The fragment of a bound value. -/
def bound (param : Param) : Statement := ⟨[.placeholder], [param]⟩

/-- The fragments in order, with a text between any two. -/
def joined (separator : String) (fragments : List Statement) : Statement :=
  (fragments.intersperse (raw separator)).foldr (· ++ ·) empty

@[simp] theorem parts_append (a b : Statement) : (a ++ b).parts = a.parts ++ b.parts := rfl

@[simp] theorem params_append (a b : Statement) : (a ++ b).params = a.params ++ b.params := rfl

@[simp] theorem params_raw (text : String) : (raw text).params = [] := rfl

@[simp] theorem params_bound (param : Param) : (bound param).params = [param] := rfl

@[simp] theorem placeholders_append (a b : Statement) :
    (a ++ b).placeholders = a.placeholders + b.placeholders :=
  List.countP_append

@[simp] theorem placeholders_raw (text : String) : (raw text).placeholders = 0 := rfl

@[simp] theorem placeholders_bound (param : Param) : (bound param).placeholders = 1 := rfl

/-- Fragments can be put together in any grouping. -/
theorem append_assoc (a b c : Statement) : a ++ b ++ c = a ++ (b ++ c) := by
  have parts : (a ++ b ++ c).parts = (a ++ (b ++ c)).parts := List.append_assoc ..
  have params : (a ++ b ++ c).params = (a ++ (b ++ c)).params := List.append_assoc ..
  exact congrArg₂ Statement.mk parts params

theorem empty_append (statement : Statement) : empty ++ statement = statement := rfl

/-- The empty fragment adds nothing. -/
theorem append_empty (statement : Statement) : statement ++ empty = statement := by
  obtain ⟨parts, params⟩ := statement
  show Statement.mk (parts ++ []) (params ++ []) = _
  rw [List.append_nil, List.append_nil]

/-- Later pieces are numbered after the placeholders that stand before them. -/
theorem textFrom_append (count : Nat) (a b : List Part) :
    textFrom count (a ++ b) =
      textFrom count a ++ textFrom (count + a.countP Part.isPlaceholder) b := by
  induction a generalizing count with
  | nil => simp [textFrom]
  | cons part a ih =>
    cases part with
    | text s =>
      have count : (Part.text s :: a).countP Part.isPlaceholder = a.countP Part.isPlaceholder :=
        List.countP_cons_of_neg Bool.false_ne_true
      simp [textFrom, ih, String.append_assoc, count]
    | placeholder =>
      have count : (Part.placeholder :: a).countP Part.isPlaceholder =
          1 + a.countP Part.isPlaceholder :=
        (List.countP_cons_of_pos rfl).trans (Nat.add_comm _ 1)
      simp [textFrom, ih, String.append_assoc, count, Nat.add_assoc]

/-- Every fragment but the first has the separator before it. -/
theorem joined_cons (separator : String) (first : Statement) (rest : List Statement) :
    joined separator (first :: rest) =
      first ++ (rest.map (raw separator ++ ·)).foldr (· ++ ·) empty := by
  induction rest generalizing first with
  | nil => rfl
  | cons second rest ih =>
    rw [joined, List.intersperse_cons_cons, List.foldr_cons, List.foldr_cons, ← joined, ih,
      List.map_cons, List.foldr_cons, append_assoc]

/-! ## Statements that say the same -/

/-- Whether two statements have the same text, wherever they are put, and the same values. -/
structure Alike (a b : Statement) : Prop where
  textFrom : ∀ count, textFrom count a.parts = textFrom count b.parts
  placeholders : a.placeholders = b.placeholders
  params : a.params = b.params

namespace Alike

variable {a b c d : Statement}

theorem refl (a : Statement) : Alike a a := ⟨fun _ => rfl, rfl, rfl⟩

theorem symm (h : Alike a b) : Alike b a :=
  ⟨fun count => (h.textFrom count).symm, h.placeholders.symm, h.params.symm⟩

theorem trans (h : Alike a b) (h' : Alike b c) : Alike a c :=
  ⟨fun count => (h.textFrom count).trans (h'.textFrom count), h.placeholders.trans h'.placeholders,
    h.params.trans h'.params⟩

/-- Statements that say the same have the same text. -/
theorem text (h : Alike a b) : a.text = b.text := h.textFrom 0

/-- The check of a finished statement sees the two counts only. -/
theorem validate (h : Alike a b) : a.validate = b.validate := by
  rw [Statement.validate, Statement.validate, h.placeholders, h.params]

/-- Putting together keeps what is said. -/
theorem append (h : Alike a b) (h' : Alike c d) : Alike (a ++ c) (b ++ d) where
  textFrom count := by
    have before : a.parts.countP Part.isPlaceholder = b.parts.countP Part.isPlaceholder :=
      h.placeholders
    rw [parts_append, parts_append, textFrom_append, textFrom_append, h.textFrom, before,
      h'.textFrom]
  placeholders := by
    rw [placeholders_append, placeholders_append, h.placeholders, h'.placeholders]
  params := by rw [params_append, params_append, h.params, h'.params]

/-- A fragment without pieces adds nothing. -/
theorem before_empty (h : Alike a b) : Alike a (b ++ empty) := by rwa [append_empty]

/-- An empty text says nothing. -/
theorem raw_empty : Alike (raw "") empty := ⟨fun _ => rfl, rfl, rfl⟩

end Alike

/-! ## Ways of writing -/

/-- Text that goes into the last piece is read as if it were a piece of its own. -/
theorem alike_writeTo (statement : Statement) (text : String) :
    Alike { statement with parts := writeTo statement.parts text } (statement ++ raw text) := by
  obtain ⟨parts, params⟩ := statement
  have values : params = params ++ [] := (List.append_nil params).symm
  unfold writeTo
  split
  case h_1 last ends =>
    have front : parts.dropLast ++ [.text last] = parts := List.dropLast_append_getLast? _ ends
    refine ⟨fun count => ?_, ?_, values⟩
    · show textFrom count (parts.dropLast ++ [.text (last ++ text)]) =
        textFrom count (parts ++ [.text text])
      rw [← front, textFrom_append, textFrom_append, textFrom_append, List.dropLast_concat,
        String.append_assoc]
      simp only [textFrom, String.append_empty]
    · show List.countP _ (parts.dropLast ++ [.text (last ++ text)]) =
        List.countP _ (parts ++ [.text text])
      rw [← front, List.countP_append, List.countP_append, List.countP_append,
        List.dropLast_concat]
      rfl
  case h_2 => exact ⟨fun _ => rfl, rfl, values⟩

namespace Alike

variable {a b : Statement}

/-- A text that is pushed says the same as a part of its own, though it may be written into the last
one. -/
theorem push (h : Alike a b) (text : String) : Alike (a.push text) (b ++ raw text) := by
  unfold Statement.push
  split
  case isTrue nothing =>
    rw [String.isEmpty_iff] at nothing
    subst nothing
    exact h.before_empty.trans ((refl b).append raw_empty.symm)
  case isFalse => exact (alike_writeTo a text).trans (h.append (refl _))

/-- An identifier that is pushed says the same as a part of its own. -/
theorem pushIdent (h : Alike a b) (i : Ident) : Alike (a.pushIdent i) (b ++ ident i) :=
  (alike_writeTo a i.quoted).trans (h.append (refl _))

/-- A value that is pushed says the same as one put behind. -/
theorem pushValue (h : Alike a b) (param : Param) : Alike (a.pushValue param) (b ++ bound param) :=
  h.append (refl (bound param))

/-- Fragments that are spliced in one after another, each behind the separator. -/
theorem foldl_splice (h : Alike a b) {fragments others : List Statement}
    (each : List.Forall₂ Alike fragments others) (separator : String) :
    Alike (fragments.foldl (fun statement fragment => statement.push separator ++ fragment) a)
      (b ++ (others.map (raw separator ++ ·)).foldr (· ++ ·) empty) := by
  induction each generalizing a b with
  | nil => exact h.before_empty
  | cons first _ ih =>
    rw [List.foldl_cons, List.map_cons, List.foldr_cons, ← append_assoc, ← append_assoc]
    exact ih ((h.push separator).append first)

/-- Fragments that are pushed say the same as a joined fragment put behind. -/
theorem pushJoined (h : Alike a b) {fragments others : List Statement}
    (each : List.Forall₂ Alike fragments others) (separator : String) :
    Alike (a.pushJoined fragments separator) (b ++ joined separator others) := by
  cases each with
  | nil => exact h.before_empty
  | cons first later =>
    rw [joined_cons, ← append_assoc]
    exact (h.append first).foldl_splice later separator

end Alike

end Retrieval.Statement
