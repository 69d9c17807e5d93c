import Retrieval.Environment.Template
import Retrieval.Proofs.Except
import Retrieval.Proofs.Text.Beginnings

/-!
# Expanding templates

`Reaches` follows a reader of a template from left to right, who passes a character that opens no
reference, or a reference up to its first closing brace. A template can be expanded when the reader
can look up every reference that he meets (`exists_substitutes_iff`).

`Substitutes` relates a template to its text, and expanding a template finds it
(`expand_eq_ok_iff`). The value of a variable is part of the text there and not of what is still to
be read. So templates can be expanded in parts, unless a cut between them takes a reference apart
(`Substitutes.append`).
-/

namespace Retrieval.Template

/-- The beginning of a reference. -/
def opening : List Char := ['$', '\x7b']

/-- What a reader of a text may still have to read when he is outside of a reference. -/
inductive Reaches (text : List Char) : List Char → Prop where
  | start : Reaches text text
  | char {c : Char} {rest : List Char} (reached : Reaches text (c :: rest))
      (plain : ¬opening <+: c :: rest) : Reaches text rest
  | reference {name rest : List Char}
      (reached : Reaches text ('$' :: '\x7b' :: (name ++ '\x7d' :: rest))) (closes : '\x7d' ∉ name) :
      Reaches text rest

/-- Whether what stands behind the beginning of a reference closes it and names a variable with a
value. -/
def Refers (env : Environment) (behind : List Char) : Prop :=
  ∃ name rest value, behind = name ++ '\x7d' :: rest ∧ '\x7d' ∉ name ∧ name ≠ [] ∧
    env.value? (String.ofList name) = some value

/-- A template and its text: the values of variables for the references to them, and every other
character for itself. -/
inductive Substitutes (env : Environment) : List Char → List Char → Prop where
  | nil : Substitutes env [] []
  | char {c : Char} {rest result : List Char} (plain : ¬opening <+: c :: rest)
      (behind : Substitutes env rest result) : Substitutes env (c :: rest) (c :: result)
  | reference {name rest result : List Char} {value : String} (closes : '\x7d' ∉ name)
      (named : name ≠ []) (set : env.value? (String.ofList name) = some value)
      (behind : Substitutes env rest result) :
      Substitutes env ('$' :: '\x7b' :: (name ++ '\x7d' :: rest)) (value.toList ++ result)

variable {env : Environment} {text rest name result : List Char}

/-! ## Readers -/

/-- A reference opens with a dollar sign and a brace. -/
theorem opening_prefix_iff {c : Char} :
    opening <+: c :: rest ↔ c = '$' ∧ ∃ behind, rest = '\x7b' :: behind := by
  rw [opening, List.cons_prefix_cons]
  cases rest with
  | nil => simp
  | cons d behind => simp [eq_comm]

/-- A character that begins no reference is a piece by itself. -/
theorem plain_of_pieces {c : Char} (plain : ∀ behind, c = '$' → rest = '\x7b' :: behind → False) :
    ¬opening <+: c :: rest := by
  rw [opening_prefix_iff]
  rintro ⟨dollar, behind, brace⟩
  exact plain behind dollar brace

/-- What is reached in two goes is reached in one. -/
theorem Reaches.trans {later : List Char} (h : Reaches text rest) (h' : Reaches rest later) :
    Reaches text later := by
  induction h' with
  | start => exact h
  | char _ plain ih => exact .char ih plain
  | reference _ closes ih => exact .reference ih closes

/-! ## Texts of templates -/

/-- The empty template gives the empty text. -/
theorem substitutes_nil_iff : Substitutes env [] result ↔ result = [] := by
  constructor
  · intro h
    cases h
    rfl
  · rintro rfl
    exact .nil

/-- A character that opens no reference stands for itself. -/
theorem substitutes_char_iff {c : Char} (plain : ¬opening <+: c :: rest) :
    Substitutes env (c :: rest) result ↔
      ∃ behind, Substitutes env rest behind ∧ c :: behind = result := by
  constructor
  · intro h
    cases h with
    | char _ behind => exact ⟨_, behind, rfl⟩
    | reference => exact absurd ⟨_, rfl⟩ plain
  · rintro ⟨behind, h, rfl⟩
    exact .char plain h

/-- A reference stands for the value of its variable, which has to be named and set. -/
theorem substitutes_reference_iff (closes : '\x7d' ∉ name) :
    Substitutes env ('$' :: '\x7b' :: (name ++ '\x7d' :: rest)) result ↔
      name ≠ [] ∧ ∃ value behind, env.value? (String.ofList name) = some value ∧
        Substitutes env rest behind ∧ value.toList ++ behind = result := by
  constructor
  · intro h
    -- the head fixes the rule, and the first closing brace the name
    generalize eq : '$' :: '\x7b' :: (name ++ '\x7d' :: rest) = whole at h
    cases h with
    | nil => cases eq
    | char plain =>
      refine absurd ⟨name ++ '\x7d' :: rest, ?_⟩ plain
      exact eq
    | reference closes' named set behind =>
      simp only [List.cons.injEq, true_and] at eq
      obtain ⟨rfl, rfl⟩ := Text.append_sep_inj closes closes' eq
      exact ⟨named, _, _, set, behind, rfl⟩
  · rintro ⟨named, value, behind, set, h, rfl⟩
    exact .reference closes named set h

/-- A reference without an end gives nothing. -/
theorem not_substitutes_unclosed (unclosed : '\x7d' ∉ rest) :
    ¬Substitutes env ('$' :: '\x7b' :: rest) result := by
  intro h
  generalize eq : '$' :: '\x7b' :: rest = whole at h
  cases h with
  | nil => cases eq
  | char plain => exact absurd ⟨rest, eq⟩ plain
  | reference =>
    simp only [List.cons.injEq, true_and] at eq
    simp [eq] at unclosed

/-- A reference is expanded to the value of its variable. -/
theorem expand_reference_iff {part : List Char} :
    (Piece.reference name).expand env = .ok part ↔
      name ≠ [] ∧ ∃ value, env.value? (String.ofList name) = some value ∧ value.toList = part := by
  rw [Piece.expand]
  cases name with
  | nil => simp
  | cons c name => cases env.value? (String.ofList (c :: name)) <;> simp

/-- Whether some pieces have a text when they are put one behind the other. -/
def Yields (env : Environment) (pieces : List Piece) (result : List Char) : Prop :=
  ∃ parts, pieces.mapM (Piece.expand env) = .ok parts ∧ parts.flatten = result

/-- Pieces are expanded one by one. -/
theorem yields_cons_iff {piece : Piece} {others : List Piece} :
    Yields env (piece :: others) result ↔
      ∃ part behind, piece.expand env = .ok part ∧ Yields env others behind ∧
        part ++ behind = result := by
  simp only [Yields, List.mapM_cons, Except.bind_eq_ok_iff, Except.pure_eq_ok_iff]
  constructor
  · rintro ⟨_, ⟨part, first, parts, later, rfl⟩, rfl⟩
    exact ⟨part, parts.flatten, first, ⟨parts, later, rfl⟩, List.flatten_cons.symm⟩
  · rintro ⟨part, _, first, ⟨parts, later, rfl⟩, rfl⟩
    exact ⟨part :: parts, ⟨part, first, parts, later, rfl⟩, List.flatten_cons⟩

/-- The text of a template is made piece by piece. -/
theorem yields_pieces_iff : Yields env (pieces text) result ↔ Substitutes env text result := by
  fun_induction pieces text generalizing result with
  | case1 rest name after h _ ih =>
    obtain ⟨rfl, closes⟩ := Text.cut_eq_some_iff.1 h
    rw [yields_cons_iff, substitutes_reference_iff closes]
    simp only [expand_reference_iff, ih]
    constructor
    · rintro ⟨_, behind, ⟨named, value, set, rfl⟩, yields, rfl⟩
      exact ⟨named, value, behind, set, yields, rfl⟩
    · rintro ⟨named, value, behind, set, yields, rfl⟩
      exact ⟨_, behind, ⟨named, value, set, rfl⟩, yields, rfl⟩
  | case2 rest name h =>
    obtain ⟨rfl, unclosed⟩ := Text.cut_eq_none_iff.1 h
    rw [yields_cons_iff]
    simp [Piece.expand, not_substitutes_unclosed unclosed]
  | case3 c rest plain ih =>
    rw [yields_cons_iff, substitutes_char_iff (plain_of_pieces plain)]
    simp [Piece.expand, ih]
  | case4 =>
    rw [substitutes_nil_iff, Yields, List.mapM_nil]
    simp only [Except.pure_eq_ok_iff, exists_eq_left', List.flatten_nil]
    exact eq_comm

/-- Expanding a template finds its text. -/
theorem expand_eq_ok_iff {template result : String} : expand env template = .ok result ↔
    Substitutes env template.toList result.toList := by
  rw [← yields_pieces_iff, Yields, expand]
  simp only [Except.bind_eq_ok_iff, Except.pure_eq_ok_iff, ← String.toList_inj, String.toList_ofList]

/-! ## Which templates have a text -/

/-- Wherever a reader gets to in a template with a text, the rest has a text. -/
theorem Substitutes.of_reaches (h : Substitutes env text result) (reached : Reaches text rest) :
    ∃ behind, Substitutes env rest behind := by
  induction reached with
  | start => exact ⟨result, h⟩
  | char _ plain ih =>
    obtain ⟨_, ih⟩ := ih
    obtain ⟨behind, h, -⟩ := (substitutes_char_iff plain).1 ih
    exact ⟨behind, h⟩
  | reference _ closes ih =>
    obtain ⟨_, ih⟩ := ih
    obtain ⟨-, -, behind, -, h, -⟩ := (substitutes_reference_iff closes).1 ih
    exact ⟨behind, h⟩

/-- A template has a text when every reference in it is closed and names a variable with a value. -/
theorem exists_substitutes_iff : (∃ result, Substitutes env text result) ↔
    ∀ behind, Reaches text ('$' :: '\x7b' :: behind) → Refers env behind := by
  constructor
  · rintro ⟨result, h⟩ behind reached
    obtain ⟨_, h⟩ := h.of_reaches reached
    -- what is reached has a text too, and only a closed reference has one
    cases cut : Text.cut '\x7d' behind with
    | mk name rest? =>
      cases rest? with
      | none =>
        exact absurd h (not_substitutes_unclosed (Text.cut_eq_none_iff.1 cut).2)
      | some rest =>
        obtain ⟨rfl, closes⟩ := Text.cut_eq_some_iff.1 cut
        obtain ⟨named, value, -, set, -⟩ := (substitutes_reference_iff closes).1 h
        exact ⟨name, rest, value, rfl, closes, named, set⟩
  · intro refers
    -- everything that is reached behind a piece is reached from the whole template
    fun_induction pieces text with
    | case1 rest name after h _ ih =>
      obtain ⟨rfl, closes⟩ := Text.cut_eq_some_iff.1 h
      obtain ⟨name', rest', value, eq, closes', named, set⟩ := refers _ .start
      obtain ⟨rfl, rfl⟩ := Text.append_sep_inj closes closes' eq
      have passed : Reaches ('$' :: '\x7b' :: (name ++ '\x7d' :: after)) after :=
        .reference .start closes
      obtain ⟨result, substitutes⟩ := ih fun behind reached => refers behind (passed.trans reached)
      exact ⟨_, .reference closes named set substitutes⟩
    | case2 rest name h =>
      obtain ⟨-, unclosed⟩ := Text.cut_eq_none_iff.1 h
      obtain ⟨name', rest', -, rfl, -⟩ := refers _ .start
      simp at unclosed
    | case3 c rest plain ih =>
      have plain := plain_of_pieces plain
      have passed : Reaches (c :: rest) rest := .char .start plain
      obtain ⟨result, substitutes⟩ := ih fun behind reached => refers behind (passed.trans reached)
      exact ⟨_, .char plain substitutes⟩
    | case4 => exact ⟨[], .nil⟩

/-- A template without references is its own text. -/
theorem substitutes_self (none : ¬opening <:+: text) : Substitutes env text text := by
  induction text with
  | nil => exact .nil
  | cons c rest ih =>
    rw [List.infix_cons_iff, not_or] at none
    exact .char none.1 (ih none.2)

/-- Templates are expanded in parts if the first does not end in a dollar sign, which the second
might take for the beginning of a reference. -/
theorem Substitutes.append {others more : List Char} (h : Substitutes env text result)
    (h' : Substitutes env others more) (last : text.getLast? ≠ some '$') :
    Substitutes env (text ++ others) (result ++ more) := by
  induction h with
  | nil => exact h'
  | @char c rest result plain _ ih =>
    refine .char ?_ (ih ?_)
    · -- what opens a reference now stands in the first template, or on either side of the cut
      intro opened
      obtain ⟨rfl, behind, eq⟩ := opening_prefix_iff.1 opened
      cases rest with
      | nil => exact last rfl
      | cons d rest =>
        obtain ⟨rfl, -⟩ := List.cons.inj eq
        exact plain (opening_prefix_iff.2 ⟨rfl, rest, rfl⟩)
    · intro eq
      rw [List.getLast?_cons, eq] at last
      exact last rfl
  | @reference name rest result value closes named set _ ih =>
    have last : rest.getLast? ≠ some '$' := by
      intro eq
      simp [List.getLast?_cons, List.getLast?_append, eq] at last
    have joined := Substitutes.reference closes named set (ih last)
    simpa only [List.cons_append, List.append_assoc] using joined

/-! ## Expansion -/

/-- A template is expanded if and only if a reader can look up every reference that he meets. What
it is expanded to has the values in their places and all else as it was; so a template without
references is its own text, and templates can be expanded in parts. -/
theorem expand_reads (env : Environment) :
    (∀ template, (∃ result, expand env template = .ok result) ↔
      ∀ behind, Reaches template.toList ('$' :: '\x7b' :: behind) → Refers env behind) ∧
    (∀ template result, expand env template = .ok result ↔
      Substitutes env template.toList result.toList) ∧
    (∀ template, ¬opening <:+: template.toList → expand env template = .ok template) ∧
    ∀ template other result more, expand env template = .ok result →
      expand env other = .ok more → template.toList.getLast? ≠ some '$' →
      expand env (template ++ other) = .ok (result ++ more) := by
  refine ⟨fun template => ?_, fun _ _ => expand_eq_ok_iff, ?_, ?_⟩
  · rw [← exists_substitutes_iff]
    constructor
    · rintro ⟨result, h⟩
      exact ⟨result.toList, expand_eq_ok_iff.1 h⟩
    · rintro ⟨result, h⟩
      refine ⟨String.ofList result, expand_eq_ok_iff.2 ?_⟩
      rwa [String.toList_ofList]
  · intro template none
    exact expand_eq_ok_iff.2 (substitutes_self none)
  · intro template other result more h h' last
    rw [expand_eq_ok_iff, String.toList_append, String.toList_append]
    exact (expand_eq_ok_iff.1 h).append (expand_eq_ok_iff.1 h') last

/-- An address in two parts. The value of the first variable looks like a reference and stays as it
is, and so do a dollar sign and the braces that belong to no reference. -/
theorem expand_reads_address :
    let env := Environment.ofList [("HOST", "$\x7bPORT\x7d"), ("PORT", "80")]
    expand env "\x7bpg\x7d$://$$\x7bHOST\x7d" = .ok "\x7bpg\x7d$://$$\x7bPORT\x7d" ∧
      expand env ":$\x7bPORT\x7d$" = .ok ":80$" ∧
      expand env ("\x7bpg\x7d$://$$\x7bHOST\x7d" ++ ":$\x7bPORT\x7d$") =
        .ok ("\x7bpg\x7d$://$$\x7bPORT\x7d" ++ ":80$") := by
  intro env
  obtain ⟨-, -, -, joined⟩ := expand_reads env
  have first : expand env "\x7bpg\x7d$://$$\x7bHOST\x7d" =
      .ok "\x7bpg\x7d$://$$\x7bPORT\x7d" := by
    decide +kernel
  have second : expand env ":$\x7bPORT\x7d$" = .ok ":80$" := by decide +kernel
  exact ⟨first, second, joined _ _ _ _ first second (by decide)⟩

end Retrieval.Template
