import Retrieval.Command.Arguments
import Retrieval.Proofs.Except
import Retrieval.Proofs.Text.Beginnings

/-!
# Reading arguments

What an argument is to a command is decided by its spelling: a word for help or for reporting the
steps, an option, an option joined to a value by an equals sign, or, where it does not begin with a
dash, a query. No spelling of an option holds an equals sign, so an argument holds the value of one
option at most (`opening_append_inj`).

Arguments are read from left to right. What comes after some of them is read from the draft that
they lead to (`Draft.scan?_append`), unless the last of them is an option whose value is still to
come (`Kind.Awaits`).
-/

namespace Retrieval.Command

/-- An option and its value in one argument. -/
def Opt.joined (option : Opt) (value : String) : String := option.spelling ++ "=" ++ value

/-- A value without the repetitions of its option at the beginning. -/
def Opt.stripped (option : Opt) (value : String) : String :=
  String.ofList (Text.dropRepeated option.opening value.toList)

variable {kind : Kind} {option other : Opt} {value : String}

/-! ## Spellings -/

theorem Opt.spelling_injective (h : option.spelling = other.spelling) : option = other := by
  cases option <;> cases other <;> first | rfl | exact absurd h (by decide)

/-- An option has no `=` in its spelling, so that the first one in an argument ends it. -/
theorem Opt.not_mem_spelling (option : Opt) : '=' ∉ option.spelling.toList := by
  cases option <;> decide

/-- Every option begins with a hyphen. -/
theorem Opt.head?_spelling (option : Opt) : option.spelling.toList.head? = some '-' := by
  cases option <;> decide

/-- An option joined to its value begins with the option and `=`. -/
theorem Opt.toList_joined (option : Opt) (value : String) :
    (option.joined value).toList = option.opening ++ value.toList := by
  rw [joined, opening, String.toList_append, String.toList_append]
  rfl

theorem Opt.opening_ne_nil (option : Opt) : option.opening ≠ [] := by
  rw [opening]
  exact List.append_ne_nil_of_right_ne_nil _ (List.cons_ne_nil _ _)

/-- An argument holds the value of one option at most. -/
theorem Opt.opening_append_inj {text text' : List Char}
    (h : option.opening ++ text = other.opening ++ text') : option = other ∧ text = text' := by
  rw [opening, opening, List.append_assoc, List.append_assoc, List.singleton_append,
    List.singleton_append] at h
  obtain ⟨spelling, text⟩ := Text.append_sep_inj option.not_mem_spelling other.not_mem_spelling h
  exact ⟨spelling_injective (String.toList_inj.1 spelling), text⟩

/-- A joined value is read with all repetitions of its beginning taken off. -/
theorem Opt.joinedValue?_joined :
    option.joinedValue? (option.joined value) = some (option.stripped value) := by
  rw [joinedValue?, Text.after?_eq_some_iff.2 (option.toList_joined value)]
  rfl

/-- A joined value is read for no other option. -/
theorem Opt.joinedValue?_joined_of_ne (ne : other ≠ option) :
    other.joinedValue? (option.joined value) = none := by
  rw [joinedValue?, Option.map_eq_none_iff, Text.after?_eq_none_iff, toList_joined]
  rintro ⟨rest, eq⟩
  exact ne (opening_append_inj eq).1

/-! ## Classification -/

/-- An option of the command is taken for one. -/
theorem Argument.ofText_option (accepted : option ∈ kind.options) :
    Argument.ofText kind option.spelling = .option option := by
  cases kind <;> cases option <;> first | decide | exact absurd accepted (by decide)

/-- An option of the command with a joined value is taken for a setting. -/
theorem Argument.ofText_joined (accepted : option ∈ kind.options) :
    Argument.ofText kind (option.joined value) = .setting option (option.stripped value) := by
  -- an option by itself has no `=`, so the argument is none of them
  have equals : '=' ∈ (option.joined value).toList := by simp [Opt.toList_joined, Opt.opening]
  have unspelled {word : String} (plain : '=' ∉ word.toList) : ¬option.joined value = word :=
    fun eq => plain (eq ▸ equals)
  have alone : kind.options.find? (·.spelling = option.joined value) = none := by
    rw [List.find?_eq_none]
    intro other _
    simpa [eq_comm] using unspelled other.not_mem_spelling
  have joined : kind.options.findSome?
      (fun opt => (opt.joinedValue? (option.joined value)).map (opt, ·)) =
        some (option, option.stripped value) := by
    cases found : kind.options.findSome?
        (fun opt => (opt.joinedValue? (option.joined value)).map (opt, ·)) with
    | none =>
      have none := List.findSome?_eq_none_iff.1 found option accepted
      rw [Opt.joinedValue?_joined] at none
      exact absurd none (by simp)
    -- no other option begins the argument, so the one that is found is this one
    | some setting =>
      obtain ⟨other, -, eq⟩ := List.exists_of_findSome?_eq_some found
      by_cases same : other = option
      · rwa [same, Opt.joinedValue?_joined, eq_comm] at eq
      · rw [Opt.joinedValue?_joined_of_ne same] at eq
        exact absurd eq (by simp)
  unfold Argument.ofText
  rw [if_neg (not_or.2 ⟨unspelled (by decide), unspelled (by decide)⟩),
    if_neg (not_or.2 ⟨unspelled (by decide), unspelled (by decide)⟩), alone]
  simp only [joined]

/-- What does not begin with a dash is a query. -/
theorem Argument.ofText_query {text : String} (takes : kind.hasQuery)
    (first : text.toList.head? ≠ some '-') : Argument.ofText kind text = .query (queryOf text) := by
  have unspelled {word : String} (dash : word.toList.head? = some '-') : ¬text = word := by
    rintro rfl
    exact first dash
  -- every option begins with a hyphen, by itself and joined to a value
  have alone : kind.options.find? (·.spelling = text) = none := by
    rw [List.find?_eq_none]
    intro other _
    simpa [eq_comm] using unspelled other.head?_spelling
  have joined : kind.options.findSome? (fun opt => (opt.joinedValue? text).map (opt, ·)) = none := by
    rw [List.findSome?_eq_none_iff]
    intro other _
    rw [Option.map_eq_none_iff, Opt.joinedValue?, Option.map_eq_none_iff,
      Text.after?_eq_none_iff]
    rintro ⟨rest, eq⟩
    rw [← eq, Opt.opening, List.append_assoc, List.head?_append, other.head?_spelling] at first
    exact first rfl
  unfold Argument.ofText
  rw [if_neg (not_or.2 ⟨unspelled (by decide), unspelled (by decide)⟩),
    if_neg (not_or.2 ⟨unspelled (by decide), unspelled (by decide)⟩), alone]
  simp only [joined]
  exact if_pos ⟨takes, first⟩

/-! ## Reading from left to right -/

namespace Draft

variable {draft : Draft} {argument text : String} {rest : List String}

/-- A request for help ends the scan, whatever comes behind. -/
theorem scan?_of_help (h : Argument.ofText kind argument = .help) :
    draft.scan? kind (argument :: rest) = .ok none := by
  rw [scan?.eq_def]
  simp only [h]

/-- A request for a report is noted and passed over. -/
theorem scan?_of_verbose (h : Argument.ofText kind argument = .verbose) :
    draft.scan? kind (argument :: rest) = scan? kind { draft with verbose := true } rest := by
  rw [scan?.eq_def]
  simp only [h]

/-- An option takes the next argument for its value, whatever that looks like. -/
theorem scan?_of_option (h : Argument.ofText kind argument = .option option) (value : String) :
    draft.scan? kind (argument :: value :: rest) = (draft.set option value).scan? kind rest := by
  rw [scan?.eq_def]
  simp only [h]

/-- A setting needs no other argument. -/
theorem scan?_of_setting (h : Argument.ofText kind argument = .setting option value) :
    draft.scan? kind (argument :: rest) = (draft.set option value).scan? kind rest := by
  rw [scan?.eq_def]
  simp only [h]

/-- The first query is kept and the second refused. -/
theorem scan?_of_query (h : Argument.ofText kind argument = .query text) :
    draft.scan? kind (argument :: rest) =
      if draft.query.isSome then .error (.extraArgument argument)
      else scan? kind { draft with query := some text } rest := by
  rw [scan?.eq_def]
  simp only [h]

/-- An argument that the command does not know ends the scan. -/
theorem scan?_of_unknown (h : Argument.ofText kind argument = .unknown) :
    draft.scan? kind (argument :: rest) = .error (.unknownArgument argument) := by
  rw [scan?.eq_def]
  simp only [h]

/-- What is read for arguments that come after others, given what was read for those. -/
def goOn (kind : Kind) (rest : List String) :
    Except UsageError (Option Draft) → Except UsageError (Option Draft)
  | .error error => .error error
  | .ok none => .ok none
  | .ok (some draft) => draft.scan? kind rest

/-- Unless an option waits for its value, arguments are read from the draft that those before them
lead to. -/
theorem scan?_append {before : List String} (rest : List String)
    (whole : ∀ option, draft.scan? kind before ≠ .error (.missingValue option)) :
    draft.scan? kind (before ++ rest) = goOn kind rest (draft.scan? kind before) := by
  -- each argument is read alike, whatever stands behind the others
  fun_induction scan? kind draft before with
  | case1 => rfl
  | case2 _ _ _ help => exact scan?_of_help help
  | case3 _ _ _ verbose ih =>
    rw [List.cons_append, scan?_of_verbose verbose]
    exact ih whole
  | case4 _ _ option => exact absurd rfl (whole option)
  | case5 _ _ _ value _ option ih =>
    rw [List.cons_append, List.cons_append, scan?_of_option option]
    exact ih whole
  | case6 _ _ _ _ _ setting ih =>
    rw [List.cons_append, scan?_of_setting setting]
    exact ih whole
  | case7 _ _ _ _ query some =>
    rw [List.cons_append, scan?_of_query query, if_pos some]
    rfl
  | case8 _ _ _ _ query none ih =>
    rw [List.cons_append, scan?_of_query query, if_neg none]
    exact ih whole
  | case9 _ _ _ unknown =>
    rw [List.cons_append, scan?_of_unknown unknown]
    rfl

end Draft

/-- A known word is followed by the arguments of its command. -/
theorem ofArguments_word (kind : Kind) (arguments : List String) :
    ofArguments (kind.word :: arguments) = kind.command arguments := by
  cases kind <;> rfl

end Retrieval.Command
