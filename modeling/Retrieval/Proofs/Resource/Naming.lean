import Mathlib.Tactic.Push
import Retrieval.Proofs.Text.Beginnings
import Retrieval.Proofs.Text.Case
import Retrieval.Resource.Naming

/-!
# Singular forms

The endings of plurals overlap: `boxes` ends in `xes`, in `es` and in `s`. `SingularOf` says for
each kind of word what its singular is. No word is of two kinds, and each is of one, so a word has
one singular (`singular_eq_iff`).

That the singular is its own singular is not shown by a look at all pairs of endings. The words that
are left as they are can be told by their last two characters (`singular_eq_self_iff`), and every
singular is one of these words (`SingularOf.settled`). The rest follows from what stands in the
place of an ending (`SingularOf.exists_exchange`): a singular is never longer than the word, and in
lower case if the word is.
-/

namespace Retrieval.Naming

open Text

/-- The ends of the words that take `es` in the plural. -/
def hissingEnds : List String := ["ss", "sh", "ch", "x", "z"]

/-- Whether a word takes `es` in the plural. -/
def Hisses (word : List Char) : Prop := ∃ sound ∈ hissingEnds, sound.toList <:+ word

/-- Whether a word does not end in a single `s` behind another character. -/
def Settled (word : List Char) : Prop := ∀ stem c, word = stem ++ [c, 's'] → c = 's'

/-- What the singular of a word is. -/
inductive SingularOf : List Char → List Char → Prop where
  | ies {stem : List Char} (ne_nil : stem ≠ []) :
      SingularOf (stem ++ "ies".toList) (stem ++ "y".toList)
  | es {stem : List Char} (hisses : Hisses stem) : SingularOf (stem ++ "es".toList) stem
  | s {stem : List Char} (ne_nil : stem ≠ []) (single : ¬"s".toList <:+ stem)
      (not_ies : ∀ front, stem = front ++ "ie".toList → front = [])
      (not_es : ∀ front, stem = front ++ "e".toList → ¬Hisses front) :
      SingularOf (stem ++ "s".toList) stem
  | same {word : List Char} (settled : Settled word) : SingularOf word word

variable {word result : List Char}

/-! ## Settled words -/

/-- A word that is not settled ends in a single `s` behind a stem. -/
theorem not_settled_iff :
    ¬Settled word ↔ ∃ stem, word = stem ++ "s".toList ∧ stem ≠ [] ∧ ¬"s".toList <:+ stem := by
  constructor
  · intro h
    simp only [Settled, not_forall] at h
    obtain ⟨front, c, rfl, ne⟩ := h
    refine ⟨front ++ [c], (List.append_assoc front [c] ['s']).symm, List.concat_ne_nil c front, ?_⟩
    rintro ⟨stem, eq⟩
    obtain ⟨-, eq⟩ := List.append_inj' eq rfl
    exact ne (List.cons.inj eq).1.symm
  · rintro ⟨stem, rfl, ne_nil, single⟩ settled
    obtain rfl | ⟨front, c, rfl⟩ := List.eq_nil_or_concat' stem
    · exact ne_nil rfl
    · obtain rfl := settled front c (List.append_assoc ..)
      exact single (List.suffix_append front ['s'])

/-- A word that does not end in `s` is settled. -/
theorem settled_of_not_suffix (h : ¬"s".toList <:+ word) : Settled word := by
  rintro stem c rfl
  exact absurd ⟨stem ++ [c], List.append_assoc ..⟩ h

/-- A word that ends in two is settled. -/
theorem settled_ss (stem : List Char) : Settled (stem ++ "ss".toList) := by
  intro front c eq
  obtain ⟨-, eq⟩ := List.append_inj' eq rfl
  exact (List.cons.inj eq).1.symm

/-! ## Hissing words -/

/-- A word that hisses is not empty. -/
theorem Hisses.ne_nil (h : Hisses word) : word ≠ [] := by
  rintro rfl
  obtain ⟨sound, mem, suffix⟩ := h
  rw [List.suffix_nil] at suffix
  revert sound
  decide

/-- The last character of a word that hisses is the last one of the sound. -/
theorem Hisses.exists_last {c : Char} (h : Hisses word) (last : [c] <:+ word) :
    ∃ sound ∈ hissingEnds, sound.toList <:+ word ∧ [c] <:+ sound.toList := by
  obtain ⟨sound, mem, suffix⟩ := h
  have sounds : ∀ sound ∈ hissingEnds, 1 ≤ sound.toList.length := by decide
  exact ⟨sound, mem, suffix, List.suffix_of_suffix_length_le last suffix (sounds sound mem)⟩

/-- A word that hisses and ends in `s` ends in a double one. -/
theorem Hisses.settled (h : Hisses word) : Settled word := by
  by_cases last : "s".toList <:+ word
  · obtain ⟨sound, mem, ⟨front, rfl⟩, double⟩ := h.exists_last last
    have sounds : ∀ sound ∈ hissingEnds, "s".toList <:+ sound.toList → sound = "ss" := by decide
    rw [sounds sound mem double]
    exact settled_ss front
  · exact settled_of_not_suffix last

/-- No word hisses with an `i` at its end. -/
theorem not_hisses_i (stem : List Char) : ¬Hisses (stem ++ "i".toList) := by
  intro h
  obtain ⟨sound, mem, -, last⟩ := h.exists_last (List.suffix_append stem "i".toList)
  revert sound
  decide

/-- The long endings are `es` behind the sounds. -/
theorem longEndings_any_iff :
    (longEndings.any fun ending => (before? ending.toList word).isSome) ↔
      ∃ stem, Hisses stem ∧ word = stem ++ "es".toList := by
  have long : longEndings = hissingEnds.map (· ++ "es") := by decide
  simp only [List.any_eq_true, isSome_before?_iff, long, List.mem_map, exists_exists_and_eq_and,
    String.toList_append]
  constructor
  · rintro ⟨sound, mem, front, rfl⟩
    exact ⟨front ++ sound.toList, ⟨sound, mem, front, rfl⟩, (List.append_assoc ..).symm⟩
  · rintro ⟨_, ⟨sound, mem, front, rfl⟩, rfl⟩
    exact ⟨sound, mem, front, (List.append_assoc ..).symm⟩

/-! ## One singular for each word -/

/-- What stands before the second part of an ending ends in the first. -/
theorem ending_inj {stem front : List Char} (mid tail : String)
    (eq : stem ++ tail.toList = front ++ (mid ++ tail).toList) : stem = front ++ mid.toList := by
  rw [String.toList_append, ← List.append_assoc] at eq
  exact List.append_cancel_right eq

/-- Every word is of some kind. -/
theorem exists_singularOf (word : List Char) : ∃ result, SingularOf word result := by
  by_cases settled : Settled word
  · exact ⟨word, .same settled⟩
  · obtain ⟨stem, rfl, ne_nil, single⟩ := not_settled_iff.1 settled
    by_cases ies : ∃ front, stem = front ++ "ie".toList ∧ front ≠ []
    · obtain ⟨front, rfl, behind⟩ := ies
      refine ⟨front ++ "y".toList, ?_⟩
      rw [List.append_assoc]
      exact .ies behind
    by_cases es : ∃ front, stem = front ++ "e".toList ∧ Hisses front
    · obtain ⟨front, rfl, hisses⟩ := es
      refine ⟨front, ?_⟩
      rw [List.append_assoc]
      exact .es hisses
    push Not at ies es
    exact ⟨stem, .s ne_nil single ies es⟩

/-- Without a stem before `ies` the other endings are tried. -/
theorem singular_of_not_ies (h : ∀ stem, word = stem ++ "ies".toList → stem = []) :
    singular word =
      if longEndings.any fun ending => (before? ending.toList word).isSome then
        word.take (word.length - 2)
      else if (before? "ss".toList word).isSome then word
      else match before? "s".toList word with
        | some (c :: stem) => c :: stem
        | _ => word := by
  rw [singular]
  split
  case h_1 c stem has => exact absurd (h _ (before?_eq_some_iff.1 has)) (List.cons_ne_nil c stem)
  case h_2 => rfl

variable {stem : List Char}

/-- The first rule takes `ies` for `y`. -/
theorem singular_ies (ne_nil : stem ≠ []) :
    singular (stem ++ "ies".toList) = stem ++ "y".toList := by
  obtain ⟨c, front, rfl⟩ := List.exists_cons_of_ne_nil ne_nil
  rw [singular, before?_eq_some_iff.2 rfl]
  rfl

/-- The second rule drops `es` behind a word that hisses. -/
theorem singular_es (hisses : Hisses stem) : singular (stem ++ "es".toList) = stem := by
  have not_ies (front : List Char) : stem ++ "es".toList ≠ front ++ "ies".toList := by
    intro eq
    rw [ending_inj "i" "es" eq] at hisses
    exact not_hisses_i front hisses
  rw [singular_of_not_ies fun front eq => absurd eq (not_ies front),
    if_pos (longEndings_any_iff.2 ⟨stem, hisses, rfl⟩), List.length_append]
  exact List.take_left' rfl

/-- The third rule drops a single `s` that the rules before leave. -/
theorem singular_s (ne_nil : stem ≠ []) (single : ¬"s".toList <:+ stem)
    (not_ies : ∀ front, stem = front ++ "ie".toList → front = [])
    (not_es : ∀ front, stem = front ++ "e".toList → ¬Hisses front) :
    singular (stem ++ "s".toList) = stem := by
  rw [singular_of_not_ies fun front eq => not_ies front (ending_inj "ie" "s" eq)]
  rw [if_neg, if_neg]
  · obtain ⟨c, front, rfl⟩ := List.exists_cons_of_ne_nil ne_nil
    rw [before?_eq_some_iff.2 rfl]
  · rw [isSome_before?_iff]
    rintro ⟨front, eq⟩
    rw [ending_inj "s" "s" eq.symm] at single
    exact single (List.suffix_append front "s".toList)
  · rw [longEndings_any_iff]
    rintro ⟨front, hisses, eq⟩
    exact not_es front (ending_inj "e" "s" eq) hisses

/-- No rule changes a settled word. -/
theorem singular_of_settled (settled : Settled word) : singular word = word := by
  have not_es (front : List Char) : word ≠ front ++ "es".toList := by
    intro eq
    exact absurd (settled front 'e' eq) (by decide)
  have not_ies (front : List Char) : word ≠ front ++ "ies".toList := by
    intro eq
    exact not_es _ (eq.trans (List.append_assoc front "i".toList "es".toList).symm)
  rw [singular_of_not_ies fun front eq => absurd eq (not_ies front), if_neg]
  · split
    case isTrue => rfl
    case isFalse double =>
      split
      case h_1 c front has =>
        -- a settled word with a stem before its last `s` would end in a double one
        rw [isSome_before?_iff] at double
        rw [before?_eq_some_iff] at has
        refine absurd settled (not_settled_iff.2 ⟨_, has, List.cons_ne_nil c front, ?_⟩)
        rintro ⟨stem, eq⟩
        rw [← eq, List.append_assoc] at has
        exact double ⟨stem, has.symm⟩
      case h_2 => rfl
  · rw [longEndings_any_iff]
    rintro ⟨front, -, eq⟩
    exact not_es front eq

/-- A word has one singular, by its kind. -/
theorem singular_eq_iff : singular word = result ↔ SingularOf word result := by
  have computed {other : List Char} (h : SingularOf word other) : singular word = other := by
    cases h with
    | ies ne_nil => exact singular_ies ne_nil
    | es hisses => exact singular_es hisses
    | s ne_nil single not_ies not_es => exact singular_s ne_nil single not_ies not_es
    | same settled => exact singular_of_settled settled
  constructor
  · rintro rfl
    obtain ⟨result, h⟩ := exists_singularOf word
    rwa [computed h]
  · exact computed

/-- The rules give a singular of the word. -/
theorem singularOf_singular (word : List Char) : SingularOf word (singular word) :=
  singular_eq_iff.1 rfl

theorem toList_singularize (word : String) : (singularize word).toList = singular word.toList :=
  String.toList_ofList

/-! ## Singulars of singulars -/

/-- No singular ends in a single `s` behind another character. -/
theorem SingularOf.settled (h : SingularOf word result) : Settled result := by
  cases h with
  | @ies stem =>
    apply settled_of_not_suffix
    rintro ⟨front, (eq : front ++ ['s'] = stem ++ ['y'])⟩
    exact absurd (List.append_inj' eq rfl).2 (by decide)
  | es hisses => exact hisses.settled
  | s _ single => exact settled_of_not_suffix single
  | same settled => exact settled

/-- What the rules give is settled. -/
theorem settled_singular (word : List Char) : Settled (singular word) :=
  (singularOf_singular word).settled

/-- The words that are their own singular. -/
theorem singular_eq_self_iff : singular word = word ↔ Settled word :=
  ⟨fun eq => eq ▸ settled_singular word, singular_of_settled⟩

/-- The rules change nothing that they give. -/
theorem singular_singular (word : List Char) : singular (singular word) = singular word :=
  singular_eq_self_iff.2 (settled_singular word)

/-- Something is left of a word unless it is empty. -/
theorem SingularOf.ne_nil (h : SingularOf word result) (behind : word ≠ []) : result ≠ [] := by
  cases h with
  | @ies stem => exact List.concat_ne_nil 'y' stem
  | es hisses => exact hisses.ne_nil
  | s ne_nil => exact ne_nil
  | same => exact behind

/-! ## Exchanged endings -/

/-- The endings, each with what stands in its place in the singular. -/
def exchanges : List (String × String) := [("ies", "y"), ("es", ""), ("s", ""), ("", "")]

/-- Every rule exchanges one ending for a shorter one. -/
theorem SingularOf.exists_exchange (h : SingularOf word result) :
    ∃ stem, ∃ exchange ∈ exchanges,
      word = stem ++ exchange.1.toList ∧ result = stem ++ exchange.2.toList := by
  cases h with
  | @ies stem => exact ⟨stem, ("ies", "y"), by decide, rfl, rfl⟩
  | es => exact ⟨result, ("es", ""), by decide, rfl, (List.append_nil result).symm⟩
  | s => exact ⟨result, ("s", ""), by decide, rfl, (List.append_nil result).symm⟩
  | same =>
    exact ⟨word, ("", ""), by decide, (List.append_nil word).symm, (List.append_nil word).symm⟩

/-- The singular has the stem of the word. -/
theorem exists_exchange (word : String) :
    ∃ stem, ∃ exchange ∈ exchanges,
      word = stem ++ exchange.1 ∧ singularize word = stem ++ exchange.2 := by
  obtain ⟨stem, exchange, mem, eq, eq'⟩ := (singularOf_singular word.toList).exists_exchange
  refine ⟨String.ofList stem, exchange, mem, ?_, ?_⟩
  · rw [← String.toList_inj, String.toList_append, String.toList_ofList, eq]
  · rw [← String.toList_inj, String.toList_append, String.toList_ofList, toList_singularize, eq']

/-- The singular of a word in lower case is in lower case. -/
theorem lower_singular (h : lower word = word) : lower (singular word) = singular word := by
  obtain ⟨stem, exchange, mem, eq, eq'⟩ := (singularOf_singular word).exists_exchange
  have only : ∀ exchange ∈ exchanges, ∀ c ∈ exchange.2.toList, c = 'y' := by simp [exchanges]
  have low : lowerChar 'y' = ['y'] := rfl
  rw [lower_eq_self_iff, eq, List.forall_mem_append] at h
  rw [lower_eq_self_iff, eq', List.forall_mem_append]
  refine ⟨h.1, fun c behind => ?_⟩
  rw [only exchange mem c behind, low]

/-- A key in lower case and its singular name the same type. -/
theorem siblingType_singularize (mainType : String) {key : String}
    (h : lower key.toList = key.toList) :
    siblingType mainType (singularize key) = siblingType mainType key := by
  rw [siblingType, siblingType, toList_singularize, lower_singular h, h, singular_singular]

-- the small `s` of this key is single, but in lower case it is one of two
example : siblingType "Post" "TAGSs" = "Tagss" ∧
    siblingType "Post" (singularize "TAGSs") = "Tag" := by decide +kernel

/-! ## Stability -/

/-- What is true of a word and its singular. -/
structure Stable (word : String) : Prop where
  singular : ∀ other, singularize word = other ↔ SingularOf word.toList other.toList
  fixed : singularize (singularize word) = singularize word
  ne_empty : word ≠ "" → singularize word ≠ ""
  length_le : (singularize word).length ≤ word.length
  size_le : (singularize word).utf8ByteSize ≤ word.utf8ByteSize
  /-- The singular does not end in a single `s` behind another character. -/
  settled : Settled (singularize word).toList
  /-- If the word is in lower case, it names the same type as its singular beside any main type. -/
  sibling : lower word.toList = word.toList →
    ∀ mainType, siblingType mainType (singularize word) = siblingType mainType word

/-- What is made singular stays so, is not empty unless the word is, and grows no longer. -/
theorem singularize_stable (word : String) : Stable word where
  singular := by
    intro other
    rw [← singular_eq_iff, ← String.toList_inj, toList_singularize]
  fixed := by
    rw [singularize, toList_singularize, singular_singular, singularize]
  ne_empty := by
    intro ne_empty
    rw [Ne, ← String.toList_eq_nil_iff] at ne_empty ⊢
    rw [toList_singularize]
    exact (singularOf_singular word.toList).ne_nil ne_empty
  length_le := by
    obtain ⟨stem, exchange, mem, eq, eq'⟩ := exists_exchange word
    have shorter : ∀ exchange ∈ exchanges, exchange.2.length ≤ exchange.1.length := by decide
    have := shorter exchange mem
    rw [eq', eq, String.length_append, String.length_append]
    omega
  size_le := by
    obtain ⟨stem, exchange, mem, eq, eq'⟩ := exists_exchange word
    have shorter : ∀ exchange ∈ exchanges, exchange.2.utf8ByteSize ≤ exchange.1.utf8ByteSize := by
      decide
    have := shorter exchange mem
    rw [eq', eq, String.utf8ByteSize_append, String.utf8ByteSize_append]
    omega
  settled := by
    rw [toList_singularize]
    exact settled_singular word.toList
  sibling := fun h mainType => siblingType_singularize mainType h

/-- The categories of a blog, beside a type of a namespace. -/
theorem singularize_stable_categories :
    lower "blog_categories".toList = "blog_categories".toList ∧
      singularize "blog_categories" = "blog_category" ∧
      siblingType "shop::Post" "blog_category" = "shop::BlogCategory" ∧
      siblingType "shop::Post" "blog_categories" = "shop::BlogCategory" := by
  have low : lower "blog_categories".toList = "blog_categories".toList := by decide +kernel
  have singular : singularize "blog_categories" = "blog_category" := by decide +kernel
  have same := (singularize_stable "blog_categories").sibling low "shop::Post"
  have named : siblingType "shop::Post" "blog_category" = "shop::BlogCategory" := by decide +kernel
  rw [singular, named] at same
  exact ⟨low, singular, named, same.symm⟩

end Retrieval.Naming
