import Mathlib.Logic.Function.Basic
import Mathlib.Tactic.SplitIfs
import Retrieval.Text.Utf8

/-!
# Texts read by their bytes

A text is kept as its bytes, and a reader may count them: it looks at single bytes, measures a run
of them and cuts the text behind the run. Such a cut is good only between two characters
(`splitBytes?`).

A reader of ASCII characters is on the safe side. A byte below 128 is a character of its own, and no
byte of a longer character is below 128 (`eq_ofUInt8_or_forall_le`). So a run of bytes is a run of
characters (`takeWhile_encode`), and bytes agree up to the case of letters exactly when characters
do (`map_lowerByte_encode_inj`). The bytes of a greater character are greater, so texts are in the
order of their bytes (`encode_lt`).
-/

namespace Retrieval.Text

open Utf8 (encode)

/-- The two pieces of a text that is cut behind a number of bytes, unless the cut is inside a
character or behind the end. -/
def splitBytes? : Nat → List Char → Option (List Char × List Char)
  | 0, text => some ([], text)
  | _ + 1, [] => none
  | n + 1, c :: text =>
    if c.utf8Size ≤ n + 1 then
      (splitBytes? (n + 1 - c.utf8Size) text).map fun (head, rest) => (c :: head, rest)
    else none

/-- The lower case of an ASCII letter; every other byte as it is. -/
def lowerByte (b : UInt8) : UInt8 := if 0x41 ≤ b ∧ b ≤ 0x5A then b + 0x20 else b

/-- A text is encoded character by character. -/
theorem encode_cons (c : Char) (text : List Char) :
    encode (c :: text) = String.utf8EncodeChar c ++ encode text := List.flatMap_cons

/-- Two texts with the same bytes are the same. -/
theorem encode_inj {a b : List Char} : encode a = encode b ↔ a = b :=
  (Function.LeftInverse.injective Utf8.decode_encode).eq_iff

/-! ## Cuts -/

theorem length_encode_cons (c : Char) (text : List Char) :
    (encode (c :: text)).length = c.utf8Size + (encode text).length := by
  rw [encode_cons, List.length_append, String.length_utf8EncodeChar]

/-- A cut behind whole characters leaves them whole. -/
theorem splitBytes?_encode (head rest : List Char) :
    splitBytes? (encode head).length (head ++ rest) = some (head, rest) := by
  induction head with
  | nil =>
    show splitBytes? 0 rest = some ([], rest)
    rw [splitBytes?]
  | cons c head ih =>
    have positive : 0 < c.utf8Size := c.utf8Size_pos
    obtain ⟨n, eq⟩ : ∃ n, c.utf8Size + (encode head).length = n + 1 :=
      Nat.exists_eq_succ_of_ne_zero (by omega)
    have left : n + 1 - c.utf8Size = (encode head).length := by omega
    rw [length_encode_cons, eq, List.cons_append, splitBytes?, if_pos (by omega), left, ih]
    rfl

/-- A good cut has that many bytes before it. -/
theorem splitBytes?_eq_some_iff {n : Nat} {text head rest : List Char} :
    splitBytes? n text = some (head, rest) ↔ text = head ++ rest ∧ (encode head).length = n := by
  constructor
  · intro h
    induction text generalizing n head with
    | nil =>
      cases n with
      | zero =>
        cases h
        exact ⟨rfl, rfl⟩
      | succ n => cases h
    | cons c text ih =>
      cases n with
      | zero =>
        cases h
        exact ⟨rfl, rfl⟩
      | succ n =>
        rw [splitBytes?] at h
        -- a cut within the first character is none
        split at h
        case isTrue fits =>
          obtain ⟨⟨front, tail⟩, found, same⟩ := Option.map_eq_some_iff.1 h
          obtain ⟨rfl, rfl⟩ := Prod.mk.inj same
          obtain ⟨rfl, count⟩ := ih found
          refine ⟨rfl, ?_⟩
          rw [length_encode_cons, count]
          omega
        case isFalse => cases h
  · rintro ⟨rfl, rfl⟩
    exact splitBytes?_encode head rest

/-! ## Bytes of characters -/

/-- A byte below 128 is a character of its own. -/
theorem encodeChar_ofUInt8 {b : UInt8} (ascii : b < 128) :
    String.utf8EncodeChar (Char.ofUInt8 b) = [b] := by
  have single : (Char.ofUInt8 b).utf8Size = 1 := by
    rw [Char.utf8Size_eq_one_iff, UInt32.le_iff_toNat_le]
    exact Nat.le_of_lt_succ (UInt8.lt_iff_toNat_lt.1 ascii)
  rw [String.utf8EncodeChar_eq_singleton single]
  exact congrArg (fun byte => [byte]) (UInt8.toUInt8_toUInt32 b)

/-- A character is one byte below 128, or bytes that are not. -/
theorem eq_ofUInt8_or_forall_le (c : Char) : (∃ b, b < 128 ∧ c = Char.ofUInt8 b) ∨
    (128 ≤ c.toNat ∧ ∀ b ∈ String.utf8EncodeChar c, 128 ≤ b) := by
  by_cases ascii : c.val.toNat ≤ 127
  · have same : c.val.toUInt8.toNat = c.val.toNat := by
      rw [UInt32.toNat_toUInt8]
      exact Nat.mod_eq_of_lt (by omega)
    refine .inl ⟨c.val.toUInt8, ?_, ?_⟩
    · rw [UInt8.lt_iff_toNat_lt, same]
      exact Nat.lt_succ_of_le ascii
    · apply Char.ext
      show c.val = c.val.toUInt8.toUInt32
      rw [← UInt32.toNat_inj, UInt8.toNat_toUInt32, same]
  · have valid : c.val.toNat < 0x110000 := by
      rcases c.valid with below | ⟨-, below⟩
      · exact Nat.lt_trans below (by decide)
      · exact below
    have high {n : Nat} (least : 128 ≤ n) (most : n < 256) : 128 ≤ UInt8.ofNat n := by
      rw [UInt8.le_iff_toNat_le, Utf8.toNat_ofNat most]
      exact least
    refine .inr ⟨Nat.lt_of_not_le ascii, ?_⟩
    simp only [String.utf8EncodeChar, if_neg ascii]
    generalize c.val.toNat = n at ascii valid
    -- the first byte of a longer character is at least 192, and each of the others at least 128
    split_ifs
    all_goals
      simp only [List.forall_mem_cons, List.not_mem_nil, false_implies, implies_true, and_true]
      and_intros
    all_goals exact high (by omega) (by omega)

/-- The first byte of a text is an ASCII character of a kind where the first character is. -/
theorem exists_encode_cons {p : Char → Bool} (ascii : ∀ c, p c → c.toNat < 128) (c : Char)
    (text : List Char) :
    ∃ first bytes, encode (c :: text) = first :: bytes ∧ p (Char.ofUInt8 first) = p c := by
  rcases eq_ofUInt8_or_forall_le c with ⟨b, small, rfl⟩ | ⟨large, high⟩
  · exact ⟨b, encode text, by rw [encode_cons, encodeChar_ofUInt8 small]; rfl, rfl⟩
  · obtain ⟨b, rest, eq⟩ := List.exists_cons_of_ne_nil (String.utf8EncodeChar_ne_nil (c := c))
    have first : 128 ≤ b.toNat := UInt8.le_iff_toNat_le.1 (high b (eq ▸ List.mem_cons_self))
    have outside {d : Char} (large : 128 ≤ d.toNat) : p d = false :=
      Bool.eq_false_iff.2 fun inside => Nat.not_lt.2 large (ascii d inside)
    refine ⟨b, rest ++ encode text, by rw [encode_cons, eq, List.cons_append], ?_⟩
    rw [outside large, outside (d := Char.ofUInt8 b) first]

/-- Bytes that are ASCII characters of a kind go on as long as the characters do. -/
theorem takeWhile_encode {p : Char → Bool} (ascii : ∀ c, p c → c.toNat < 128) (text : List Char) :
    (encode text).takeWhile (fun b => p (Char.ofUInt8 b)) = encode (text.takeWhile p) := by
  induction text with
  | nil => rfl
  | cons c text ih =>
    rw [List.takeWhile_cons]
    split
    case isTrue inside =>
      rcases eq_ofUInt8_or_forall_le c with ⟨b, small, rfl⟩ | ⟨large, -⟩
      · rw [encode_cons, encode_cons, encodeChar_ofUInt8 small, List.singleton_append,
          List.singleton_append, List.takeWhile_cons, if_pos inside, ih]
      · exact absurd (ascii c inside) (Nat.not_lt.2 large)
    case isFalse outside =>
      obtain ⟨first, bytes, eq, kind⟩ := exists_encode_cons ascii c text
      rw [eq, List.takeWhile_cons, kind, if_neg outside]
      rfl

/-! ## Order -/

/-- Of two characters the smaller one has the smaller bytes, whatever stands behind them. -/
theorem encodeChar_lt {c d : Char} (h : c < d) (rest rest' : List UInt8) :
    String.utf8EncodeChar c ++ rest < String.utf8EncodeChar d ++ rest' := by
  have lt : c.val.toNat < d.val.toNat := UInt32.lt_iff_toNat_lt.1 h
  have valid : d.val.toNat < 0x110000 := by
    rcases d.valid with below | ⟨-, below⟩
    · exact Nat.lt_trans below (by decide)
    · exact below
  simp only [String.utf8EncodeChar]
  generalize c.val.toNat = n at lt
  generalize d.val.toNat = m at lt valid
  -- every byte takes six bits of the code point, and the first of four takes the rest
  have bits {k : Nat} (small : k < 0x110000) :
      k / 64 / 64 = k / 4096 ∧ k / 4096 / 64 = k / 262144 ∧ k / 262144 / 8 = 0 :=
    ⟨Nat.div_div_eq_div_mul k 64 64, Nat.div_div_eq_div_mul k 4096 64, by omega⟩
  have bitsN := bits (Nat.lt_trans lt valid)
  have bitsM := bits valid
  -- a longer character begins with a larger byte, and those of one length have their bits in order
  split_ifs
  all_goals
    simp only [List.cons_append, List.nil_append, List.cons_lt_cons_iff, UInt8.lt_iff_toNat_lt,
      ← UInt8.toNat_inj]
    repeat rw [Utf8.toNat_ofNat (by omega)]
    omega

/-- The order of two texts is the order of their bytes. -/
theorem encode_lt {a b : List Char} (h : a < b) : encode a < encode b := by
  induction h with
  | @nil c rest =>
    obtain ⟨first, bytes, eq⟩ := List.exists_cons_of_ne_nil (String.utf8EncodeChar_ne_nil (c := c))
    rw [encode_cons, eq]
    exact List.Lex.nil
  | @cons c rest rest' _ ih =>
    rw [encode_cons, encode_cons]
    exact List.append_left_lt ih
  | rel lt =>
    rw [encode_cons, encode_cons]
    exact encodeChar_lt lt _ _

/-! ## Letter case -/

/-- Bytes of longer characters have no case. -/
theorem lowerByte_of_le {b : UInt8} (high : 128 ≤ b) : lowerByte b = b := by
  refine if_neg fun letter => ?_
  have least : 128 ≤ b.toNat := UInt8.le_iff_toNat_le.1 high
  have most : b.toNat ≤ 0x5A := UInt8.le_iff_toNat_le.1 letter.2
  omega

/-- Bytes of capital letters are 32 below those of small ones. -/
theorem toNat_lowerByte (b : UInt8) : (lowerByte b).toNat =
    if 0x41 ≤ b.toNat ∧ b.toNat ≤ 0x5A then b.toNat + 0x20 else b.toNat := by
  have letter : (0x41 ≤ b ∧ b ≤ 0x5A) ↔ 0x41 ≤ b.toNat ∧ b.toNat ≤ 0x5A := by
    rw [UInt8.le_iff_toNat_le, UInt8.le_iff_toNat_le]
    exact .rfl
  simp only [lowerByte, letter]
  split
  case isTrue letter =>
    rw [UInt8.toNat_add]
    exact Nat.mod_eq_of_lt (show b.toNat + 0x20 < 2 ^ 8 by omega)
  case isFalse => rfl

/-- Capital letters are 32 below the small ones. -/
theorem toNat_toLower (c : Char) : c.toLower.toNat =
    if 0x41 ≤ c.toNat ∧ c.toNat ≤ 0x5A then c.toNat + 0x20 else c.toNat := by
  have letter : (c.val ≥ 'A'.val ∧ c.val ≤ 'Z'.val) ↔ 0x41 ≤ c.toNat ∧ c.toNat ≤ 0x5A := by
    rw [ge_iff_le, UInt32.le_iff_toNat_le, UInt32.le_iff_toNat_le]
    exact .rfl
  by_cases upper : c.val ≥ 'A'.val ∧ c.val ≤ 'Z'.val
  · have least : c.toNat ≤ 0x5A := (letter.1 upper).2
    have lower : c.toLower.val = c.val + ('a'.val - 'A'.val) := congrArg Char.val (dif_pos upper)
    rw [if_pos (letter.1 upper)]
    show c.toLower.val.toNat = c.toNat + 0x20
    rw [lower, UInt32.toNat_add]
    exact Nat.mod_eq_of_lt (show c.toNat + 0x20 < 2 ^ 32 by omega)
  · have same : c.toLower = c := dif_neg upper
    rw [same, if_neg (mt letter.2 upper)]

/-- Lower case is taken byte by byte. -/
theorem encode_map_toLower (text : List Char) :
    encode (text.map Char.toLower) = (encode text).map lowerByte := by
  induction text with
  | nil => rfl
  | cons c text ih =>
    rw [List.map_cons, encode_cons, encode_cons, List.map_append, ih]
    congr 1
    rcases eq_ofUInt8_or_forall_le c with ⟨b, small, rfl⟩ | ⟨large, high⟩
    · have lower : (Char.ofUInt8 b).toLower = Char.ofUInt8 (lowerByte b) := by
        rw [← Char.toNat_inj, toNat_toLower]
        exact (toNat_lowerByte b).symm
      have letter : lowerByte b < 128 := by
        rw [UInt8.lt_iff_toNat_lt, toNat_lowerByte]
        have : b.toNat < 128 := UInt8.lt_iff_toNat_lt.1 small
        show _ < 128
        split <;> omega
      rw [lower, encodeChar_ofUInt8 letter, encodeChar_ofUInt8 small]
      rfl
    · have same : c.toLower = c := by
        rw [← Char.toNat_inj, toNat_toLower, if_neg (by omega)]
      rw [same, List.map_congr_left fun b mem => lowerByte_of_le (high b mem), List.map_id']

/-- Two texts are alike up to the case of letters where their bytes are. -/
theorem map_lowerByte_encode_inj {a b : List Char} :
    (encode a).map lowerByte = (encode b).map lowerByte ↔
      a.map Char.toLower = b.map Char.toLower := by
  rw [← encode_map_toLower, ← encode_map_toLower, encode_inj]

end Retrieval.Text
