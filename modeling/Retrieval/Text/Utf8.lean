/-!
# UTF-8

Characters as bytes, and bytes as characters. Reading never fails and follows the recommendation of
Unicode on what is ill-formed: a longest run of bytes that begins a character without completing it,
or one byte that begins none, is read as one replacement character.

The reader is driven by `following?`: for a first byte, the bits it contributes and the windows in
which the further bytes of the character have to lie. The second window is narrower where it keeps
out overlong forms, surrogates and code points above the last one.

Writing and then reading gives back every text (`decode_encode`): the first byte of a character
tells how many follow (`following?_three`, `following?_four`), and each of those adds its six bits
(`follow_ofNat`).
-/

namespace Retrieval.Text.Utf8

/-- The bytes of a text. -/
def encode (text : List Char) : List UInt8 := text.flatMap String.utf8EncodeChar

/-- The character read where the bytes are none. -/
def replacement : Char := '\uFFFD'

/-! ## Reading -/

/-- The window of an ordinary further byte. -/
def continuation : UInt8 × UInt8 := (0x80, 0xBF)

/-- What a first byte contributes to the code point, and the windows of the bytes that follow it. -/
def following? (first : UInt8) : Option (Nat × List (UInt8 × UInt8)) :=
  if first < 0x80 then some (first.toNat, [])
  else if first < 0xC2 then none
  else if first < 0xE0 then some (first.toNat - 0xC0, [continuation])
  else if first = 0xE0 then some (0, [(0xA0, 0xBF), continuation])
  else if first = 0xED then some (0xD, [(0x80, 0x9F), continuation])
  else if first < 0xF0 then some (first.toNat - 0xE0, [continuation, continuation])
  else if first = 0xF0 then some (0, [(0x90, 0xBF), continuation, continuation])
  else if first < 0xF4 then some (first.toNat - 0xF0, [continuation, continuation, continuation])
  else if first = 0xF4 then some (4, [(0x80, 0x8F), continuation, continuation])
  else none

/-- Reads further bytes through their windows: the code point if all of them are in place, and the
bytes not read. -/
def follow (value : Nat) : List (UInt8 × UInt8) → List UInt8 → Option Nat × List UInt8
  | [], rest => (some value, rest)
  | _ :: _, [] => (none, [])
  | window :: windows, byte :: rest =>
    if window.1 ≤ byte ∧ byte ≤ window.2 then
      follow (64 * value + (byte.toNat - 0x80)) windows rest
    else (none, byte :: rest)

/-- Following bytes are taken off the front. -/
theorem follow_length_le (value : Nat) (windows : List (UInt8 × UInt8)) (bytes : List UInt8) :
    (follow value windows bytes).2.length ≤ bytes.length := by
  fun_induction follow value windows bytes with
  | case1 => simp
  | case2 => simp
  | case3 _ _ _ _ _ _ ih => simp only [List.length_cons]; omega
  | case4 => simp

/-- The text of any bytes. -/
def decode : List UInt8 → List Char
  | [] => []
  | first :: rest =>
    match following? first with
    | none => replacement :: decode rest
    | some (value, windows) =>
      match h : follow value windows rest with
      | (point, unread) =>
        have : unread.length ≤ rest.length := by
          simpa [h] using follow_length_le value windows rest
        (point.map Char.ofNat).getD replacement :: decode unread
termination_by bytes => bytes.length
decreasing_by all_goals simp only [List.length_cons]; omega

/-- A first byte and the bytes that follow it are one character. -/
theorem decode_cons {first : UInt8} {rest unread : List UInt8} {value point : Nat}
    {windows : List (UInt8 × UInt8)} (h : following? first = some (value, windows))
    (hf : follow value windows rest = (some point, unread)) :
    decode (first :: rest) = Char.ofNat point :: decode unread := by
  rw [decode]
  simp only [h]
  rw [hf]
  rfl

/-! ## Reading what was written -/

/-- A number below 256 fits in a byte. -/
theorem toNat_ofNat {n : Nat} (h : n < 256) : (UInt8.ofNat n).toNat = n := by
  rw [UInt8.toNat_ofNat', Nat.mod_eq_of_lt h]

/-- A further byte within its window adds its six bits. -/
theorem follow_ofNat (value : Nat) {n low high : Nat} (windows : List (UInt8 × UInt8))
    (rest : List UInt8) (hl : low ≤ n + 128) (hh : n + 128 ≤ high) (hb : high < 256) :
    follow value ((UInt8.ofNat low, UInt8.ofNat high) :: windows) (UInt8.ofNat (n + 128) :: rest) =
      follow (64 * value + n) windows rest := by
  have within : UInt8.ofNat low ≤ UInt8.ofNat (n + 128) ∧
      UInt8.ofNat (n + 128) ≤ UInt8.ofNat high := by
    simp only [UInt8.le_iff_toNat_le]
    rw [toNat_ofNat (by omega), toNat_ofNat (by omega), toNat_ofNat hb]
    exact ⟨hl, hh⟩
  rw [follow, if_pos within, toNat_ofNat (by omega), Nat.add_sub_cancel]

/-- An ordinary further byte. -/
theorem follow_continuation (value : Nat) {n : Nat} (windows : List (UInt8 × UInt8))
    (rest : List UInt8) (h : n < 64) :
    follow value (continuation :: windows) (UInt8.ofNat (n + 128) :: rest) =
      follow (64 * value + n) windows rest :=
  @follow_ofNat value n 0x80 0xBF windows rest (by omega) (by omega) (by omega)

/-- The first bytes by their number. -/
theorem following?_ofNat {n : Nat} (h : n < 256) : following? (UInt8.ofNat n) =
    if n < 0x80 then some (n, [])
    else if n < 0xC2 then none
    else if n < 0xE0 then some (n - 0xC0, [continuation])
    else if n = 0xE0 then some (0, [(0xA0, 0xBF), continuation])
    else if n = 0xED then some (0xD, [(0x80, 0x9F), continuation])
    else if n < 0xF0 then some (n - 0xE0, [continuation, continuation])
    else if n = 0xF0 then some (0, [(0x90, 0xBF), continuation, continuation])
    else if n < 0xF4 then some (n - 0xF0, [continuation, continuation, continuation])
    else if n = 0xF4 then some (4, [(0x80, 0x8F), continuation, continuation])
    else none := by
  simp only [following?, UInt8.lt_iff_toNat_lt, ← UInt8.toNat_inj, toNat_ofNat h]
  rfl

/-- The first byte of three: what it contributes, and the window of the second byte, which admits
every second byte of a character. -/
theorem following?_three {lead second : Nat} (hl : lead < 16) (hs : second < 64)
    (least : lead = 0 → 32 ≤ second) (surrogate : lead = 13 → second < 32) :
    ∃ low high, low ≤ second + 128 ∧ second + 128 ≤ high ∧ high < 256 ∧
      following? (UInt8.ofNat (lead + 224)) =
        some (lead, [(UInt8.ofNat low, UInt8.ofNat high), continuation]) := by
  rw [following?_ofNat (by omega), if_neg (by omega), if_neg (by omega), if_neg (by omega)]
  by_cases zero : lead = 0
  · exact ⟨0xA0, 0xBF, by omega, by omega, by omega, by subst zero; rfl⟩
  · rw [if_neg (by omega)]
    by_cases thirteen : lead = 13
    · exact ⟨0x80, 0x9F, by omega, by omega, by omega, by subst thirteen; rfl⟩
    · rw [if_neg (by omega), if_pos (by omega), Nat.add_sub_cancel]
      exact ⟨0x80, 0xBF, by omega, by omega, by omega, rfl⟩

/-- The first byte of four, in the same way. -/
theorem following?_four {lead second : Nat} (hl : lead < 5) (hs : second < 64)
    (least : lead = 0 → 16 ≤ second) (last : lead = 4 → second < 16) :
    ∃ low high, low ≤ second + 128 ∧ second + 128 ≤ high ∧ high < 256 ∧
      following? (UInt8.ofNat (lead + 240)) =
        some (lead, [(UInt8.ofNat low, UInt8.ofNat high), continuation, continuation]) := by
  rw [following?_ofNat (by omega), if_neg (by omega), if_neg (by omega), if_neg (by omega),
    if_neg (by omega), if_neg (by omega), if_neg (by omega)]
  by_cases zero : lead = 0
  · exact ⟨0x90, 0xBF, by omega, by omega, by omega, by subst zero; rfl⟩
  · rw [if_neg (by omega)]
    by_cases four : lead = 4
    · exact ⟨0x80, 0x8F, by omega, by omega, by omega, by subst four; rfl⟩
    · rw [if_pos (by omega), Nat.add_sub_cancel]
      exact ⟨0x80, 0xBF, by omega, by omega, by omega, rfl⟩

/-- The bytes of one character are read as that character. -/
theorem decode_encodeChar (c : Char) (rest : List UInt8) :
    decode (String.utf8EncodeChar c ++ rest) = c :: decode rest := by
  have valid : c.val.toNat < 0xD800 ∨ (0xDFFF < c.val.toNat ∧ c.val.toNat < 0x110000) := c.valid
  have back : Char.ofNat c.val.toNat = c := Char.ofNat_toNat c
  simp only [String.utf8EncodeChar]
  generalize c.val.toNat = n at valid back
  subst back
  -- one case for each length; the pieces of the code point are put together by `sum`
  split
  · have first : following? (UInt8.ofNat n) = some (n, []) := by
      rw [following?_ofNat (by omega), if_pos (by omega)]
    exact decode_cons first rfl
  · split
    · have sum : 64 * (n / 64 % 32) + n % 64 = n := by omega
      have first : following? (UInt8.ofNat (n / 64 % 32 + 192)) =
          some (n / 64 % 32, [continuation]) := by
        rw [following?_ofNat (by omega), if_neg (by omega), if_neg (by omega), if_pos (by omega),
          Nat.add_sub_cancel]
      simp only [List.cons_append, List.nil_append]
      apply decode_cons first
      rw [follow_continuation _ _ _ (by omega), sum]
      rfl
    · split
      · have sum : 64 * (64 * (n / 4096 % 16) + n / 64 % 64) + n % 64 = n := by omega
        obtain ⟨low, high, hl, hh, hb, first⟩ := @following?_three (n / 4096 % 16) (n / 64 % 64)
          (by omega) (by omega) (by omega) (by omega)
        simp only [List.cons_append, List.nil_append]
        apply decode_cons first
        rw [follow_ofNat _ _ _ hl hh hb,
          follow_continuation _ _ _ (by omega), sum]
        rfl
      · have sum : 64 * (64 * (64 * (n / 262144 % 8) + n / 4096 % 64) + n / 64 % 64) + n % 64 = n :=
          by omega
        obtain ⟨low, high, hl, hh, hb, first⟩ := @following?_four (n / 262144 % 8) (n / 4096 % 64)
          (by omega) (by omega) (by omega) (by omega)
        simp only [List.cons_append, List.nil_append]
        apply decode_cons first
        rw [follow_ofNat _ _ _ hl hh hb, follow_continuation _ _ _ (by omega),
          follow_continuation _ _ _ (by omega), sum]
        rfl

/-- What stands behind encoded characters is decoded apart from them. -/
theorem decode_append_encode (text : List Char) (rest : List UInt8) :
    decode (encode text ++ rest) = text ++ decode rest := by
  induction text with
  | nil => rfl
  | cons c text ih =>
    rw [encode, List.flatMap_cons, List.append_assoc, decode_encodeChar]
    exact congrArg (c :: ·) ih

/-- Every text is read back from its bytes. -/
theorem decode_encode (text : List Char) : decode (encode text) = text := by
  simpa [decode] using decode_append_encode text []

end Retrieval.Text.Utf8
