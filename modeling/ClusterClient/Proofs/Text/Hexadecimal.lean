import ClusterClient.Text.Hexadecimal
import ClusterClient.Text.Utf8

namespace ClusterClient.Text

/-!
# Reading what is written in hexadecimal

Writing shows each byte by the digits of its two halves. Reading looks at the
UTF-8 bytes of a text, where a character that is not ASCII never passes for a
digit. So a text is read as some bytes exactly when it is, but for the case of
its letters, what is written for these bytes, and it is read at all exactly when
it is an even number of digits.
-/

/-- The halves of some bytes, the higher half of each byte first. -/
def halves (bytes : Bytes) : List Nat :=
  bytes.flatMap fun byte => [byte.toNat / 16, byte.toNat % 16]

@[simp] theorem halves_nil : halves [] = [] := rfl

@[simp] theorem halves_cons (byte : UInt8) (rest : Bytes) :
    halves (byte :: rest) =
      byte.toNat / 16 :: byte.toNat % 16 :: halves rest := rfl

theorem length_halves (bytes : Bytes) :
    (halves bytes).length = 2 * bytes.length := by
  induction bytes with
  | nil => rfl
  | cons byte rest inductionHypothesis =>
      simp only [halves_cons, List.length_cons, inductionHypothesis]
      omega

theorem lt_of_mem_halves
    {bytes : Bytes}
    {half : Nat}
    (member : half ∈ halves bytes) : half < 16 := by
  obtain ⟨byte, -, isHalf⟩ := List.mem_flatMap.mp member
  have small := byte.toNat_lt
  simp only [List.mem_cons, List.not_mem_nil, or_false] at isHalf
  omega

/-- What is written for some bytes are the digits of their halves. -/
theorem toList_hexadecimal (bytes : Bytes) :
    (hexadecimal bytes).toList = (halves bytes).map hexadecimalDigit := by
  rw [hexadecimal, String.toList_ofList]
  induction bytes with
  | nil => rfl
  | cons byte rest inductionHypothesis =>
      rw [List.flatMap_cons, inductionHypothesis]
      rfl

/-! Bytes that stand for digits. -/

theorem lt_of_hexadecimalValue?
    {byte : UInt8}
    {value : Nat}
    (isDigit : hexadecimalValue? byte = some value) : value < 16 := by
  grind [hexadecimalValue?]

/-- Pairs are read as the bytes whose halves they are. -/
theorem readHexadecimalPairs_eq_ok_iff
    {position : Nat}
    {digits bytes : Bytes} :
    readHexadecimalPairs position digits = .ok bytes ↔
      digits.map hexadecimalValue? = (halves bytes).map some := by
  fun_induction readHexadecimalPairs position digits generalizing bytes with
  | case1 => cases bytes <;> simp
  | case2 => cases bytes <;> simp
  | case3 position high low rest noDigit => cases bytes <;> simp [noDigit]
  | case4 position high low rest _ noDigit => cases bytes <;> simp [noDigit]
  | case5 position high low rest highValue lowValue isLow isHigh
      inductionHypothesis =>
      have highSmall := lt_of_hexadecimalValue? isHigh
      have lowSmall := lt_of_hexadecimalValue? isLow
      have isByte : ∀ byte : UInt8,
          UInt8.ofNat (highValue * 16 + lowValue) = byte ↔
            highValue = byte.toNat / 16 ∧ lowValue = byte.toNat % 16 := by
        intro byte
        rw [← UInt8.toNat_inj, UInt8.toNat_ofNat_of_lt' (show _ < 256 by omega)]
        omega
      generalize readHexadecimalPairs (position + 2) rest = later at *
      cases bytes with
      | nil => cases later <;> simp [Except.map]
      | cons byte bytes =>
          rw [List.map_cons, List.map_cons, isHigh, isLow, halves_cons,
            List.map_cons, List.map_cons, List.cons.injEq, List.cons.injEq,
            ← inductionHypothesis, ← and_assoc, Option.some_inj,
            Option.some_inj, ← isByte]
          cases later <;> simp only [Except.map] <;> simp

/-- Digits are read as the bytes whose halves they are. -/
theorem readHexadecimal_eq_ok_iff {digits bytes : Bytes} :
    readHexadecimal digits = .ok bytes ↔
      digits.map hexadecimalValue? = (halves bytes).map some := by
  unfold readHexadecimal
  split
  · rename_i odd
    refine iff_of_false nofun fun same => ?_
    have length := congrArg List.length same
    rw [List.length_map, List.length_map, length_halves] at length
    omega
  · exact readHexadecimalPairs_eq_ok_iff

/-! Characters that stand for digits. -/

/-- The value of a character that is a digit in hexadecimal, in either case. -/
def digitOf? (character : Char) : Option Nat :=
  if character.toNat < 128 then
    hexadecimalValue? (UInt8.ofNat character.toNat)
  else
    none

/-- A character has the value of its byte, if it is ASCII, and else none. -/
theorem digitOf?_eq (character : Char) :
    digitOf? character =
      let code := character.toNat
      if 0x30 ≤ code ∧ code ≤ 0x39 then
        some (code - 0x30)
      else if 0x41 ≤ code ∧ code ≤ 0x46 then
        some (code - 0x41 + 10)
      else if 0x61 ≤ code ∧ code ≤ 0x66 then
        some (code - 0x61 + 10)
      else
        none := by
  rw [digitOf?]
  split
  · rw [hexadecimalValue?, UInt8.toNat_ofNat_of_lt' (show _ < 256 by omega)]
  · grind

theorem toNat_toLower (character : Char) :
    character.toLower.toNat =
      if 65 ≤ character.toNat ∧ character.toNat ≤ 90 then
        character.toNat + 32
      else
        character.toNat := by
  have isUpper :
      (character.val ≥ 'A'.val ∧ character.val ≤ 'Z'.val) ↔
        65 ≤ character.toNat ∧ character.toNat ≤ 90 := by
    simp only [ge_iff_le, UInt32.le_iff_toNat_le]
    rfl
  unfold Char.toLower
  split
  · rename_i upper
    have bounds := isUpper.mp upper
    have lower :
        (character.val + ('a'.val - 'A'.val)).toNat =
          (character.val.toNat + 32) % 2 ^ 32 :=
      UInt32.toNat_add ..
    rw [if_pos bounds, Char.toNat, lower, Char.toNat_val]
    omega
  · rename_i notUpper
    rw [if_neg (mt isUpper.mpr notUpper)]

theorem toNat_hexadecimalDigit {value : Nat} (small : value < 16) :
    (hexadecimalDigit value).toNat =
      if value < 10 then 48 + value else 87 + value := by
  have each : ∀ value < 16,
      (hexadecimalDigit value).toNat =
        if value < 10 then 48 + value else 87 + value := by
    decide
  exact each value small

/-- A digit is, in lower case, the digit that is written for its value. -/
theorem digitOf?_eq_some_iff {character : Char} {value : Nat} :
    digitOf? character = some value ↔
      value < 16 ∧ character.toLower = hexadecimalDigit value := by
  have sameNumber (small : value < 16) :
      character.toLower = hexadecimalDigit value ↔
        (if 65 ≤ character.toNat ∧ character.toNat ≤ 90 then
          character.toNat + 32
        else
          character.toNat) =
          if value < 10 then 48 + value else 87 + value := by
    rw [← toNat_toLower, ← toNat_hexadecimalDigit small, Char.toNat_inj]
  rw [and_congr_right sameNumber, digitOf?_eq]
  grind

/-- A character is a digit in hexadecimal, in either case. -/
def IsHexadecimalDigit (character : Char) : Prop :=
  ('0' ≤ character ∧ character ≤ '9') ∨
    ('a' ≤ character ∧ character ≤ 'f') ∨
      ('A' ≤ character ∧ character ≤ 'F')

theorem isHexadecimalDigit_iff {character : Char} :
    IsHexadecimalDigit character ↔
      ∃ value, digitOf? character = some value := by
  have range (lowest highest : Char) :
      lowest ≤ character ∧ character ≤ highest ↔
        lowest.toNat ≤ character.toNat ∧ character.toNat ≤ highest.toNat := by
    simp only [Char.le_def, UInt32.le_iff_toNat_le, Char.toNat_val]
  rw [← Option.isSome_iff_exists, digitOf?_eq, IsHexadecimalDigit, range,
    range, range]
  change
    (48 ≤ character.toNat ∧ character.toNat ≤ 57) ∨
        (97 ≤ character.toNat ∧ character.toNat ≤ 102) ∨
          (65 ≤ character.toNat ∧ character.toNat ≤ 70) ↔
      _
  grind

/-! Digits in a text. -/

theorem encodeChar_of_ascii
    {character : Char}
    (ascii : character.toNat < 128) :
    String.utf8EncodeChar character = [UInt8.ofNat character.toNat] := by
  unfold String.utf8EncodeChar
  rw [Char.toNat_val, if_pos (by omega)]

/-- The bytes of a character that is not ASCII do not begin with a digit. -/
theorem exists_noDigit_of_not_ascii
    {character : Char}
    (notAscii : ¬ character.toNat < 128) :
    ∃ first rest,
      String.utf8EncodeChar character = first :: rest ∧
        hexadecimalValue? first = none := by
  have noDigit : ∀ first : Nat, 128 ≤ first → first < 256 →
      hexadecimalValue? (UInt8.ofNat first) = none := by
    intro first large small
    rw [hexadecimalValue?, UInt8.toNat_ofNat_of_lt' small]
    grind
  unfold String.utf8EncodeChar
  rw [Char.toNat_val, if_neg (by omega)]
  split
  · exact ⟨_, _, rfl, noDigit _ (by omega) (by omega)⟩
  split
  · exact ⟨_, _, rfl, noDigit _ (by omega) (by omega)⟩
  · exact ⟨_, _, rfl, noDigit _ (by omega) (by omega)⟩

theorem encode_ofList (characters : List Char) :
    encode (String.ofList characters) =
      characters.flatMap String.utf8EncodeChar := by
  simp [encode, List.utf8Encode, List.data_toByteArray]

/-- The bytes of a text are digits just when its characters are. -/
theorem map_encode_eq_iff {characters : List Char} {values : List Nat} :
    (encode (String.ofList characters)).map hexadecimalValue? =
        values.map some ↔
      characters.map digitOf? = values.map some := by
  rw [encode_ofList]
  induction characters generalizing values with
  | nil => rfl
  | cons character rest inductionHypothesis =>
      rw [List.flatMap_cons, List.map_append, List.map_cons]
      by_cases ascii : character.toNat < 128
      · rw [encodeChar_of_ascii ascii, digitOf?, if_pos ascii]
        cases values with
        | nil => simp
        | cons value values => simp [inductionHypothesis]
      · obtain ⟨first, more, encoded, noDigit⟩ :=
          exists_noDigit_of_not_ascii ascii
        rw [encoded, digitOf?, if_neg ascii]
        cases values <;> simp [noDigit]

/-- Characters are digits of some values just when they are written so. -/
theorem map_digitOf?_eq_iff
    {characters : List Char}
    {values : List Nat}
    (small : ∀ value ∈ values, value < 16) :
    characters.map digitOf? = values.map some ↔
      characters.map Char.toLower = values.map hexadecimalDigit := by
  induction characters generalizing values with
  | nil => cases values <;> simp
  | cons character rest inductionHypothesis =>
      cases values with
      | nil => simp
      | cons value values =>
          obtain ⟨isSmall, areSmall⟩ := List.forall_mem_cons.mp small
          rw [List.map_cons, List.map_cons, List.map_cons, List.map_cons,
            List.cons.injEq, List.cons.injEq, digitOf?_eq_some_iff,
            and_iff_right isSmall, inductionHypothesis areSmall]

/--
A text is read as some bytes exactly when it is, in lower case, what is written
for these bytes.
-/
theorem readHexadecimal_encode_eq_ok_iff
    {characters : List Char}
    {bytes : Bytes} :
    readHexadecimal (encode (String.ofList characters)) = .ok bytes ↔
      characters.map Char.toLower = (hexadecimal bytes).toList := by
  have small : ∀ half ∈ halves bytes, half < 16 := fun _ => lt_of_mem_halves
  rw [readHexadecimal_eq_ok_iff, map_encode_eq_iff, map_digitOf?_eq_iff small,
    toList_hexadecimal]

/-- The characters are an even number of digits in hexadecimal. -/
structure IsHexadecimal (characters : List Char) : Prop where
  even : characters.length % 2 = 0
  digits : ∀ character ∈ characters, IsHexadecimalDigit character

/-- An even number of digits is, but for its case, written for some bytes. -/
theorem IsHexadecimal.exists_bytes :
    ∀ characters : List Char,
      IsHexadecimal characters →
      ∃ bytes, characters.map Char.toLower = (hexadecimal bytes).toList
  | [], _ => ⟨[], rfl⟩
  | [_], isHexadecimal => nomatch isHexadecimal.even
  | high :: low :: rest, ⟨even, digits⟩ => by
      obtain ⟨isHigh, isLow, others⟩ :
          IsHexadecimalDigit high ∧ IsHexadecimalDigit low ∧
            ∀ character ∈ rest, IsHexadecimalDigit character := by
        simpa only [List.forall_mem_cons] using digits
      have restEven : rest.length % 2 = 0 := by
        rw [List.length_cons, List.length_cons] at even
        omega
      obtain ⟨bytes, written⟩ := exists_bytes rest ⟨restEven, others⟩
      obtain ⟨highValue, isHigh⟩ := isHexadecimalDigit_iff.mp isHigh
      obtain ⟨lowValue, isLow⟩ := isHexadecimalDigit_iff.mp isLow
      obtain ⟨highSmall, isHigh⟩ := digitOf?_eq_some_iff.mp isHigh
      obtain ⟨lowSmall, isLow⟩ := digitOf?_eq_some_iff.mp isLow
      refine ⟨UInt8.ofNat (highValue * 16 + lowValue) :: bytes, ?_⟩
      have isByte :
          (UInt8.ofNat (highValue * 16 + lowValue)).toNat =
            highValue * 16 + lowValue :=
        UInt8.toNat_ofNat_of_lt' (show _ < 256 by omega)
      have isUpper : (highValue * 16 + lowValue) / 16 = highValue := by omega
      have isLower : (highValue * 16 + lowValue) % 16 = lowValue := by omega
      rw [toList_hexadecimal] at written ⊢
      rw [halves_cons, isByte, isUpper, isLower, List.map_cons, List.map_cons,
        List.map_cons, List.map_cons, isHigh, isLow, written]

/-- What is, but for its case, written for bytes is an even number of digits. -/
theorem isHexadecimal_of_written
    {characters : List Char}
    {bytes : Bytes}
    (written : characters.map Char.toLower = (hexadecimal bytes).toList) :
    IsHexadecimal characters := by
  rw [toList_hexadecimal] at written
  have small : ∀ half ∈ halves bytes, half < 16 := fun _ => lt_of_mem_halves
  have values := (map_digitOf?_eq_iff small).mpr written
  constructor
  · have length := congrArg List.length values
    rw [List.length_map, List.length_map, length_halves] at length
    omega
  · intro character member
    have isValue : digitOf? character ∈ (halves bytes).map some :=
      values ▸ List.mem_map_of_mem member
    obtain ⟨value, -, isDigit⟩ := List.mem_map.mp isValue
    exact isHexadecimalDigit_iff.mpr ⟨value, isDigit.symm⟩

end ClusterClient.Text
