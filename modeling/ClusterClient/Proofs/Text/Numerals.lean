import ClusterClient.Text.Blank
import ClusterClient.Text.Decimal
import Mathlib.Data.List.DropRight
import Mathlib.Data.Nat.Digits.Defs

namespace ClusterClient.Text

/-!
# Numerals between white space

What is left of a text without the white space at its ends does not depend on
how it is taken off. It is read as an unsigned number exactly when it is a
numeral, which is one or more ASCII digits with or without a plus sign in
front, and when the value of all its digits is within the limit. The reader
stops at the first digit that leads above the limit; no later digit could lead
back, and zeros in front lead nowhere.
-/

/-! White space at the ends of a text. -/

/-- The code points with the Unicode property White_Space, range by range. -/
def whiteSpace : List Nat :=
  List.range' 0x9 5 ++ [0x20, 0x85, 0xa0, 0x1680] ++ List.range' 0x2000 11 ++
    [0x2028, 0x2029, 0x202f, 0x205f, 0x3000]

theorem isBlank_iff {character : Char} :
    isBlank character ↔ character.toNat ∈ whiteSpace := by
  simp only [isBlank, whiteSpace, Bool.or_eq_true, Bool.and_eq_true,
    decide_eq_true_eq, beq_iff_eq, List.mem_append, List.mem_range'_1,
    List.mem_cons, List.not_mem_nil, or_false]
  omega

/-- The core of a text: amid white space, and with none at its own ends. -/
structure IsCore (characters core : List Char) : Prop where
  surrounded :
    ∃ before after,
      characters = before ++ core ++ after ∧
        ∀ character ∈ before ++ after, character.toNat ∈ whiteSpace
  first : ∀ character ∈ core.head?, character.toNat ∉ whiteSpace
  last : ∀ character ∈ core.getLast?, character.toNat ∉ whiteSpace

/-- White space is dropped up to the first character that is none. -/
theorem dropWhile_isBlank_append
    {before rest : List Char}
    (blank : ∀ character ∈ before, isBlank character)
    (first : ∀ character ∈ rest.head?, ¬ isBlank character) :
    (before ++ rest).dropWhile isBlank = rest := by
  rw [List.dropWhile_append_of_pos blank]
  cases rest with
  | nil => rfl
  | cons character rest => exact List.dropWhile_cons_of_neg (first _ rfl)

/-- White space is dropped back to the last character that is none. -/
theorem rdropWhile_isBlank_append
    {rest after : List Char}
    (blank : ∀ character ∈ after, isBlank character)
    (last : ∀ character ∈ rest.getLast?, ¬ isBlank character) :
    (rest ++ after).rdropWhile isBlank = rest := by
  have backwards :
      (after.reverse ++ rest.reverse).dropWhile isBlank = rest.reverse :=
    dropWhile_isBlank_append (by simpa using blank) (by simpa using last)
  rw [List.rdropWhile, List.reverse_append, backwards, List.reverse_reverse]

theorem trimBlank_eq (characters : List Char) :
    trimBlank characters =
      (characters.dropWhile isBlank).rdropWhile isBlank := rfl

/-- What trimming leaves is surrounded by all the white space at the ends. -/
theorem isCore_trimBlank (characters : List Char) :
    IsCore characters (trimBlank characters) := by
  have front :
      characters.takeWhile isBlank ++ characters.dropWhile isBlank =
        characters :=
    List.takeWhile_append_dropWhile
  have back :
      trimBlank characters ++
          (characters.dropWhile isBlank).rtakeWhile isBlank =
        characters.dropWhile isBlank :=
    List.rdropWhile_append_rtakeWhile
  constructor
  · refine ⟨_, _, by rw [List.append_assoc, back, front], ?_⟩
    simp only [← isBlank_iff, List.forall_mem_append]
    exact ⟨fun _ => List.mem_takeWhile_imp, fun _ => List.mem_rtakeWhile_imp⟩
  · intro character isFirst
    have isFirst :
        (characters.dropWhile isBlank).head? = some character := by
      rw [← back, List.head?_append, isFirst]
      rfl
    have noBlank := List.head?_dropWhile_not isBlank characters
    rw [isFirst] at noBlank
    simpa [← isBlank_iff] using noBlank
  · intro character isLast
    obtain ⟨some_left, rfl⟩ := List.mem_getLast?_eq_getLast isLast
    rw [← isBlank_iff]
    exact List.rdropWhile_last_not isBlank _ some_left

/-- Trimming finds the core of a text, and a text has no other. -/
theorem isCore_iff {characters core : List Char} :
    IsCore characters core ↔ trimBlank characters = core := by
  constructor
  · rintro ⟨⟨before, after, rfl, blank⟩, first, last⟩
    simp only [← isBlank_iff] at blank first last
    -- Without a core the front runs through to the end of the text.
    by_cases nothing : core = []
    · have all : (before ++ [] ++ after).dropWhile isBlank = [] :=
        List.dropWhile_eq_nil_iff.mpr (by simpa using blank)
      rw [nothing, trimBlank_eq, all]
      rfl
    · obtain ⟨blankBefore, blankAfter⟩ := List.forall_mem_append.mp blank
      rw [trimBlank_eq, List.append_assoc,
        dropWhile_isBlank_append blankBefore,
        rdropWhile_isBlank_append blankAfter last]
      rwa [List.head?_append_of_ne_nil _ nothing]
  · rintro rfl
    exact isCore_trimBlank characters

/-! Numerals. -/

/-- The value of decimal digits, the first of which weighs most. -/
def valueOf (digits : List Char) : Nat :=
  Nat.ofDigits 10 (digits.map fun digit => digit.toNat - '0'.toNat).reverse

@[simp] theorem valueOf_nil : valueOf [] = 0 := rfl

@[simp] theorem valueOf_cons (digit : Char) (rest : List Char) :
    valueOf (digit :: rest) =
      (digit.toNat - '0'.toNat) * 10 ^ rest.length + valueOf rest := by
  rw [valueOf, List.map_cons, Nat.ofDigits_reverse_cons, List.length_map,
    Nat.add_comm, Nat.mul_comm]
  rfl

theorem digitValue?_eq_some_iff {character : Char} {digit : Nat} :
    digitValue? character = some digit ↔
      character.isDigit ∧ character.toNat - '0'.toNat = digit := by
  simp [digitValue?, Char.isDigit, Char.le_def]

/--
Digits are read onto a value just when the number that they all lead to is in
range, since no digit leads back to a smaller one.
-/
theorem readDigits_eq_ok_iff
    {limit value number : Nat}
    (inRange : value ≤ limit)
    (characters : List Char) :
    readDigits limit value characters = .ok number ↔
      (∀ character ∈ characters, character.isDigit) ∧
        value * 10 ^ characters.length + valueOf characters = number ∧
          number ≤ limit := by
  induction characters generalizing value with
  | nil =>
      simp only [readDigits, Except.ok.injEq, List.not_mem_nil, valueOf_nil,
        List.length_nil, Nat.pow_zero, Nat.mul_one, Nat.add_zero]
      grind
  | cons character rest inductionHypothesis =>
      have whole (digit : Nat) :
          (value * 10 + digit) * 10 ^ rest.length + valueOf rest =
            value * 10 ^ (rest.length + 1) +
              (digit * 10 ^ rest.length + valueOf rest) := by
        ring
      rw [readDigits, List.forall_mem_cons, List.length_cons, valueOf_cons,
        ← whole]
      cases found : digitValue? character with
      | none =>
          refine iff_of_false nofun ?_
          rintro ⟨⟨isDigit, -⟩, -⟩
          have isValue := digitValue?_eq_some_iff.mpr ⟨isDigit, rfl⟩
          rw [found] at isValue
          cases isValue
      | some digit =>
          obtain ⟨isDigit, rfl⟩ := digitValue?_eq_some_iff.mp found
          dsimp only
          split
          · rename_i fits
            rw [inductionHypothesis fits, and_iff_right isDigit]
          · rename_i exceeds
            -- Refused here, while the number is only known at the end.
            refine iff_of_false nofun ?_
            rintro ⟨-, rfl, fits⟩
            have positive : 0 < 10 ^ rest.length := Nat.pow_pos (by decide)
            have grows :=
              Nat.le_mul_of_pos_right
                (value * 10 + (character.toNat - '0'.toNat)) positive
            omega

/-- One or more digits, and their value. -/
structure AreDigits (characters : List Char) (number : Nat) : Prop where
  nonempty : characters ≠ []
  digits : ∀ character ∈ characters, character.isDigit
  value : valueOf characters = number

/-- Digits with a plus sign in front or without, and their value. -/
inductive IsNumeral : List Char → Nat → Prop where
  | plain {characters : List Char} {number : Nat} :
      AreDigits characters number → IsNumeral characters number
  | plus {characters : List Char} {number : Nat} :
      AreDigits characters number → IsNumeral ('+' :: characters) number

theorem isNumeral_plus_iff {characters : List Char} {number : Nat} :
    IsNumeral ('+' :: characters) number ↔ AreDigits characters number := by
  refine ⟨?_, .plus⟩
  rintro (⟨-, digits, -⟩ | areDigits)
  · exact absurd (digits '+' List.mem_cons_self) (by decide)
  · exact areDigits

theorem isNumeral_iff_of_ne_plus
    {characters : List Char}
    (noPlus : ∀ rest, characters ≠ '+' :: rest)
    {number : Nat} :
    IsNumeral characters number ↔ AreDigits characters number := by
  refine ⟨?_, .plain⟩
  rintro (areDigits | _)
  · exact areDigits
  · exact absurd rfl (noPlus _)

theorem readDigits_eq_ok_iff_areDigits
    {limit number : Nat}
    {characters : List Char}
    (nonempty : characters ≠ []) :
    readDigits limit 0 characters = .ok number ↔
      AreDigits characters number ∧ number ≤ limit := by
  rw [readDigits_eq_ok_iff (Nat.zero_le limit), Nat.zero_mul, Nat.zero_add,
    ← and_assoc]
  refine and_congr_left' ⟨?_, ?_⟩
  · rintro ⟨digits, value⟩
    exact ⟨nonempty, digits, value⟩
  · rintro ⟨-, digits, value⟩
    exact ⟨digits, value⟩

/-- Exactly the numerals of the numbers within the limit are read. -/
theorem readUnsigned_eq_ok_iff
    {limit number : Nat}
    {characters : List Char} :
    readUnsigned limit characters = .ok number ↔
      IsNumeral characters number ∧ number ≤ limit := by
  unfold readUnsigned
  split
  · refine iff_of_false nofun ?_
    rintro ⟨⟨nonempty, -, -⟩, -⟩
    exact nonempty rfl
  · rw [isNumeral_plus_iff]
    unfold readMagnitude
    split
    · refine iff_of_false nofun ?_
      rintro ⟨⟨nonempty, -, -⟩, -⟩
      exact nonempty rfl
    · rename_i nonempty
      exact readDigits_eq_ok_iff_areDigits nonempty
  · rename_i nonempty noPlus
    rw [isNumeral_iff_of_ne_plus noPlus]
    exact readDigits_eq_ok_iff_areDigits nonempty

/-! The decimal texts of numbers. -/

theorem valueOf_append_digit (digits : List Char) (last : Char) :
    valueOf (digits ++ [last]) =
      valueOf digits * 10 + (last.toNat - '0'.toNat) := by
  rw [valueOf, List.map_append, List.map_singleton, List.reverse_append,
    List.reverse_singleton, List.singleton_append, Nat.ofDigits_cons,
    Nat.add_comm, Nat.mul_comm]
  rfl

/-- The digits of a number have its value. -/
theorem valueOf_toDigits (number : Nat) :
    valueOf (Nat.toDigits 10 number) = number := by
  have single : ∀ digit < 10, digit.digitChar.toNat - '0'.toNat = digit := by
    decide
  induction number using Nat.strongRecOn with
  | ind number inductionHypothesis =>
      rw [Nat.toDigits_eq_if (by decide)]
      split
      · rename_i small
        rw [valueOf_cons, valueOf_nil, single number small]
        simp
      · rename_i several
        have lowest : number % 10 < 10 := Nat.mod_lt _ (by decide)
        rw [valueOf_append_digit, inductionHypothesis _ (by omega),
          single _ lowest]
        omega

/-- A number within the limit is read back from its digits. -/
theorem readUnsigned_toDigits
    {limit number : Nat}
    (inRange : number ≤ limit) :
    readUnsigned limit (Nat.toDigits 10 number) = .ok number := by
  have areDigits : AreDigits (Nat.toDigits 10 number) number := {
    nonempty := Nat.toDigits_ne_nil
    digits _ := Nat.isDigit_of_mem_toDigits (by decide) (by decide)
    value := valueOf_toDigits number
  }
  exact readUnsigned_eq_ok_iff.mpr ⟨.plain areDigits, inRange⟩

/-- Digits are not blank. -/
theorem isBlank_of_isDigit
    {character : Char}
    (digit : character.isDigit) : isBlank character = false := by
  have range : 48 ≤ character.toNat ∧ character.toNat ≤ 57 := by
    simpa [Char.isDigit, UInt32.le_iff_toNat_le] using digit
  simp only [isBlank, Bool.or_eq_false_iff, Bool.and_eq_false_iff,
    decide_eq_false_iff_not, beq_eq_false_iff_ne]
  omega

/-- Only blanks are trimmed. -/
theorem trimBlank_eq_self
    {characters : List Char}
    (plain : ∀ character ∈ characters, isBlank character = false) :
    trimBlank characters = characters := by
  have noWhiteSpace : ∀ character ∈ characters,
      character.toNat ∉ whiteSpace := by
    intro character member
    rw [← isBlank_iff, plain character member]
    exact Bool.false_ne_true
  apply isCore_iff.mp
  constructor
  · exact ⟨[], [], by simp, nofun⟩
  · intro character isFirst
    exact noWhiteSpace character (List.mem_of_mem_head? isFirst)
  · intro character isLast
    exact noWhiteSpace character (List.mem_of_mem_getLast? isLast)

end ClusterClient.Text
