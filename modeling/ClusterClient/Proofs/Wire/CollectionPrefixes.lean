import ClusterClient.Proofs.Wire.RequestReader
import Mathlib.Data.Nat.Size

namespace ClusterClient.Wire

/-!
# Collections in front of ids

A key that is qualified by its collection is the number of the collection in
LEB128 and then the bytes of the id. Nothing separates the two, and the bytes of
the id may look like more of the number. They are told apart because a number
says with the top bit of every byte whether another one follows: it is read
back, and no number is the beginning of another one.

A reader accepts longer forms of a number as well, with zeros in the highest
places. The form that is written is the shortest of them, with seven bits to a
byte.
-/

/-- The top bit of a byte says that the number goes on. -/
def goesOn (byte : UInt8) : Bool :=
  byte.toNat.testBit 7

theorem goesOn_eq (byte : UInt8) : goesOn byte = decide (128 ≤ byte.toNat) := by
  have below := byte.toNat_lt
  rw [goesOn, Nat.testBit_eq_decide_div_mod_eq, decide_eq_decide]
  omega

/-- Every byte but the last one goes on. -/
structure IsDelimited (bytes : Bytes) : Prop where
  nonempty : bytes ≠ []
  last : goesOn (bytes.getLast nonempty) = false
  others : ∀ byte ∈ bytes.dropLast, goesOn byte = true

namespace IsDelimited

theorem single {byte : UInt8} (ends : goesOn byte = false) :
    IsDelimited [byte] where
  nonempty := List.cons_ne_nil _ _
  last := ends
  others := nofun

theorem cons
    {byte : UInt8}
    {bytes : Bytes}
    (first : goesOn byte = true)
    (delimited : IsDelimited bytes) : IsDelimited (byte :: bytes) where
  nonempty := List.cons_ne_nil _ _
  last := by
    rw [List.getLast_cons delimited.nonempty]
    exact delimited.last
  others := by
    rw [List.dropLast_cons_of_ne_nil delimited.nonempty]
    intro other member
    rcases List.mem_cons.mp member with rfl | inRest
    · exact first
    · exact delimited.others other inRest

end IsDelimited

/-- A number in LEB128 goes on up to its last byte. -/
theorem isDelimited_leb128 (value : Nat) : IsDelimited (leb128 value) := by
  induction value using Nat.strongRecOn with
  | ind value inductionHypothesis =>
      rw [leb128]
      split
      · rename_i single
        have isByte := Nat.lt_trans single (by decide : 128 < UInt8.size)
        apply IsDelimited.single
        rw [goesOn_eq, UInt8.toNat_ofNat_of_lt' isByte]
        exact decide_eq_false (Nat.not_le.mpr single)
      · rename_i several
        have lowest := Nat.mod_lt value (y := 128) (by decide)
        have isByte : value % 128 + 128 < UInt8.size :=
          Nat.add_lt_add_right lowest 128
        apply IsDelimited.cons
        · rw [goesOn_eq, UInt8.toNat_ofNat_of_lt' isByte]
          exact decide_eq_true (Nat.le_add_left ..)
        · exact
            inductionHypothesis _ (Nat.div_lt_self (by omega) (by decide))

/-- Without its lowest seven bits a number is so many bits shorter. -/
theorem size_div_128 (value : Nat) :
    Nat.size (value / 128) = Nat.size value - 7 := by
  have atMost : ∀ bits,
      Nat.size (value / 128) ≤ bits ↔ Nat.size value ≤ bits + 7 := by
    intro bits
    rw [Nat.size_le, Nat.size_le, Nat.pow_add,
      Nat.div_lt_iff_lt_mul (by decide)]
  apply Nat.le_antisymm
  · rw [atMost]
    exact Nat.le_add_of_sub_le (Nat.le_refl _)
  · have exactly := (atMost _).mp (Nat.le_refl (Nat.size (value / 128)))
    exact Nat.sub_le_of_le_add exactly

/-- A number has a byte for every seven bits, and at least one. -/
theorem length_leb128 (value : Nat) :
    (leb128 value).length = max 1 ((Nat.size value + 6) / 7) := by
  induction value using Nat.strongRecOn with
  | ind value inductionHypothesis =>
      rw [leb128]
      split
      · rename_i single
        have few : Nat.size value ≤ 7 := Nat.size_le.mpr single
        rw [List.length_singleton]
        omega
      · rename_i several
        have many : 7 < Nat.size value :=
          Nat.lt_size.mpr (Nat.le_of_not_lt several)
        have smaller : value / 128 < value :=
          Nat.div_lt_self (by omega) (by decide)
        rw [List.length_cons, inductionHypothesis _ smaller, size_div_128]
        omega

/-- A number that is read from so many bytes has at most seven bits a byte. -/
theorem lt_of_readLeb128?
    {bytes rest : Bytes}
    {value : Nat}
    (read : readLeb128? bytes = some (value, rest)) :
    ∃ digits,
      bytes.length = digits + 1 + rest.length ∧
        value < 128 * Nat.pow 128 digits := by
  induction bytes generalizing value with
  | nil => cases read
  | cons byte bytes inductionHypothesis =>
      rw [readLeb128?] at read
      split at read
      · rename_i single
        cases read
        exact ⟨0, Nat.add_comm .., by simpa using single⟩
      · obtain ⟨⟨higher, left⟩, readHigher, same⟩ :=
          Option.map_eq_some_iff.mp read
        obtain ⟨isValue, rfl⟩ := Prod.mk.inj same
        obtain ⟨digits, length, small⟩ := inductionHypothesis readHigher
        have isByte := byte.toNat_lt
        have wider : Nat.pow 128 (digits + 1) = Nat.pow 128 digits * 128 := rfl
        refine ⟨digits + 1, ?_, ?_⟩
        · rw [List.length_cons, length]
          omega
        · omega

/-- No form of a number that is read is shorter than the one that is written. -/
theorem length_leb128_le_of_read
    {bytes rest : Bytes}
    {value : Nat}
    (read : readLeb128? bytes = some (value, rest)) :
    (leb128 value).length + rest.length ≤ bytes.length := by
  obtain ⟨digits, length, small⟩ := lt_of_readLeb128? read
  have shortest := length_leb128_le small
  omega

/-- No number in LEB128 is the beginning of another one. -/
theorem eq_of_leb128_prefix
    {value other : Nat}
    (isPrefix : leb128 value <+: leb128 other) : value = other := by
  obtain ⟨rest, same⟩ := isPrefix
  have read := readLeb128?_leb128 value rest
  have readOther := readLeb128?_leb128 other []
  rw [List.append_nil, ← same, read] at readOther
  exact congrArg Prod.fst (Option.some.inj readOther)

/--
A key that is qualified by its collection is read back: the number in front is
the collection, and what it leaves are the bytes of the id. A collection takes a
byte for every seven bits of its number, which is at least one byte and at most
five, and no form that is read as the number is shorter. Each of these bytes but
the last has its top bit set, so no collection is the beginning of another one.
-/
theorem qualified_keys_are_read_back :
    (∀ (id : String) (collection : Collection) (channel : Channel),
      channel.hasCollections →
      readLeb128? (wireKey id collection channel) =
        some (collection.number.toNat, Text.encode id)) ∧
      (∀ collection : Collection,
        collection.leb128.length =
            max 1 ((Nat.size collection.number.toNat + 6) / 7) ∧
          collection.leb128.length ≤ 5 ∧
          (∀ bytes rest : Bytes,
            readLeb128? bytes = some (collection.number.toNat, rest) →
            collection.leb128.length + rest.length ≤ bytes.length) ∧
          IsDelimited collection.leb128) ∧
      ∀ collection other : Collection,
        collection ≠ other → ¬ collection.leb128 <+: other.leb128 := by
  refine ⟨?_, ?_, ?_⟩
  · intro id collection channel qualified
    rw [wireKey, if_pos qualified]
    exact readLeb128?_leb128 _ _
  · intro collection
    have few : Nat.size collection.number.toNat ≤ 32 :=
      Nat.size_le.mpr collection.number.toNat_lt
    have length := length_leb128 collection.number.toNat
    refine ⟨length, ?_, ?_, isDelimited_leb128 _⟩
    · rw [Collection.leb128, length]
      omega
    · intro bytes rest read
      exact length_leb128_le_of_read read
  · intro collection other differ isPrefix
    have same := eq_of_leb128_prefix isPrefix
    exact differ (congrArg Collection.mk (UInt32.toNat_inj.mp same))

/--
Both bytes of the id look as if the number went on, and are left to it. The
number is also read from three bytes, but is written in two.
-/
theorem qualified_keys_are_read_back_accent :
    readLeb128? (wireKey "é" ⟨300⟩ ⟨true, false, "default"⟩) =
        some (300, [0xc3, 0xa9]) ∧
      (goesOn 0xc3 ∧ goesOn 0xa9) ∧
      readLeb128? [0xac, 0x82, 0x00] = some (300, []) ∧
      (Collection.leb128 ⟨300⟩).length ≤ 3 ∧
      ¬ Collection.leb128 ⟨44⟩ <+: Collection.leb128 ⟨300⟩ := by
  obtain ⟨reads, shortest, apart⟩ := qualified_keys_are_read_back
  have longer : readLeb128? [0xac, 0x82, 0x00] = some (300, []) := by
    decide
  refine ⟨?_, by decide, longer, ?_, ?_⟩
  · exact reads "é" ⟨300⟩ ⟨true, false, "default"⟩ rfl
  · exact (shortest ⟨300⟩).2.2.1 _ _ longer
  · exact apart ⟨44⟩ ⟨300⟩ (by decide)

end ClusterClient.Wire
