namespace ClusterClient

/-!
# Bytes and big-endian numbers

Frames, keys and values are finite lists of bytes. Numbers travel with the most
significant byte first in fields of a fixed width; `writeNumber` and
`readNumber` are the two directions.

The main statement is that a number below the limit of its field reads back.
-/

/-- A finite list of bytes, as it stands in a frame. -/
abbrev Bytes := List UInt8

/-- There are fewer bytes than a number; no more than that many are visited. -/
def isShorterThan : (limit : Nat) → Bytes → Bool
  | 0, _ => false
  | _ + 1, [] => true
  | limit + 1, _ :: rest => isShorterThan limit rest

/-- Being shorter is a statement about the length. -/
@[simp] theorem isShorterThan_iff
    {limit : Nat}
    {bytes : Bytes} :
    isShorterThan limit bytes = true ↔ bytes.length < limit := by
  induction limit generalizing bytes with
  | zero => simp [isShorterThan]
  | succ limit inductionHypothesis =>
      cases bytes with
      | nil => simp [isShorterThan]
      | cons _ rest => simp [isShorterThan, inductionHypothesis]

/-- The number whose big-endian bytes are given. -/
def readNumber (bytes : Bytes) : Nat :=
  bytes.foldl (fun value byte => value * 256 + byte.toNat) 0

/-- The number in the field of a given offset and width. -/
def numberAt (bytes : Bytes) (offset width : Nat) : Nat :=
  readNumber ((bytes.drop offset).take width)

/-- A number in a big-endian field; bits above the field are lost. -/
def writeNumber : (width : Nat) → (value : Nat) → Bytes
  | 0, _ => []
  | width + 1, value =>
      writeNumber width (value / 256) ++ [UInt8.ofNat value]

/-- A field has the width that it was written with. -/
@[simp] theorem length_writeNumber
    (width value : Nat) :
    (writeNumber width value).length = width := by
  induction width generalizing value with
  | zero => rfl
  | succ width inductionHypothesis =>
      simp [writeNumber, inductionHypothesis]

/-- A last byte is the lowest digit in base 256. -/
theorem readNumber_append_singleton
    (bytes : Bytes)
    (byte : UInt8) :
    readNumber (bytes ++ [byte]) = readNumber bytes * 256 + byte.toNat := by
  simp [readNumber]

/-- A field reads back as its number modulo the limit of the field. -/
theorem readNumber_writeNumber_mod
    (width value : Nat) :
    readNumber (writeNumber width value) = value % Nat.pow 256 width := by
  induction width generalizing value with
  | zero => simp [writeNumber, readNumber, Nat.mod_one]
  | succ width inductionHypothesis =>
      have lowest : (UInt8.ofNat value).toNat = value % 256 := by simp
      have wider : Nat.pow 256 (width + 1) = 256 * Nat.pow 256 width :=
        Nat.pow_succ'
      rw [writeNumber, readNumber_append_singleton, inductionHypothesis,
        lowest, wider, Nat.mod_mul]
      omega

/-- A number that fits its field reads back unchanged. -/
theorem readNumber_writeNumber
    {width value : Nat}
    (fits : value < Nat.pow 256 width) :
    readNumber (writeNumber width value) = value := by
  rw [readNumber_writeNumber_mod, Nat.mod_eq_of_lt fits]

end ClusterClient
