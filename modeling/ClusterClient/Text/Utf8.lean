import ClusterClient.Bytes

namespace ClusterClient.Text

/-!
# Texts as UTF-8 bytes

Document ids, paths and JSON documents travel as UTF-8. `encode` and `decode?`
are the exact conversions; `decodeLossy` is the reading used for server-supplied
error text, where every maximal ill-formed part is shown as U+FFFD.

The main statements are that `decode?` undoes `encode`, and that
`decodeLossy` keeps a well-formed text as it is.
-/

/-- The UTF-8 bytes of a text. -/
def encode (text : String) : Bytes :=
  text.toByteArray.data.toList

/-- The text whose UTF-8 bytes are given, if the bytes are well-formed. -/
def decode? (bytes : Bytes) : Option String :=
  String.fromUTF8? ⟨bytes.toArray⟩

/-- Decoding undoes encoding. -/
@[simp] theorem decode?_encode (text : String) :
    decode? (encode text) = some text := by
  have isValid : (⟨(encode text).toArray⟩ : ByteArray).IsValidUTF8 := by
    simpa [encode] using text.isValidUTF8
  simp only [decode?, String.fromUTF8?, isValid, ↓reduceDIte]
  congr 1

/-- Two texts with the same bytes are the same text. -/
theorem encode_injective
    {left right : String}
    (same : encode left = encode right) :
    left = right := by
  have decoded : some left = some right := by
    rw [← decode?_encode left, ← decode?_encode right, same]
  exact Option.some.inj decoded

/-- A text has as many bytes as its UTF-8 size says. -/
@[simp] theorem length_encode (text : String) :
    (encode text).length = text.utf8ByteSize := by
  exact Array.length_toList

/-- Only the empty text has no bytes. -/
@[simp] theorem encode_eq_nil_iff {text : String} :
    encode text = [] ↔ text = "" := by
  constructor
  · intro noBytes
    exact encode_injective (noBytes.trans rfl)
  · rintro rfl
    rfl

/-- The character shown in place of an ill-formed part. -/
def replacementCharacter : Char := '\ufffd'

/--
What a decoder still expects: how many continuation bytes, which range the next
one must lie in, and the value gathered so far.
-/
structure Expectation where
  continuations : Nat
  lowest : UInt8
  highest : UInt8
  gathered : Nat
  deriving Repr, DecidableEq

/-- What one byte means at the start of a character. -/
inductive Opening where
  | complete (character : Char)
  | expects (expectation : Expectation)
  | illFormed
  deriving Repr, DecidableEq

/--
Classify a byte at the start of a character.

The ranges of the second byte exclude overlong forms, surrogates and values
above U+10FFFF.
-/
def opening (byte : UInt8) : Opening :=
  if byte < 0x80 then
    .complete (Char.ofNat byte.toNat)
  else if byte < 0xc2 then
    .illFormed
  else if byte < 0xe0 then
    .expects ⟨1, 0x80, 0xbf, byte.toNat - 0xc0⟩
  else if byte = 0xe0 then
    .expects ⟨2, 0xa0, 0xbf, 0⟩
  else if byte = 0xed then
    .expects ⟨2, 0x80, 0x9f, 0xd⟩
  else if byte < 0xf0 then
    .expects ⟨2, 0x80, 0xbf, byte.toNat - 0xe0⟩
  else if byte = 0xf0 then
    .expects ⟨3, 0x90, 0xbf, 0⟩
  else if byte < 0xf4 then
    .expects ⟨3, 0x80, 0xbf, byte.toNat - 0xf0⟩
  else if byte = 0xf4 then
    .expects ⟨3, 0x80, 0x8f, 4⟩
  else
    .illFormed

/--
Decode with replacement: a byte that cannot continue the character begun before
it ends one ill-formed part and is read afresh.
-/
def replaceIllFormed : Option Expectation → Bytes → List Char
  | none, [] => []
  | some _, [] => [replacementCharacter]
  | none, byte :: rest =>
      match opening byte with
      | .complete character => character :: replaceIllFormed none rest
      | .expects expectation => replaceIllFormed (some expectation) rest
      | .illFormed => replacementCharacter :: replaceIllFormed none rest
  | some expectation, byte :: rest =>
      if expectation.lowest ≤ byte ∧ byte ≤ expectation.highest then
        let gathered := expectation.gathered * 64 + (byte.toNat - 0x80)
        if expectation.continuations ≤ 1 then
          Char.ofNat gathered :: replaceIllFormed none rest
        else
          replaceIllFormed
            (some ⟨expectation.continuations - 1, 0x80, 0xbf, gathered⟩) rest
      else
        replacementCharacter ::
          match opening byte with
          | .complete character => character :: replaceIllFormed none rest
          | .expects later => replaceIllFormed (some later) rest
          | .illFormed => replacementCharacter :: replaceIllFormed none rest

/-- The text of some bytes, with each maximal ill-formed part replaced. -/
def decodeLossy (bytes : Bytes) : String :=
  match decode? bytes with
  | some text => text
  | none => String.ofList (replaceIllFormed none bytes)

/-- A well-formed text is kept as it is. -/
@[simp] theorem decodeLossy_encode (text : String) :
    decodeLossy (encode text) = text := by
  simp [decodeLossy]

end ClusterClient.Text
