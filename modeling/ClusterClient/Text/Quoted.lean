import ClusterClient.Text.Printable

namespace ClusterClient.Text

/-!
# Quoted text in messages

Messages show paths, settings and single characters between quotes. The closing
quote, the backslash and the common controls have short escapes; every other
character without a visible form, and every combining character, is shown by
its code point, so that a message never hides what it is about.
-/

/-- The lower-case hexadecimal digits of a number, without leading zeros. -/
def codePointDigits (code : Nat) : List Char :=
  Nat.toDigits 16 code

/-- One character between quotes of the given kind. -/
def escapeCharacter (quote character : Char) : List Char :=
  if character = quote ∨ character = '\\' then
    ['\\', character]
  else if character = '\x00' then
    ['\\', '0']
  else if character = '\t' then
    ['\\', 't']
  else if character = '\n' then
    ['\\', 'n']
  else if character = '\r' then
    ['\\', 'r']
  else if isCombining character || isInvisible character then
    ['\\', 'u', '\x7b'] ++ codePointDigits character.toNat ++ ['\x7d']
  else
    [character]

/-- A text between double quotes. -/
def quoted (text : String) : String :=
  String.ofList
    (['"'] ++ text.toList.flatMap (escapeCharacter '"') ++ ['"'])

/-- A character between single quotes. -/
def quotedCharacter (character : Char) : String :=
  String.ofList (['\''] ++ escapeCharacter '\'' character ++ ['\''])

end ClusterClient.Text
