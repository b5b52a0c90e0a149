import ClusterClient.ArgumentFault

namespace ClusterClient.Document

/-!
# Field paths

Keys of a map become paths of top-level fields. A key that holds path syntax
stands between backticks, and a backtick inside it is written twice. Reading
accepts such paths and plain keys without path syntax, and nothing else.
-/

/-- The character that quotes a field in a path. -/
def backtick : Char := '\x60'

/-- The character has a meaning of its own in a path. -/
def isPathSyntax (character : Char) : Bool :=
  character == '.' || character == '[' || character == ']' ||
    character == backtick

/-- Write every backtick twice. -/
def doubleBackticks : List Char → List Char
  | [] => []
  | character :: rest =>
      if character = backtick then
        backtick :: backtick :: doubleBackticks rest
      else
        character :: doubleBackticks rest

/-- Read every pair of backticks as one; a backtick alone is refused. -/
def halveBackticks? : List Char → Option (List Char)
  | [] => some []
  | [character] => if character = backtick then none else some [character]
  | first :: second :: rest =>
      if first = backtick then
        if second = backtick then
          (halveBackticks? rest).map (backtick :: ·)
        else
          none
      else
        (halveBackticks? (second :: rest)).map (first :: ·)

/-- The path of the top-level field with a given key. -/
def pathOfKey (key : String) : String :=
  if key.toList.any isPathSyntax then
    String.ofList
      (backtick :: doubleBackticks key.toList ++ [backtick])
  else
    key

/-- What stands between the backticks that a path begins and ends with. -/
def quotedBody? : List Char → Option (List Char)
  | [] => none
  | character :: rest =>
      if character = backtick ∧ rest.getLast? = some backtick then
        some rest.dropLast
      else
        none

/-- The key of the top-level field that a path addresses. -/
def keyOfPath (path : String) : Except ArgumentFault String :=
  match quotedBody? path.toList with
  | some body =>
      match halveBackticks? body with
      | some key => .ok (String.ofList key)
      | none => .error (.unbalancedBacktick path)
  | none =>
      if path.toList.any isPathSyntax then
        .error (.nestedPath path)
      else
        .ok path

end ClusterClient.Document
