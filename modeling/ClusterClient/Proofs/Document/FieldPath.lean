import ClusterClient.Document.Memory

namespace ClusterClient.Document

/-!
# Paths of keys read back

The path of a key is read back as that key, whatever characters it holds.
-/

/-- Doubled backticks are halved again. -/
theorem halveBackticks?_doubleBackticks (characters : List Char) :
    halveBackticks? (doubleBackticks characters) = some characters := by
  induction characters with
  | nil => rfl
  | cons character rest inductionHypothesis =>
      by_cases quotes : character = backtick
      · simp [doubleBackticks, halveBackticks?, quotes, inductionHypothesis]
      · simp only [doubleBackticks, quotes, ↓reduceIte]
        cases doubled : doubleBackticks rest with
        | nil =>
            rw [doubled] at inductionHypothesis
            simp only [halveBackticks?, Option.some.injEq]
              at inductionHypothesis
            simp [halveBackticks?, quotes, ← inductionHypothesis]
        | cons second others =>
            rw [doubled] at inductionHypothesis
            simp [halveBackticks?, quotes, inductionHypothesis]

theorem quotedBody?_quoted (body : List Char) :
    quotedBody? (backtick :: (body ++ [backtick])) = some body := by
  simp [quotedBody?]

/-- Without path syntax there is nothing that backticks quote. -/
theorem quotedBody?_eq_none
    {characters : List Char}
    (plain : characters.any isPathSyntax = false) :
    quotedBody? characters = none := by
  cases characters with
  | nil => rfl
  | cons first rest =>
      have notQuote : first ≠ backtick := by
        intro quotes
        simp [quotes, isPathSyntax] at plain
      simp [quotedBody?, notQuote]

/-- The path of a key addresses the field with that key. -/
@[simp] theorem keyOfPath_pathOfKey (key : String) :
    keyOfPath (pathOfKey key) = .ok key := by
  by_cases quoted : key.toList.any isPathSyntax
  · simp [keyOfPath, pathOfKey, quoted, quotedBody?_quoted,
      halveBackticks?_doubleBackticks]
  · have plain : key.toList.any isPathSyntax = false := by simpa using quoted
    simp only [keyOfPath, pathOfKey, plain, Bool.false_eq_true, ↓reduceIte,
      quotedBody?_eq_none plain]

namespace Memory

@[simp] theorem fieldOf_pathOfKey (key : String) :
    fieldOf (pathOfKey key) = .ok key := by
  simp [fieldOf]

end Memory

end ClusterClient.Document
