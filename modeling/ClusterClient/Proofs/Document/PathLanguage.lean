import ClusterClient.Proofs.Document.FieldPath
import Mathlib.Algebra.Ring.Parity

namespace ClusterClient.Document

/-!
# The language of paths

Which paths are read, and as which key. A quoted path is read by replacing
pairs of backticks from left to right without overlaps. This finds a backtick
left over exactly when some run of backticks has odd length, wherever the run
stands, so no two keys share a path and no path outside the language is read.
-/

/-- The path holds no path syntax, so it is its own key. -/
def IsPlain (path : String) : Prop :=
  ∀ character ∈ path.toList, isPathSyntax character = false

/-- Every run of backticks that cannot be extended has even length. -/
def HasEvenRuns (body : List Char) : Prop :=
  ∀ before count after,
    body = before ++ List.replicate count backtick ++ after →
      before.getLast? ≠ some backtick →
      after.head? ≠ some backtick →
      Even count

/-- Replace pairs of backticks from left to right, none of them overlapping. -/
def replacePairs (replacement : List Char) : List Char → List Char
  | [] => []
  | [character] => [character]
  | first :: second :: rest =>
      if first = backtick ∧ second = backtick then
        replacement ++ replacePairs replacement rest
      else
        first :: replacePairs replacement (second :: rest)

/-- Halving reads in one pass what two replacements of pairs read. -/
theorem halveBackticks?_eq (body : List Char) :
    halveBackticks? body =
      if backtick ∈ replacePairs [] body then
        none
      else
        some (replacePairs [backtick] body) := by
  fun_induction halveBackticks? body with
  | case1 => simp [replacePairs]
  | case2 => simp [replacePairs]
  | case3 character notQuote =>
      simp [replacePairs, Ne.symm notQuote]
  | case4 rest inductionHypothesis =>
      simp only [inductionHypothesis, replacePairs, and_self, ↓reduceIte,
        List.nil_append, List.cons_append]
      split <;> rfl
  | case5 second rest notPair =>
      simp [replacePairs, notPair]
  | case6 first second rest notQuote inductionHypothesis =>
      simp only [inductionHypothesis, replacePairs, notQuote, false_and,
        ↓reduceIte, List.mem_cons, Ne.symm notQuote, false_or]
      split <;> rfl

theorem hasEvenRuns_nil : HasEvenRuns [] := by
  intro before count after splits _ _
  obtain ⟨-, rfl, -⟩ : before = [] ∧ count = 0 ∧ after = [] := by
    simpa using splits
  exact Even.zero

/-- A character that is no backtick belongs to no run. -/
theorem hasEvenRuns_cons
    {character : Char}
    {rest : List Char}
    (notQuote : character ≠ backtick) :
    HasEvenRuns (character :: rest) ↔ HasEvenRuns rest := by
  constructor
  · intro even before count after splits left right
    refine even (character :: before) count after (by simp [splits]) ?_ right
    cases before with
    | nil => simpa using notQuote
    | cons => simpa [List.getLast?_cons_cons] using left
  · intro even before count after splits left right
    cases before with
    | nil =>
        cases count with
        | zero => exact Even.zero
        | succ =>
            simp only [List.replicate_succ, List.nil_append, List.cons_append,
              List.cons.injEq] at splits
            exact absurd splits.1 notQuote
    | cons first others =>
        simp only [List.cons_append, List.cons.injEq] at splits
        refine even others count after splits.2 ?_ right
        cases others with
        | nil => simp
        | cons => simpa [List.getLast?_cons_cons] using left

/-- A pair of backticks lengthens the run that follows it by two. -/
theorem hasEvenRuns_pair (rest : List Char) :
    HasEvenRuns (backtick :: backtick :: rest) ↔ HasEvenRuns rest := by
  constructor
  · intro even before count after splits left right
    cases before with
    | nil =>
        have longer : Even (count + 2) :=
          even [] (count + 2) after
            (by simpa [List.replicate_succ] using splits) left right
        simpa [parity_simps] using longer
    | cons first others =>
        exact even (backtick :: backtick :: first :: others) count after
          (by simp [splits]) (by simpa [List.getLast?_cons_cons] using left)
          right
  · intro even before count after splits left right
    match before, count with
    | [], 0 => exact Even.zero
    | [], 1 =>
        simp only [List.replicate_succ, List.replicate_zero, List.nil_append,
          List.cons_append, List.cons.injEq, true_and] at splits
        simp [← splits] at right
    | [], count + 2 =>
        simp only [List.replicate_succ, List.nil_append, List.cons_append,
          List.cons.injEq, true_and] at splits
        have shorter : Even count :=
          even [] count after (by simpa using splits) (by simp) right
        simpa [parity_simps] using shorter
    | [_], _ =>
        simp only [List.cons_append, List.cons.injEq] at splits
        simp [← splits.1] at left
    | [_, _], _ =>
        simp only [List.cons_append, List.cons.injEq] at splits
        simp [← splits.2.1] at left
    | _ :: _ :: third :: others, count =>
        simp only [List.cons_append, List.cons.injEq] at splits
        exact even (third :: others) count after splits.2.2
          (by simpa [List.getLast?_cons_cons] using left) right

/-- A backtick that no second one follows is a run of one. -/
theorem not_hasEvenRuns_single
    (rest : List Char)
    (alone : rest.head? ≠ some backtick) :
    ¬HasEvenRuns (backtick :: rest) := by
  intro even
  have one : Even 1 := even [] 1 rest (by simp) (by simp) alone
  simp at one

/-- No backtick is left over exactly when all runs have even length. -/
theorem backtick_notMem_replacePairs_iff (body : List Char) :
    backtick ∉ replacePairs [] body ↔ HasEvenRuns body := by
  fun_induction replacePairs [] body with
  | case1 => simp [hasEvenRuns_nil]
  | case2 character =>
      by_cases quotes : character = backtick
      · subst quotes
        simpa using not_hasEvenRuns_single [] (by simp)
      · simp [hasEvenRuns_cons quotes, hasEvenRuns_nil, Ne.symm quotes]
  | case3 first second rest pair inductionHypothesis =>
      obtain ⟨rfl, rfl⟩ := pair
      rw [hasEvenRuns_pair, List.nil_append, inductionHypothesis]
  | case4 first second rest notPair inductionHypothesis =>
      by_cases quotes : first = backtick
      · subst quotes
        have alone : (second :: rest).head? ≠ some backtick := by
          simpa using notPair
        simpa using not_hasEvenRuns_single _ alone
      · rw [hasEvenRuns_cons quotes, ← inductionHypothesis]
        simp [Ne.symm quotes]

/-- What stands between backticks is read when all its runs are even. -/
theorem halveBackticks?_eq_some_iff {body key : List Char} :
    halveBackticks? body = some key ↔
      HasEvenRuns body ∧ key = replacePairs [backtick] body := by
  rw [halveBackticks?_eq, ← backtick_notMem_replacePairs_iff]
  split <;> simp_all [eq_comm]

/-- The quoted paths are those that begin and end with a backtick each. -/
theorem quotedBody?_eq_some_iff {characters body : List Char} :
    quotedBody? characters = some body ↔
      characters = backtick :: (body ++ [backtick]) := by
  constructor
  · intro quoted
    cases characters with
    | nil => simp [quotedBody?] at quoted
    | cons first rest =>
        simp only [quotedBody?, Option.ite_none_right_eq_some,
          Option.some.injEq] at quoted
        obtain ⟨⟨rfl, closed⟩, rfl⟩ := quoted
        obtain ⟨body, rfl⟩ := List.getLast?_eq_some_iff.mp closed
        rw [List.dropLast_concat]
  · rintro rfl
    exact quotedBody?_quoted body

theorem any_isPathSyntax_iff (path : String) :
    path.toList.any isPathSyntax = false ↔ IsPlain path := by
  simp [IsPlain]

/-- A plain path is not quoted, since a quoting backtick is path syntax. -/
theorem IsPlain.not_quoted
    {path : String}
    {body : List Char}
    (plain : IsPlain path) :
    path.toList ≠ backtick :: (body ++ [backtick]) := by
  intro quoted
  have unquoted := quotedBody?_eq_none ((any_isPathSyntax_iff path).mpr plain)
  rw [quoted, quotedBody?_quoted] at unquoted
  contradiction

/-- A path without quotes is read when it is plain, and then as itself. -/
theorem keyOfPath_of_unquoted
    {path : String}
    (unquoted : quotedBody? path.toList = none)
    (key : String) :
    keyOfPath path = .ok key ↔ IsPlain path ∧ key = path := by
  simp only [keyOfPath, unquoted, ← any_isPathSyntax_iff]
  cases path.toList.any isPathSyntax <;> simp [eq_comm]

/-- A quoted path is read when its runs are even, with its pairs replaced. -/
theorem keyOfPath_of_quoted
    {path : String}
    {body : List Char}
    (quoted : quotedBody? path.toList = some body)
    (key : String) :
    keyOfPath path = .ok key ↔
      HasEvenRuns body ∧ key.toList = replacePairs [backtick] body := by
  rw [← halveBackticks?_eq_some_iff]
  simp only [keyOfPath, quoted]
  cases halveBackticks? body with
  | none => simp
  | some halved =>
      simp only [Except.ok.injEq, Option.some.injEq]
      constructor
      · rintro rfl
        simp
      · rintro rfl
        simp

/-- The keys that paths are read as. -/
theorem keyOfPath_eq_ok_iff (path key : String) :
    keyOfPath path = .ok key ↔
      (IsPlain path ∧ key = path) ∨
        ∃ body,
          path.toList = backtick :: (body ++ [backtick]) ∧
            HasEvenRuns body ∧
            key.toList = replacePairs [backtick] body := by
  cases found : quotedBody? path.toList with
  | none =>
      have unquoted : ∀ body,
          path.toList ≠ backtick :: (body ++ [backtick]) := by
        intro body quoted
        rw [quotedBody?_eq_some_iff.mpr quoted] at found
        contradiction
      simp [keyOfPath_of_unquoted found, unquoted]
  | some body =>
      have quoted := quotedBody?_eq_some_iff.mp found
      have notPlain : ¬IsPlain path := fun plain => plain.not_quoted quoted
      simp [keyOfPath_of_quoted found, notPlain, quoted]

theorem pathOfKey_injective : Function.Injective pathOfKey := by
  intro left right same
  have read := congrArg keyOfPath same
  simpa using read

/--
Escaping is reversible and reading accepts exactly the escaped language. The
path of a key is read as that key, so different keys have different paths. A
path is read exactly when it is plain, or a body between two backticks in which
every run of backticks has even length; its key is then the path itself, or the
body with every pair of backticks replaced by one. Reading the path of a key
that was read gives this key again.
-/
theorem paths_are_the_escaped_keys :
    (∀ key, keyOfPath (pathOfKey key) = .ok key) ∧
      Function.Injective pathOfKey ∧
      (∀ path,
        (∃ key, keyOfPath path = .ok key) ↔
          IsPlain path ∨
            ∃ body,
              path.toList = backtick :: (body ++ [backtick]) ∧
                HasEvenRuns body) ∧
      (∀ path key,
        keyOfPath path = .ok key ↔
          (IsPlain path ∧ key = path) ∨
            ∃ body,
              path.toList = backtick :: (body ++ [backtick]) ∧
                HasEvenRuns body ∧
                key.toList = replacePairs [backtick] body) ∧
      ∀ path,
        (keyOfPath path >>= fun key => keyOfPath (pathOfKey key)) =
          keyOfPath path := by
  refine ⟨keyOfPath_pathOfKey, pathOfKey_injective, ?_, keyOfPath_eq_ok_iff, ?_⟩
  · intro path
    constructor
    · rintro ⟨key, read⟩
      obtain ⟨plain, -⟩ | ⟨body, quoted, even, -⟩ :=
        (keyOfPath_eq_ok_iff path key).mp read
      · exact .inl plain
      · exact .inr ⟨body, quoted, even⟩
    · rintro (plain | ⟨body, quoted, even⟩)
      · exact ⟨path, (keyOfPath_eq_ok_iff path path).mpr (.inl ⟨plain, rfl⟩)⟩
      · refine ⟨String.ofList (replacePairs [backtick] body), ?_⟩
        exact (keyOfPath_eq_ok_iff path _).mpr
          (.inr ⟨body, quoted, even, String.toList_ofList⟩)
  · intro path
    simp only [keyOfPath_pathOfKey]
    cases keyOfPath path <;> rfl

/-- Three backticks between quotes hold a pair and one that is left over. -/
example :
    keyOfPath "\x60a\x60\x60b\x60" = .ok "a\x60b" ∧
      keyOfPath "\x60a\x60b\x60" =
        .error (.unbalancedBacktick "\x60a\x60b\x60") := by
  decide

end ClusterClient.Document
