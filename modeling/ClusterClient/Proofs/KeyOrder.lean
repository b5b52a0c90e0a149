import ClusterClient.KeyedList
import Mathlib.Order.Defs.Unbundled

namespace ClusterClient.KeyedList

/-!
# Entries in the order of their keys

A keyed list that was built by `insert` and `erase` stands in the order of its
keys and has one entry to a key. In such a list an entry is a member exactly
when looking its key up finds it, so membership, look-up and selection agree.
-/

/-- Numbers are ordered. -/
instance isStrictTotalOrderUInt32 : IsStrictTotalOrder UInt32 (· < ·) where
  irrefl _ := UInt32.lt_irrefl _
  trans _ _ _ := UInt32.lt_trans
  trichotomous _ _ notLess notGreater :=
    UInt32.le_antisymm (UInt32.not_lt.mp notGreater) (UInt32.not_lt.mp notLess)

variable {Key Value : Type} [DecidableEq Key] [LT Key]

/-- The entries stand in the order of their keys, one entry to a key. -/
def IsOrdered (entries : List (Key × Value)) : Prop :=
  entries.Pairwise fun first second => first.1 < second.1

omit [DecidableEq Key] in
@[simp] theorem isOrdered_nil :
    IsOrdered ([] : List (Key × Value)) :=
  List.Pairwise.nil

omit [DecidableEq Key] in
theorem isOrdered_cons
    {entry : Key × Value}
    {rest : List (Key × Value)} :
    IsOrdered (entry :: rest) ↔
      (∀ other ∈ rest, entry.1 < other.1) ∧ IsOrdered rest :=
  List.pairwise_cons

omit [DecidableEq Key] in
/-- Entries are in order when their keys are. -/
theorem isOrdered_iff_keys {entries : List (Key × Value)} :
    IsOrdered entries ↔ (entries.map Prod.fst).Pairwise (· < ·) :=
  List.pairwise_map.symm

omit [DecidableEq Key] in
theorem IsOrdered.sublist
    {some all : List (Key × Value)}
    (ordered : IsOrdered all)
    (fewer : some.Sublist all) : IsOrdered some :=
  List.Pairwise.sublist fewer ordered

omit [LT Key] in
theorem mem_of_find?
    {key : Key}
    {value : Value}
    {entries : List (Key × Value)}
    (found : find? key entries = some value) : (key, value) ∈ entries := by
  induction entries with
  | nil => cases found
  | cons entry rest inductionHypothesis =>
      obtain ⟨other, current⟩ := entry
      by_cases same : key = other
      · subst same
        simp only [find?, ↓reduceIte, Option.some.injEq] at found
        subst found
        exact List.mem_cons_self
      · simp only [find?, same, ↓reduceIte] at found
        exact List.mem_cons_of_mem _ (inductionHypothesis found)

omit [LT Key] in
theorem find?_isSome_iff
    {key : Key}
    {entries : List (Key × Value)} :
    (find? key entries).isSome ↔ key ∈ entries.map Prod.fst := by
  induction entries with
  | nil => simp
  | cons entry rest inductionHypothesis =>
      obtain ⟨other, current⟩ := entry
      by_cases same : key = other
      · simp [find?, same]
      · simp [find?, same, inductionHypothesis]

/-- Every key of a list with an inserted entry is the new key or an old one. -/
theorem mem_insert
    [DecidableLT Key]
    {key : Key}
    {value : Value}
    {entry : Key × Value}
    {entries : List (Key × Value)}
    (member : entry ∈ insert key value entries) :
    entry = (key, value) ∨ entry ∈ entries := by
  induction entries with
  | nil => simpa [insert] using member
  | cons head rest inductionHypothesis =>
      obtain ⟨other, current⟩ := head
      by_cases same : key = other
      · simp only [insert, same, ↓reduceIte, List.mem_cons] at member ⊢
        rcases member with isNew | inRest
        · exact .inl isNew
        · exact .inr (.inr inRest)
      · by_cases before : key < other
        · simpa [insert, same, before] using member
        · simp only [insert, same, before, ↓reduceIte, List.mem_cons]
            at member ⊢
          rcases member with isHead | inRest
          · exact .inr (.inl isHead)
          · rcases inductionHypothesis inRest with isNew | isOld
            · exact .inl isNew
            · exact .inr (.inr isOld)

omit [LT Key] in
/-- Erasing a key keeps the entries with other keys. -/
theorem erase_eq_filter (key : Key) (entries : List (Key × Value)) :
    erase key entries = entries.filter fun entry => entry.1 ≠ key := by
  induction entries with
  | nil => rfl
  | cons entry rest inductionHypothesis =>
      obtain ⟨other, value⟩ := entry
      by_cases same : key = other
      · simpa [erase, same] using inductionHypothesis
      · simpa [erase, same, Ne.symm same] using inductionHypothesis

omit [LT Key] in
theorem mem_erase
    {key : Key}
    {entry : Key × Value}
    {entries : List (Key × Value)} :
    entry ∈ erase key entries ↔ entry ∈ entries ∧ entry.1 ≠ key := by
  rw [erase_eq_filter, List.mem_filter, decide_eq_true_iff]

omit [LT Key] in
theorem erase_sublist (key : Key) (entries : List (Key × Value)) :
    (erase key entries).Sublist entries := by
  rw [erase_eq_filter]
  exact List.filter_sublist

omit [LT Key] in
/-- Erasing a key that no entry has changes nothing. -/
theorem erase_of_absent
    {key : Key}
    {entries : List (Key × Value)}
    (absent : ∀ entry ∈ entries, entry.1 ≠ key) :
    erase key entries = entries := by
  rw [erase_eq_filter, List.filter_eq_self]
  exact fun entry member => decide_eq_true (absent entry member)

omit [LT Key] in
/-- Two keys may be erased in either order. -/
theorem erase_comm (first second : Key) (entries : List (Key × Value)) :
    erase first (erase second entries) =
      erase second (erase first entries) := by
  simp only [erase_eq_filter, List.filter_filter, Bool.and_comm]

theorem IsOrdered.erase
    {entries : List (Key × Value)}
    (ordered : IsOrdered entries)
    (key : Key) : IsOrdered (erase key entries) :=
  ordered.sublist (erase_sublist key entries)

omit [LT Key] in
/-- Looking a key up finds nothing when no entry has it. -/
theorem find?_eq_none_iff
    {key : Key}
    {entries : List (Key × Value)} :
    find? key entries = none ↔ ∀ entry ∈ entries, entry.1 ≠ key := by
  rw [← Option.not_isSome_iff_eq_none, find?_isSome_iff, List.mem_map]
  constructor
  · intro missing entry member isKey
    exact missing ⟨entry, member, isKey⟩
  · rintro absent ⟨entry, member, isKey⟩
    exact absent entry member isKey

/-- Inserting under a key that is not there adds one entry. -/
theorem insert_perm
    [DecidableLT Key]
    {key : Key}
    {entries : List (Key × Value)}
    (absent : ∀ entry ∈ entries, entry.1 ≠ key)
    (value : Value) :
    (insert key value entries).Perm ((key, value) :: entries) := by
  induction entries with
  | nil => exact .refl _
  | cons entry rest inductionHypothesis =>
      obtain ⟨other, current⟩ := entry
      have differs : ¬ key = other := Ne.symm (absent _ List.mem_cons_self)
      by_cases before : key < other
      · simp only [insert, differs, before, ↓reduceIte]
        exact .refl _
      · simp only [insert, differs, before, ↓reduceIte]
        have inRest := inductionHypothesis fun entry member =>
          absent entry (List.mem_cons_of_mem _ member)
        exact (inRest.cons _).trans (.swap ..)

/-- Inserting leaves alone what is there without the key. -/
theorem erase_insert_self
    [DecidableLT Key]
    (key : Key)
    (value : Value)
    (entries : List (Key × Value)) :
    erase key (insert key value entries) = erase key entries := by
  induction entries with
  | nil => simp [insert, erase]
  | cons entry rest inductionHypothesis =>
      obtain ⟨other, current⟩ := entry
      by_cases same : key = other
      · simp [insert, erase, same]
      · by_cases before : key < other <;>
          simp [insert, erase, same, before, inductionHypothesis]

/-- Erasing what was inserted under a key that was not there undoes it. -/
theorem erase_insert
    [DecidableLT Key]
    {key : Key}
    {entries : List (Key × Value)}
    (absent : ∀ entry ∈ entries, entry.1 ≠ key)
    (value : Value) :
    erase key (insert key value entries) = entries :=
  (erase_insert_self key value entries).trans (erase_of_absent absent)

omit [LT Key] in
/-- Erasing once is enough. -/
theorem erase_erase_self (key : Key) (entries : List (Key × Value)) :
    erase key (erase key entries) = erase key entries := by
  apply erase_of_absent
  exact fun entry member => (mem_erase.mp member).2

section Total

variable [DecidableLT Key] [IsStrictTotalOrder Key (· < ·)]

theorem IsOrdered.insert
    {entries : List (Key × Value)}
    (ordered : IsOrdered entries)
    (key : Key)
    (value : Value) : IsOrdered (insert key value entries) := by
  induction entries with
  | nil => simp [KeyedList.insert, isOrdered_cons]
  | cons head rest inductionHypothesis =>
      obtain ⟨other, current⟩ := head
      obtain ⟨headFirst, restOrdered⟩ := isOrdered_cons.mp ordered
      by_cases same : key = other
      · subst same
        simp only [KeyedList.insert, ↓reduceIte]
        exact isOrdered_cons.mpr ⟨headFirst, restOrdered⟩
      · by_cases before : key < other
        · simp only [KeyedList.insert, same, before, ↓reduceIte]
          refine isOrdered_cons.mpr ⟨?_, ordered⟩
          intro entry member
          rcases List.mem_cons.mp member with isHead | inRest
          · rw [isHead]
            exact before
          · exact trans_of (· < ·) before (headFirst entry inRest)
        · simp only [KeyedList.insert, same, before, ↓reduceIte]
          refine isOrdered_cons.mpr
            ⟨?_, inductionHypothesis restOrdered⟩
          intro entry member
          rcases mem_insert member with isNew | isOld
          · rw [isNew]
            rcases trichotomous_of (· < ·) other key with
              less | equal | greater
            · exact less
            · exact absurd equal.symm same
            · exact absurd greater before
          · exact headFirst entry isOld

omit [DecidableLT Key] in
/-- In an ordered list every member is what looking its key up finds. -/
theorem find?_eq_some_iff_mem
    {entries : List (Key × Value)}
    (ordered : IsOrdered entries)
    {key : Key}
    {value : Value} :
    find? key entries = some value ↔ (key, value) ∈ entries := by
  refine ⟨mem_of_find?, ?_⟩
  intro member
  induction entries with
  | nil => cases member
  | cons head rest inductionHypothesis =>
      obtain ⟨other, current⟩ := head
      obtain ⟨headFirst, restOrdered⟩ := isOrdered_cons.mp ordered
      rcases List.mem_cons.mp member with isHead | inRest
      · cases isHead
        simp [find?]
      · have less : other < key := headFirst _ inRest
        have differs : key ≠ other := by
          intro same
          subst same
          exact irrefl key less
        simp only [find?, differs, ↓reduceIte]
        exact inductionHypothesis restOrdered inRest

omit [DecidableLT Key] in
/-- Erasing a key takes out what looking it up finds. -/
theorem IsOrdered.erase_perm
    {entries : List (Key × Value)}
    (ordered : IsOrdered entries)
    (key : Key) :
    ((KeyedList.erase key entries).map Prod.snd ++ (find? key entries).toList).Perm
      (entries.map Prod.snd) := by
  induction entries with
  | nil => exact .refl _
  | cons entry rest inductionHypothesis =>
      obtain ⟨other, current⟩ := entry
      obtain ⟨headFirst, restOrdered⟩ := isOrdered_cons.mp ordered
      by_cases same : key = other
      · subst same
        have absent : ∀ entry ∈ rest, entry.1 ≠ key := by
          intro entry member isKey
          have before := headFirst entry member
          rw [isKey] at before
          exact irrefl key before
        simp only [KeyedList.erase, find?, ↓reduceIte, erase_of_absent absent]
        exact List.perm_append_comm
      · simp only [KeyedList.erase, find?, same, ↓reduceIte]
        exact (inductionHypothesis restOrdered).cons _

end Total

end ClusterClient.KeyedList
