namespace ClusterClient.KeyedList

/-!
# Lists of entries under keys

Objects, stored documents, snapshots and requests in flight are lists of
entries, one to a key, in the order of the keys. `insert` puts an entry at its
place or replaces the one under its key, `erase` drops the entry under a key,
and `find?` looks one up.

The main statements give `find?` after `insert` and after `erase`; they hold of
every list, ordered or not.
-/

variable {Key Value : Type} [DecidableEq Key] [LT Key] [DecidableLT Key]

/-- The value under a key. -/
def find? (key : Key) : List (Key × Value) → Option Value
  | [] => none
  | (other, value) :: rest =>
      if key = other then some value else find? key rest

/-- Set the value under a key, at the place of the key in the order. -/
def insert (key : Key) (value : Value) :
    List (Key × Value) → List (Key × Value)
  | [] => [(key, value)]
  | (other, current) :: rest =>
      if key = other then
        (key, value) :: rest
      else if key < other then
        (key, value) :: (other, current) :: rest
      else
        (other, current) :: insert key value rest

/-- Drop the entry under a key. -/
def erase (key : Key) : List (Key × Value) → List (Key × Value)
  | [] => []
  | (other, value) :: rest =>
      if key = other then erase key rest else (other, value) :: erase key rest

/-- There is an entry under the key. -/
def contains (key : Key) (entries : List (Key × Value)) : Bool :=
  (find? key entries).isSome

omit [LT Key] [DecidableLT Key] in
/-- Nothing is under a key in the empty list. -/
@[simp] theorem find?_nil (key : Key) :
    find? key ([] : List (Key × Value)) = none := rfl

/-- The inserted value is under its key, and other keys keep their values. -/
theorem find?_insert
    (key inserted : Key)
    (value : Value)
    (entries : List (Key × Value)) :
    find? key (insert inserted value entries) =
      if key = inserted then some value else find? key entries := by
  induction entries with
  | nil => simp [insert, find?]
  | cons entry rest inductionHypothesis =>
      obtain ⟨other, current⟩ := entry
      by_cases atEntry : inserted = other
      · subst atEntry
        by_cases sought : key = inserted <;> simp [insert, find?, sought]
      · by_cases before : inserted < other
        · simp [insert, find?, atEntry, before]
        · by_cases sought : key = other
          · have notInserted : ¬ key = inserted := by
              intro same
              exact atEntry (same.symm.trans sought)
            simp [insert, find?, atEntry, before, sought, Ne.symm atEntry]
          · simp [insert, find?, atEntry, before, sought,
              inductionHypothesis]

omit [LT Key] [DecidableLT Key] in
/-- Nothing is under an erased key, and other keys keep their values. -/
theorem find?_erase
    (key erased : Key)
    (entries : List (Key × Value)) :
    find? key (erase erased entries) =
      if key = erased then none else find? key entries := by
  induction entries with
  | nil => simp [erase, find?]
  | cons entry rest inductionHypothesis =>
      obtain ⟨other, current⟩ := entry
      by_cases atEntry : erased = other
      · subst atEntry
        by_cases sought : key = erased
        · subst sought
          simpa [erase] using inductionHypothesis
        · simpa [erase, find?, sought] using inductionHypothesis
      · by_cases sought : key = other
        · subst sought
          simp [erase, find?, atEntry, Ne.symm atEntry]
        · simp [erase, find?, atEntry, sought, inductionHypothesis]

end ClusterClient.KeyedList
