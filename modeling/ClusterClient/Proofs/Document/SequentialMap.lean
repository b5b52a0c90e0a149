import ClusterClient.Document.MapSnapshot
import ClusterClient.Proofs.Document.Versions
import ClusterClient.Proofs.KeyOrder
import Mathlib.Data.Set.Card
import Mathlib.Data.String.Basic

namespace ClusterClient.Document

/-!
# Sequential maps, and the maps that documents hold

A sequential map is a function of the keys, or nothing while its document has
not been created. `MapCall.Performs` says what each operation does to it and
what the operation returns.

An object holds a map when its entries stand in the order of their keys and all
of its values can be read. Setting and dropping a field of such an object sets
and drops an entry of the map, and its field count, its field look-ups and its
list of entries are those of the map.
-/

/-- An operation on a map. -/
inductive MapCall (Value : Type) where
  | attach
  | put (key : String) (value : Value)
  | get (key : String)
  | remove (key : String)
  | containsKey (key : String)
  | size
  | isEmpty
  | clear
  | entries
  deriving Repr, DecidableEq

/-- What an operation on a map returns when it does not fail. -/
inductive MapAnswer (Value : Type) where
  | nothing
  | held (value : Option Value)
  | truth (truth : Bool)
  | count (count : Nat)
  | listing (entries : List (String × Value))
  deriving Repr, DecidableEq

/-- The values of a map by their keys, if the map has been created. -/
abbrev MapContents (Value : Type) := Option (String → Option Value)

namespace MapCall

variable {Value : Type}

/-- The key of an operation is not empty. -/
def IsKeyed : MapCall Value → Prop
  | .put key _ | .get key | .remove key | .containsKey key => key ≠ ""
  | .attach | .size | .isEmpty | .clear | .entries => True

/--
What a sequential map does: an operation, the contents before it, what it
returns, and the contents after it. Before the map is created, every operation
fails but those that create it, and a guarded write may give up at any time and
change nothing.
-/
inductive Performs (id : String) :
    MapCall Value → MapContents Value →
    Except Error (MapAnswer Value) → MapContents Value → Prop where
  | attach (contents : MapContents Value) :
      Performs id .attach contents (.ok .nothing)
        (some (contents.getD fun _ => none))
  | put (values : String → Option Value) (key : String) (value : Value) :
      Performs id (.put key value) (some values) (.ok (.held (values key)))
        (some (Function.update values key (some value)))
  | get (values : String → Option Value) (key : String) :
      Performs id (.get key) (some values) (.ok (.held (values key)))
        (some values)
  | remove (values : String → Option Value) (key : String) :
      Performs id (.remove key) (some values) (.ok (.held (values key)))
        (some (Function.update values key none))
  | containsKey (values : String → Option Value) (key : String) :
      Performs id (.containsKey key) (some values)
        (.ok (.truth (values key).isSome)) (some values)
  | size
      {values : String → Option Value}
      {count : Nat}
      (counted : {key | (values key).isSome}.encard = count) :
      Performs id .size (some values) (.ok (.count count)) (some values)
  | isEmpty
      {values : String → Option Value}
      {truth : Bool}
      (empty : truth = true ↔ ∀ key, values key = none) :
      Performs id .isEmpty (some values) (.ok (.truth truth)) (some values)
  | clear (contents : MapContents Value) :
      Performs id .clear contents (.ok .nothing) (some fun _ => none)
  | entries
      {values : String → Option Value}
      {listed : List (String × Value)}
      (ordered : KeyedList.IsOrdered listed)
      (all : ∀ key value, (key, value) ∈ listed ↔ values key = some value) :
      Performs id .entries (some values) (.ok (.listing listed)) (some values)
  | missing
      {call : MapCall Value}
      (attaches : call ≠ .attach)
      (clears : call ≠ .clear) :
      Performs id call none (.error (.documentNotFound id)) none
  | contendedPut
      (contents : MapContents Value)
      (key : String)
      (value : Value)
      (attempts : Nat) :
      Performs id (.put key value) contents
        (.error (.concurrentModification "put" attempts)) contents
  | contendedRemove
      (contents : MapContents Value)
      (key : String)
      (attempts : Nat) :
      Performs id (.remove key) contents
        (.error (.concurrentModification "remove" attempts)) contents

theorem Performs.eq_ok_of_attach
    {id : String}
    {contents later : MapContents Value}
    {result : Except Error (MapAnswer Value)}
    (performs : Performs id .attach contents result later) :
    result = .ok .nothing := by
  cases performs with
  | attach => rfl
  | missing attaches => exact absurd rfl attaches

end MapCall

section Values

variable {Value : Type} (codec : ValueCodec Value)

/-- The map that the fields of an object stand for. -/
def valuesOf (fields : Json.Fields) : String → Option Value :=
  fun key => (KeyedList.find? key fields).bind codec.decode

/-- An object whose fields stand in order and can all be read. -/
structure IsMapping (fields : Json.Fields) : Prop where
  ordered : KeyedList.IsOrdered fields
  readable : ∀ entry ∈ fields, (codec.decode entry.2).isSome

variable {codec}

theorem valuesOf_insert
    {encoded : Json}
    {value : Value}
    (decodes : codec.decode encoded = some value)
    (key : String)
    (fields : Json.Fields) :
    valuesOf codec (KeyedList.insert key encoded fields) =
      Function.update (valuesOf codec fields) key (some value) := by
  funext other
  rw [valuesOf, KeyedList.find?_insert]
  by_cases same : other = key
  · subst same
    simp [decodes]
  · simp [same, valuesOf]

theorem valuesOf_erase (key : String) (fields : Json.Fields) :
    valuesOf codec (KeyedList.erase key fields) =
      Function.update (valuesOf codec fields) key none := by
  funext other
  rw [valuesOf, KeyedList.find?_erase]
  by_cases same : other = key
  · subst same
    simp
  · simp [same, valuesOf]

namespace IsMapping

theorem nil : IsMapping codec [] where
  ordered := KeyedList.isOrdered_nil
  readable := by simp

theorem insert
    {fields : Json.Fields}
    (mapping : IsMapping codec fields)
    {encoded : Json}
    (readable : (codec.decode encoded).isSome)
    (key : String) :
    IsMapping codec (KeyedList.insert key encoded fields) where
  ordered := mapping.ordered.insert key encoded
  readable := by
    intro entry member
    rcases KeyedList.mem_insert member with isNew | isOld
    · rw [isNew]
      exact readable
    · exact mapping.readable entry isOld

theorem erase
    {fields : Json.Fields}
    (mapping : IsMapping codec fields)
    (key : String) : IsMapping codec (KeyedList.erase key fields) where
  ordered := mapping.ordered.erase key
  readable := by
    intro entry member
    exact mapping.readable entry (KeyedList.mem_erase.mp member).1

/-- In a map, the fields that are there are those whose values can be read. -/
theorem isSome_valuesOf
    {fields : Json.Fields}
    (mapping : IsMapping codec fields)
    (key : String) :
    (valuesOf codec fields key).isSome = KeyedList.contains key fields := by
  unfold valuesOf KeyedList.contains
  cases found : KeyedList.find? key fields with
  | none => rfl
  | some value => exact mapping.readable _ (KeyedList.mem_of_find? found)

/-- Reading a field of a map gives its value. -/
theorem decodeField_find?
    {fields : Json.Fields}
    (mapping : IsMapping codec fields)
    (key : String) :
    decodeField codec (KeyedList.find? key fields) =
      .ok (valuesOf codec fields key) := by
  unfold valuesOf
  cases found : KeyedList.find? key fields with
  | none => rfl
  | some value =>
      have readable := mapping.readable _ (KeyedList.mem_of_find? found)
      obtain ⟨decoded, decodes⟩ := Option.isSome_iff_exists.mp readable
      simp [decodeField, decodes]

/-- A map has as many entries as its object has fields. -/
theorem encard_eq_length
    {fields : Json.Fields}
    (mapping : IsMapping codec fields) :
    {key | (valuesOf codec fields key).isSome}.encard = fields.length := by
  have keysDiffer : (fields.map Prod.fst).Nodup := by
    have ordered := KeyedList.isOrdered_iff_keys.mp mapping.ordered
    exact ordered.imp fun before => ne_of_lt before
  have keys :
      {key | (valuesOf codec fields key).isSome} =
        ((fields.map Prod.fst).toFinset : Set String) := by
    ext key
    rw [Set.mem_ofPred_eq, mapping.isSome_valuesOf, KeyedList.contains,
      KeyedList.find?_isSome_iff, List.coe_toFinset, Set.mem_ofPred_eq]
  rw [keys, Set.encard_coe_eq_coe_finsetCard,
    List.toFinset_card_of_nodup keysDiffer, List.length_map]

theorem length_eq_zero_iff
    {fields : Json.Fields}
    (mapping : IsMapping codec fields) :
    fields.length = 0 ↔ ∀ key, valuesOf codec fields key = none := by
  have counted := mapping.encard_eq_length
  constructor
  · intro empty key
    rw [empty, Nat.cast_zero, Set.encard_eq_zero] at counted
    have absent := Set.eq_empty_iff_forall_notMem.mp counted key
    simpa using absent
  · intro absent
    simp only [absent, Option.isSome_none, Bool.false_eq_true,
      Set.ofPred_false, Set.encard_empty] at counted
    exact_mod_cast counted.symm

/-- Readable fields are listed under their keys, each with its value. -/
theorem decodeEntries_eq_ok
    {fields : Json.Fields}
    (readable : ∀ entry ∈ fields, (codec.decode entry.2).isSome) :
    ∃ listed,
      decodeEntries codec fields = .ok listed ∧
        listed.map Prod.fst = fields.map Prod.fst ∧
        ∀ key, KeyedList.find? key listed = valuesOf codec fields key := by
  induction fields with
  | nil => exact ⟨[], rfl, rfl, fun key => rfl⟩
  | cons field rest inductionHypothesis =>
      obtain ⟨key, value⟩ := field
      obtain ⟨decoded, decodes⟩ :=
        Option.isSome_iff_exists.mp (readable _ List.mem_cons_self)
      simp only at decodes
      obtain ⟨listed, read, sameKeys, sameValues⟩ :=
        inductionHypothesis fun entry member =>
          readable entry (List.mem_cons_of_mem _ member)
      refine ⟨(key, decoded) :: listed, ?_, ?_, ?_⟩
      · simp [decodeEntries, decodes, read]
      · simp [sameKeys]
      · intro other
        by_cases same : other = key
        · simp [valuesOf, KeyedList.find?, same, decodes]
        · have inRest := sameValues other
          simpa [valuesOf, KeyedList.find?, same] using inRest

/-- The entries of a map are listed in the order of their keys. -/
theorem decodeEntries
    {fields : Json.Fields}
    (mapping : IsMapping codec fields) :
    ∃ listed,
      decodeEntries codec fields = .ok listed ∧
        KeyedList.IsOrdered listed ∧
        ∀ key value,
          (key, value) ∈ listed ↔ valuesOf codec fields key = some value := by
  obtain ⟨listed, read, sameKeys, sameValues⟩ :=
    decodeEntries_eq_ok mapping.readable
  have ordered : KeyedList.IsOrdered listed := by
    rw [KeyedList.isOrdered_iff_keys, sameKeys,
      ← KeyedList.isOrdered_iff_keys]
    exact mapping.ordered
  refine ⟨listed, read, ordered, ?_⟩
  intro key value
  rw [← sameValues, KeyedList.find?_eq_some_iff_mem ordered]

end IsMapping

end Values

end ClusterClient.Document
