import ClusterClient.Proofs.Document.FieldPath
import ClusterClient.Proofs.KeyOrder
import ClusterClient.Proofs.Server.Documents

namespace ClusterClient.Server

/-!
# Calls and documents that a server can take

The ids and the paths of the calls of a document store are within their limits,
and documents are objects within the value limit. Documents travel as JSON text,
so a document is asked to be read back from its text, and so is each of its
fields. All of this can be checked.
-/

open Client Document

/-! What calls and documents respect. -/

/-- An id that a document may have. -/
structure IsDocumentId (id : String) : Prop where
  named : id ≠ ""
  fits : id.utf8ByteSize ≤ maxKeyLength

/-- The path of a key that is not empty, within the path limit. -/
structure IsFieldPath (path : String) : Prop where
  isPath : ∃ key, key ≠ "" ∧ path = pathOfKey key
  fits : path.utf8ByteSize ≤ maxPathLength

/-- A value that is read back from its text. -/
def IsReadBack (value : Json) : Prop :=
  Json.parse? value.render = some value

/-- An object within the value limit, read back as a whole and by fields. -/
inductive IsServable : Json → Prop
  | object {fields : Json.Fields}
      (fits : (encodeJson (.object fields)).length ≤ maxValueLength)
      (readBack : IsReadBack (.object fields))
      (eachReadBack : ∀ field ∈ fields, IsReadBack field.2) :
      IsServable (.object fields)

namespace IsServable

variable {content : Json} {fields : Json.Fields}

theorem fits (servable : IsServable content) :
    (encodeJson content).length ≤ maxValueLength := by
  cases servable
  assumption

theorem readBack (servable : IsServable content) : IsReadBack content := by
  cases servable
  assumption

theorem exists_fields (servable : IsServable content) :
    ∃ fields, content = .object fields := by
  cases servable with
  | object => exact ⟨_, rfl⟩

theorem field
    {key : String}
    {value : Json}
    (servable : IsServable (.object fields))
    (found : KeyedList.find? key fields = some value) : IsReadBack value := by
  cases servable with
  | object _ _ eachReadBack =>
      exact eachReadBack (key, value) (KeyedList.mem_of_find? found)

end IsServable

/-- All documents are servable. -/
def AllServable (memory : Memory) : Prop :=
  ∀ entry ∈ memory.documents, IsServable entry.2.content

theorem AllServable.document
    {memory : Memory}
    {id : String}
    {document : Revision}
    (servable : AllServable memory)
    (found : memory.find? id = some document) : IsServable document.content :=
  servable (id, document) (KeyedList.mem_of_find? found)

/-- The arguments of a call are within their limits. -/
def IsAdmissible : StoreCall → Prop
  | .insert id content | .upsert id content =>
      IsDocumentId id ∧ IsServable content
  | .get id => IsDocumentId id
  | .lookupField id path | .fieldExists id path | .removeField id path _ =>
      IsDocumentId id ∧ IsFieldPath path
  | .fieldCount id path => IsDocumentId id ∧ (path = "" ∨ IsFieldPath path)
  | .upsertField id path value _ =>
      IsDocumentId id ∧ IsFieldPath path ∧ IsReadBack value ∧
        (encodeJson value).length ≤ maxValueLength

/-! What is respected can be checked. -/

instance (id : String) : Decidable (IsDocumentId id) :=
  decidable_of_iff (id ≠ "" ∧ id.utf8ByteSize ≤ maxKeyLength)
    ⟨fun valid => ⟨valid.1, valid.2⟩, fun valid => ⟨valid.named, valid.fits⟩⟩

/-- The path of a key is the one that its key is read from. -/
theorem isFieldPath_iff {path : String} :
    IsFieldPath path ↔
      (keyOfPath path).toOption.any (fun key => key ≠ "" ∧ path = pathOfKey key) ∧
        path.utf8ByteSize ≤ maxPathLength := by
  constructor
  · rintro ⟨⟨key, named, rfl⟩, fits⟩
    refine ⟨?_, fits⟩
    rw [keyOfPath_pathOfKey]
    exact decide_eq_true ⟨named, rfl⟩
  · rintro ⟨isPath, fits⟩
    obtain ⟨key, -, valid⟩ := (Option.any_eq_true ..).mp isPath
    exact ⟨⟨key, of_decide_eq_true valid⟩, fits⟩

instance (path : String) : Decidable (IsFieldPath path) :=
  decidable_of_iff _ isFieldPath_iff.symm

instance (value : Json) : Decidable (IsReadBack value) :=
  inferInstanceAs (Decidable (_ = _))

instance : (content : Json) → Decidable (IsServable content)
  | .object fields =>
      decidable_of_iff
        ((encodeJson (.object fields)).length ≤ maxValueLength ∧
          IsReadBack (.object fields) ∧
          ∀ field ∈ fields, IsReadBack field.2)
        ⟨fun ⟨fits, readBack, each⟩ => .object fits readBack each,
          fun | .object fits readBack each => ⟨fits, readBack, each⟩⟩
  | .null | .boolean _ | .whole _ | .real _ | .text _ | .array _ =>
      isFalse nofun

instance (memory : Memory) : Decidable (AllServable memory) :=
  inferInstanceAs (Decidable (∀ entry ∈ memory.documents, _))

instance : (call : StoreCall) → Decidable (IsAdmissible call)
  | .insert .. | .upsert .. | .get _ | .lookupField .. | .fieldExists ..
  | .fieldCount .. | .upsertField .. | .removeField .. => by
      unfold IsAdmissible
      infer_instance

theorem readJson?_encodeJson
    {value : Json}
    (readBack : IsReadBack value) :
    readJson? (encodeJson value) = some value := by
  rw [readJson?, encodeJson, Text.decode?_encode]
  exact readBack

/-- Only the text of no value is empty. -/
theorem encodeJson_ne_nil
    {value : Json}
    (readBack : IsReadBack value) : encodeJson value ≠ [] := by
  intro empty
  have read := readJson?_encodeJson readBack
  rw [empty] at read
  cases read

/-- The path of a key that is not empty is not empty. -/
theorem pathOfKey_ne_empty
    {key : String}
    (named : key ≠ "") : pathOfKey key ≠ "" := by
  unfold pathOfKey
  split
  · intro empty
    have characters := congrArg String.toList empty
    rw [String.toList_ofList] at characters
    cases characters
  · exact named

end ClusterClient.Server
