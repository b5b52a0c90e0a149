import ClusterClient.ArgumentFault
import ClusterClient.Wire.Command

namespace ClusterClient.Wire

/-!
# Specs of multi-path operations

A multi-path operation looks up or changes several paths of one document. Each
path has a spec, and a list of specs carries the limits that it respects: how
many specs there are, how long their paths are, which of them carry a value and
how large all values are together.
-/

/-- What is looked up at a path. -/
inductive LookupKind where
  | get
  | exists
  | count
  deriving Repr, DecidableEq

/-- One path of a lookup. -/
structure LookupSpec where
  kind : LookupKind
  path : String
  deriving Repr, DecidableEq

namespace LookupSpec

/-- The path command of a lookup. -/
def command (spec : LookupSpec) : PathCommand :=
  match spec.kind with
  | .get => .get
  | .exists => .exists
  | .count => .getCount

/-- The path respects its limits; only a count may address the root. -/
def Acceptable (spec : LookupSpec) : Prop :=
  (spec.kind = .count ∨ spec.path ≠ "") ∧
    spec.path.utf8ByteSize ≤ maxPathLength

/-- Check the path of a lookup. -/
def check (spec : LookupSpec) : Except ArgumentFault (PLift spec.Acceptable) :=
  if named : spec.kind = .count ∨ spec.path ≠ "" then
    if fits : spec.path.utf8ByteSize ≤ maxPathLength then
      .ok ⟨named, fits⟩
    else
      .error (.pathTooLong spec.path.utf8ByteSize)
  else
    .error .emptyPath

end LookupSpec

/-- What is done to a path. -/
inductive MutationKind where
  | upsert
  | remove
  deriving Repr, DecidableEq

/-- One path of a mutation. -/
structure MutationSpec where
  kind : MutationKind
  path : String
  value : Bytes
  createParents : Bool
  deriving Repr, DecidableEq

namespace MutationSpec

/-- Set a path to a value. -/
def upsert (path : String) (value : Bytes) : MutationSpec :=
  ⟨.upsert, path, value, false⟩

/-- Remove a path. -/
def remove (path : String) : MutationSpec :=
  ⟨.remove, path, [], false⟩

/-- The path command of a mutation. -/
def command (spec : MutationSpec) : PathCommand :=
  match spec.kind with
  | .upsert => .dictUpsert
  | .remove => .delete

/-- The path respects its limits, and only an upsert carries a value. -/
def Acceptable (spec : MutationSpec) : Prop :=
  spec.path ≠ "" ∧
    spec.path.utf8ByteSize ≤ maxPathLength ∧
    (spec.kind = .upsert ↔ spec.value ≠ [])

/-- Check the path and the value of a mutation. -/
def check
    (spec : MutationSpec) :
    Except ArgumentFault (PLift spec.Acceptable) :=
  if named : spec.path ≠ "" then
    if fits : spec.path.utf8ByteSize ≤ maxPathLength then
      if matching : spec.kind = .upsert ↔ spec.value ≠ [] then
        .ok ⟨named, fits, matching⟩
      else
        match spec.kind with
        | .upsert => .error (.upsertWithoutValue spec.path)
        | .remove => .error (.removeWithValue spec.path)
    else
      .error (.pathTooLong spec.path.utf8ByteSize)
  else
    .error .emptyPath

end MutationSpec

/-- Check every element of a list, from the left. -/
def checkAll
    {Element : Type}
    {Acceptable : Element → Prop}
    (check : (element : Element) →
      Except ArgumentFault (PLift (Acceptable element))) :
    (elements : List Element) →
    Except ArgumentFault
      (PLift (∀ element, element ∈ elements → Acceptable element))
  | [] => .ok ⟨by simp⟩
  | element :: rest =>
      match check element with
      | .error fault => .error fault
      | .ok accepted =>
          match checkAll check rest with
          | .error fault => .error fault
          | .ok others =>
              .ok ⟨by
                intro member isMember
                rcases List.mem_cons.mp isMember with same | inRest
                · exact same ▸ accepted.down
                · exact others.down member inRest⟩

/-- The number of specs is within its limits. -/
def SpecCount (count : Nat) : Prop :=
  1 ≤ count ∧ count ≤ maxSpecs

/-- Check a number of specs. -/
def checkNumberOfSpecs
    (count : Nat) : Except ArgumentFault (PLift (SpecCount count)) :=
  if atLeastOne : 1 ≤ count then
    if few : count ≤ maxSpecs then
      .ok ⟨atLeastOne, few⟩
    else
      .error (.tooManySpecs count)
  else
    .error .noSpecs

/-- The specs of one lookup. -/
structure LookupSpecs where
  specs : List LookupSpec
  count : SpecCount specs.length
  acceptable : ∀ spec, spec ∈ specs → spec.Acceptable
  deriving Repr

/-- Check the specs of one lookup: their number, then each from the left. -/
def LookupSpecs.ofList
    (specs : List LookupSpec) : Except ArgumentFault LookupSpecs :=
  match checkNumberOfSpecs specs.length with
  | .error fault => .error fault
  | .ok count =>
      match checkAll LookupSpec.check specs with
      | .error fault => .error fault
      | .ok acceptable => .ok ⟨specs, count.down, acceptable.down⟩

/-- The bytes of all values together. -/
def totalValueLength (specs : List MutationSpec) : Nat :=
  specs.foldr (fun spec total => spec.value.length + total) 0

/-- The specs of one mutation. -/
structure MutationSpecs where
  specs : List MutationSpec
  count : SpecCount specs.length
  acceptable : ∀ spec, spec ∈ specs → spec.Acceptable
  length_le : totalValueLength specs ≤ maxValueLength
  deriving Repr

/--
Check the specs of one mutation: their number, then each from the left, then
the size of all values together.
-/
def MutationSpecs.ofList
    (specs : List MutationSpec) : Except ArgumentFault MutationSpecs :=
  match checkNumberOfSpecs specs.length with
  | .error fault => .error fault
  | .ok count =>
      match checkAll MutationSpec.check specs with
      | .error fault => .error fault
      | .ok acceptable =>
          if fits : totalValueLength specs ≤ maxValueLength then
            .ok ⟨specs, count.down, acceptable.down, fits⟩
          else
            .error (.valueTooLong (totalValueLength specs))

instance : DecidableEq LookupSpecs := fun left right =>
  decidable_of_iff (left.specs = right.specs)
    ⟨fun same => by cases left; cases right; simpa using same,
      fun same => by rw [same]⟩

instance : DecidableEq MutationSpecs := fun left right =>
  decidable_of_iff (left.specs = right.specs)
    ⟨fun same => by cases left; cases right; simpa using same,
      fun same => by rw [same]⟩

end ClusterClient.Wire
