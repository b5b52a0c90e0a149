import ClusterClient.Proofs.Document.Versions
import Mathlib.Logic.Relation

namespace ClusterClient.Document

/-!
# A ledger of versions

A version is held by the document that carries it, or by a replacement that has
taken it and not yet put its document in place. A step issues the next version
to one holder, drops the version of one holder, or hands the version of a
replacement over to a document.

Such steps keep a ledger sound: nobody shares a version, and all versions are
below the counter. A version that nobody holds any more is retired, and retired
versions are not issued again for as long as the counter does not wrap.
-/

/-- Who may hold a version: a document, or a replacement under way. -/
inductive Holder (Thread : Type) where
  | document (id : String)
  | replacement (thread : Thread)
  deriving Repr, DecidableEq

/-- The versions that are held, and the next version. -/
structure Ledger (Thread : Type) where
  versions : Holder Thread → Option Wire.Cas
  counter : Wire.Cas

namespace Ledger

variable {Thread : Type} {ledger later : Ledger Thread} {cas : Wire.Cas}

/-- What a step may do to a ledger. -/
inductive Step (ledger later : Ledger Thread) : Prop where
  | keeps
      (versions : ∀ holder, later.versions holder = ledger.versions holder)
      (counter : later.counter = ledger.counter)
  | issues
      (target : Holder Thread)
      (issued : later.versions target = some ledger.counter)
      (others : ∀ holder,
        holder ≠ target → later.versions holder = ledger.versions holder)
      (counter : later.counter = ledger.counter + 1)
  | drops
      (target : Holder Thread)
      (dropped : later.versions target = none)
      (others : ∀ holder,
        holder ≠ target → later.versions holder = ledger.versions holder)
      (counter : later.counter = ledger.counter)
  | hands
      (thread : Thread)
      (id : String)
      {cas : Wire.Cas}
      (pending : ledger.versions (.replacement thread) = some cas)
      (handed : later.versions (.replacement thread) = none)
      (placed : later.versions (.document id) = some cas)
      (others : ∀ holder,
        holder ≠ .replacement thread →
        holder ≠ .document id →
        later.versions holder = ledger.versions holder)
      (counter : later.counter = ledger.counter)

/-- Held versions are above zero, below the counter, and held only once. -/
structure IsSound (ledger : Ledger Thread) : Prop where
  counterPositive : 0 < ledger.counter
  positive : ∀ {holder cas}, ledger.versions holder = some cas → 0 < cas
  below : ∀ {holder cas},
    ledger.versions holder = some cas → cas < ledger.counter
  once : ∀ {holder other cas},
    ledger.versions holder = some cas →
    ledger.versions other = some cas → holder = other

/-- A version that was issued and that nobody holds any more. -/
structure IsRetired (ledger : Ledger Thread) (cas : Wire.Cas) : Prop where
  below : cas < ledger.counter
  unheld : ∀ holder, ledger.versions holder ≠ some cas

/--
A holder held its version before, or it has it from a replacement, or the
version has just been issued.
-/
theorem Step.origin
    (step : ledger.Step later)
    {holder : Holder Thread}
    (held : later.versions holder = some cas) :
    ledger.versions holder = some cas ∨
      (∃ thread, ledger.versions (.replacement thread) = some cas) ∨
      (cas = ledger.counter ∧ later.counter = ledger.counter + 1) := by
  cases step with
  | keeps versions counter =>
      rw [versions] at held
      exact .inl held
  | issues target issued others counter =>
      by_cases own : holder = target
      · rw [own, issued] at held
        exact .inr (.inr ⟨(Option.some.inj held).symm, counter⟩)
      · rw [others holder own] at held
        exact .inl held
  | drops target dropped others counter =>
      by_cases own : holder = target
      · rw [own, dropped] at held
        cases held
      · rw [others holder own] at held
        exact .inl held
  | hands thread id pending handed placed others counter =>
      by_cases isSource : holder = .replacement thread
      · rw [isSource, handed] at held
        cases held
      · by_cases isTarget : holder = .document id
        · rw [isTarget, placed] at held
          cases held
          exact .inr (.inl ⟨thread, pending⟩)
        · rw [others holder isSource isTarget] at held
          exact .inl held

/-- A held version was held before, or it has just been issued. -/
theorem Step.held_before_or_issued
    (step : ledger.Step later)
    {holder : Holder Thread}
    (held : later.versions holder = some cas) :
    (∃ source, ledger.versions source = some cas) ∨
      (cas = ledger.counter ∧ later.counter = ledger.counter + 1) := by
  rcases step.origin held with before | ⟨thread, before⟩ | issued
  · exact .inl ⟨holder, before⟩
  · exact .inl ⟨.replacement thread, before⟩
  · exact .inr issued

/-- A counter that has not gone back has not wrapped. -/
theorem lt_add_one_of_le {counter : Wire.Cas} (forward : counter ≤ counter + 1) :
    counter < counter + 1 := by
  grind

/-- In a sound ledger nobody holds the next version yet. -/
theorem IsSound.versions_ne_counter
    (sound : ledger.IsSound)
    (holder : Holder Thread) :
    ledger.versions holder ≠ some ledger.counter := by
  intro held
  exact absurd (sound.below held) Std.lt_irrefl

/-- After a step of a sound ledger, still nobody shares a version. -/
theorem IsSound.once_of_step
    (sound : ledger.IsSound)
    (step : ledger.Step later)
    {holder other : Holder Thread}
    (held : later.versions holder = some cas)
    (again : later.versions other = some cas) : holder = other := by
  cases step with
  | keeps versions counter =>
      rw [versions] at held again
      exact sound.once held again
  | issues target issued others counter =>
      by_cases own : holder = target
      · by_cases otherOwn : other = target
        · exact own.trans otherOwn.symm
        · rw [own, issued] at held
          rw [others other otherOwn, ← held] at again
          exact absurd again (sound.versions_ne_counter other)
      · rw [others holder own] at held
        by_cases otherOwn : other = target
        · rw [otherOwn, issued] at again
          rw [← again] at held
          exact absurd held (sound.versions_ne_counter holder)
        · rw [others other otherOwn] at again
          exact sound.once held again
  | drops target dropped others counter =>
      have kept : ∀ {one}, later.versions one = some cas → one ≠ target := by
        rintro one there rfl
        rw [dropped] at there
        cases there
      rw [others holder (kept held)] at held
      rw [others other (kept again)] at again
      exact sound.once held again
  | hands thread id pending handed placed others counter =>
      -- The version of the document comes from the replacement, and every other
      -- one was held by its holder before.
      have source : ∀ {one},
          later.versions one = some cas →
          (one = .document id ∧
              ledger.versions (.replacement thread) = some cas) ∨
            (one ≠ .replacement thread ∧ one ≠ .document id ∧
              ledger.versions one = some cas) := by
        intro one there
        by_cases isTarget : one = .document id
        · rw [isTarget, placed] at there
          exact .inl ⟨isTarget, pending.trans there⟩
        · have isSource : one ≠ .replacement thread := by
            rintro rfl
            rw [handed] at there
            cases there
          rw [others one isSource isTarget] at there
          exact .inr ⟨isSource, isTarget, there⟩
      rcases source held with ⟨isTarget, before⟩ | ⟨isSource, -, before⟩
      · rcases source again with ⟨otherIsTarget, -⟩ | ⟨otherIsSource, -, same⟩
        · exact isTarget.trans otherIsTarget.symm
        · exact absurd (sound.once same before) otherIsSource
      · rcases source again with ⟨-, same⟩ | ⟨-, -, same⟩
        · exact absurd (sound.once before same) isSource
        · exact sound.once before same

/-- A step that does not wrap the counter keeps a ledger sound. -/
theorem IsSound.step
    (sound : ledger.IsSound)
    (step : ledger.Step later)
    (forward : ledger.counter ≤ later.counter) : later.IsSound where
  counterPositive := Std.lt_of_lt_of_le sound.counterPositive forward
  positive := by
    intro holder cas held
    rcases step.held_before_or_issued held with ⟨source, before⟩ | ⟨isNew, -⟩
    · exact sound.positive before
    · rw [isNew]
      exact sound.counterPositive
  below := by
    intro holder cas held
    rcases step.held_before_or_issued held with ⟨source, before⟩ | ⟨isNew, counter⟩
    · exact Std.lt_of_lt_of_le (sound.below before) forward
    · rw [counter] at forward ⊢
      rw [isNew]
      exact lt_add_one_of_le forward
  once := sound.once_of_step step

/-- A retired version stays retired. -/
theorem IsRetired.step
    (retired : ledger.IsRetired cas)
    (step : ledger.Step later)
    (forward : ledger.counter ≤ later.counter) : later.IsRetired cas where
  below := Std.lt_of_lt_of_le retired.below forward
  unheld := by
    intro holder held
    rcases step.held_before_or_issued held with ⟨source, before⟩ | ⟨isNew, -⟩
    · exact retired.unheld source before
    · have below := retired.below
      rw [isNew] at below
      exact absurd below Std.lt_irrefl

/-- A document keeps its version, or the version is retired. -/
theorem IsSound.keeps_or_retires
    (sound : ledger.IsSound)
    (step : ledger.Step later)
    (forward : ledger.counter ≤ later.counter)
    {id : String}
    (held : ledger.versions (.document id) = some cas) :
    later.versions (.document id) = some cas ∨ later.IsRetired cas := by
  by_cases keeps : later.versions (.document id) = some cas
  · exact .inl keeps
  · refine .inr ⟨Std.lt_of_lt_of_le (sound.below held) forward, ?_⟩
    intro holder isHeld
    rcases step.origin isHeld with before | ⟨thread, before⟩ | ⟨isNew, -⟩
    · rw [sound.once before held] at isHeld
      exact keeps isHeld
    · cases sound.once before held
    · rw [isNew] at held
      exact sound.versions_ne_counter _ held

/-- A step that does not wrap the counter. -/
def Advance (ledger later : Ledger Thread) : Prop :=
  ledger.Step later ∧ ledger.counter ≤ later.counter

/-- A step takes at most the next version. -/
theorem Step.counter (step : ledger.Step later) :
    later.counter = ledger.counter ∨ later.counter = ledger.counter + 1 := by
  cases step with
  | issues target issued others counter => exact .inr counter
  | keeps _ counter | drops _ _ _ counter | hands _ _ _ _ _ _ counter =>
      exact .inl counter

/-- Steps that do not wrap the counter. -/
abbrev Advances : Ledger Thread → Ledger Thread → Prop :=
  Relation.ReflTransGen Advance

theorem IsSound.advances
    (sound : ledger.IsSound)
    (advances : ledger.Advances later) : later.IsSound := by
  induction advances with
  | refl => exact sound
  | tail _ step inductionHypothesis =>
      exact inductionHypothesis.step step.1 step.2

theorem IsRetired.advances
    (retired : ledger.IsRetired cas)
    (advances : ledger.Advances later) : later.IsRetired cas := by
  induction advances with
  | refl => exact retired
  | tail _ step inductionHypothesis =>
      exact inductionHypothesis.step step.1 step.2

/-- Over any steps, a document keeps its version, or the version is retired. -/
theorem IsSound.keeps_or_retires_advances
    (sound : ledger.IsSound)
    (advances : ledger.Advances later)
    {id : String}
    (held : ledger.versions (.document id) = some cas) :
    later.versions (.document id) = some cas ∨ later.IsRetired cas := by
  induction advances with
  | refl => exact .inl held
  | tail earlier step inductionHypothesis =>
      rcases inductionHypothesis with keeps | retired
      · exact (sound.advances earlier).keeps_or_retires step.1 step.2 keeps
      · exact .inr (retired.step step.1 step.2)

end Ledger

end ClusterClient.Document
