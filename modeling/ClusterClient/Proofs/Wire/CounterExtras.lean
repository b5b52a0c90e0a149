import ClusterClient.Proofs.Wire.RequestFrames

namespace ClusterClient.Wire

/-!
# Whether a counter is to be created

The extras of a counter have no field that says whether to create it. One expiry
says it instead, and that expiry is accepted with an initial value like any
other. So a server understands every counter as it was meant, but for the ones
that were to be created with this very expiry: those it does not create.
-/

/-- What a server does with a counter that it does not have. -/
inductive IfMissing where
  | fail
  | create (initial : UInt64) (expiry : UInt32)
  deriving Repr, DecidableEq

/-- A change to a counter, as a server carries it out. -/
structure CounterOrder where
  delta : UInt64
  ifMissing : IfMissing
  deriving Repr, DecidableEq

/-- What a server reads in the extras of a counter. -/
def CounterOrder.ofExtras (extras : Bytes) : CounterOrder where
  delta := UInt64.ofNat (numberAt extras 0 8)
  ifMissing :=
    let expiry := UInt32.ofNat (numberAt extras 16 4)
    if expiry = doNotCreateExpiry then
      .fail
    else
      .create (UInt64.ofNat (numberAt extras 8 8)) expiry

namespace CounterChange

/-- What the caller means to happen if the counter does not exist. -/
def ifMissing (counter : CounterChange) : IfMissing :=
  match counter.initial with
  | none => .fail
  | some initial => .create initial counter.expiry

/-- A signed word is below the limit of a counter unless it is negative. -/
theorem toUInt64_lt_counterLimit_iff (word : Int64) :
    word.toUInt64.toNat < counterLimit ↔ 0 ≤ word.toInt := by
  have positive : 0 ≤ word.toInt ↔ 2 * word.toUInt64.toNat < 2 ^ 64 :=
    BitVec.toInt_pos_iff
  rw [positive, counterLimit]
  omega

/-- A word that is not negative is the same number without its sign. -/
theorem toNat_toUInt64 {word : Int64} (positive : 0 ≤ word.toInt) :
    (word.toUInt64.toNat : Int) = word.toInt := by
  have small : 2 * word.toUInt64.toNat < 2 ^ 64 :=
    BitVec.toInt_pos_iff.mp positive
  exact (BitVec.toInt_eq_toNat_of_lt small).symm

/-- Just the words that are not negative are accepted, with any expiry. -/
theorem ofSigned_eq_ok_iff
    {delta : Int64}
    {initial : Option Int64}
    {expiry : UInt32}
    {counter : CounterChange} :
    ofSigned delta initial expiry = .ok counter ↔
      (0 ≤ delta.toInt ∧ ∀ value ∈ initial, 0 ≤ value.toInt) ∧
        counter.delta = delta.toUInt64 ∧
        counter.initial = initial.map Int64.toUInt64 ∧
        counter.expiry = expiry := by
  obtain ⟨wireDelta, wireInitial, wireExpiry, _, _⟩ := counter
  unfold ofSigned
  by_cases deltaSmall : delta.toUInt64.toNat < counterLimit
  · have deltaPositive := (toUInt64_lt_counterLimit_iff delta).mp deltaSmall
    cases initial with
    | none =>
        simp [deltaSmall, deltaPositive, eq_comm]
    | some value =>
        by_cases valueSmall : value.toUInt64.toNat < counterLimit
        · have valuePositive := (toUInt64_lt_counterLimit_iff value).mp valueSmall
          simp [deltaSmall, deltaPositive, valueSmall, valuePositive, eq_comm]
        · have negative : ¬ 0 ≤ value.toInt :=
            mt (toUInt64_lt_counterLimit_iff value).mpr valueSmall
          simp [deltaSmall, valueSmall, negative]
  · have negative : ¬ 0 ≤ delta.toInt :=
      mt (toUInt64_lt_counterLimit_iff delta).mpr deltaSmall
    simp [deltaSmall, negative]

/-- There is a counter for any words that are not negative, and for no others. -/
theorem exists_ofSigned_iff
    {delta : Int64}
    {initial : Option Int64}
    {expiry : UInt32} :
    (∃ counter, ofSigned delta initial expiry = .ok counter) ↔
      0 ≤ delta.toInt ∧ ∀ value ∈ initial, 0 ≤ value.toInt := by
  constructor
  · rintro ⟨counter, accepted⟩
    exact (ofSigned_eq_ok_iff.mp accepted).1
  · intro positive
    have deltaSmall := (toUInt64_lt_counterLimit_iff delta).mpr positive.1
    have initialSmall : ∀ word, initial.map Int64.toUInt64 = some word →
        word.toNat < counterLimit := by
      intro word given
      obtain ⟨value, isInitial, rfl⟩ := Option.map_eq_some_iff.mp given
      exact (toUInt64_lt_counterLimit_iff value).mpr (positive.2 value isInitial)
    let counter : CounterChange :=
      ⟨delta.toUInt64, initial.map Int64.toUInt64, expiry, deltaSmall,
        initialSmall⟩
    exact ⟨counter, ofSigned_eq_ok_iff.mpr ⟨positive, rfl, rfl, rfl⟩⟩

/-- A server reads the delta of every counter. -/
theorem delta_ofExtras (counter : CounterChange) :
    (CounterOrder.ofExtras counter.extras).delta = counter.delta := by
  obtain ⟨-, delta, -⟩ := counter.hasExtras_extras
  simp only [CounterOrder.ofExtras, delta, UInt64.ofNat_toNat]

/--
A server does what the caller means to happen to a counter that is missing, but
for the expiry that forbids to create it.
-/
theorem ifMissing_ofExtras (counter : CounterChange) :
    (CounterOrder.ofExtras counter.extras).ifMissing =
      if counter.expiry = doNotCreateExpiry then .fail else counter.ifMissing := by
  obtain ⟨-, -, created⟩ := counter.hasExtras_extras
  cases initial : counter.initial with
  | none =>
      rw [initial] at created
      simp [CounterOrder.ofExtras, ifMissing, initial, created]
  | some value =>
      rw [initial] at created
      simp only [CounterOrder.ofExtras, ifMissing, initial, created,
        UInt64.ofNat_toNat, UInt32.ofNat_toNat]

/--
Whether a counter is to be created. A change is accepted when neither its delta
nor its initial value is negative, whatever its expiry. From its extras a server
reads the delta and, with an initial value, this value and the expiry; without
one, that the counter is not to be created. Only with the expiry that says so
itself is a counter not created although it has an initial value.
-/
theorem created_unless_expiry_forbids
    (delta : Int64)
    (initial : Option Int64)
    (expiry : UInt32) :
    ((∃ counter, ofSigned delta initial expiry = .ok counter) ↔
        0 ≤ delta.toInt ∧ ∀ value ∈ initial, 0 ≤ value.toInt) ∧
      ∀ counter, ofSigned delta initial expiry = .ok counter →
        let order := CounterOrder.ofExtras counter.extras
        (order.delta.toNat : Int) = delta.toInt ∧
          (initial = none → order.ifMissing = .fail) ∧
          ∀ value, initial = some value →
            if expiry = doNotCreateExpiry then
              order.ifMissing = .fail
            else
              ∃ created,
                order.ifMissing = .create created expiry ∧
                  (created.toNat : Int) = value.toInt := by
  refine ⟨exists_ofSigned_iff, ?_⟩
  intro counter accepted order
  obtain ⟨⟨deltaPositive, initialPositive⟩, isDelta, isInitial, isExpiry⟩ :=
    ofSigned_eq_ok_iff.mp accepted
  have reads :
      order.ifMissing =
        if expiry = doNotCreateExpiry then .fail else counter.ifMissing := by
    rw [← isExpiry]
    exact ifMissing_ofExtras counter
  refine ⟨?_, ?_, ?_⟩
  · rw [show order.delta = counter.delta from delta_ofExtras counter, isDelta]
    exact toNat_toUInt64 deltaPositive
  · rintro rfl
    have never : counter.ifMissing = .fail := by
      simp [ifMissing, isInitial]
    rw [reads, never, ite_self]
  · rintro value rfl
    have creates : counter.ifMissing = .create value.toUInt64 expiry := by
      simp [ifMissing, isInitial, isExpiry]
    split
    · rename_i forbids
      rw [reads, if_pos forbids]
    · rename_i allows
      rw [reads, if_neg allows, creates]
      exact ⟨_, rfl, toNat_toUInt64 (initialPositive value rfl)⟩

/-- A counter that starts at a hundred and expires after a minute is created. -/
theorem created_unless_expiry_forbids_minute :
    ∃ counter,
      ofSigned 3 (some 100) 60 = .ok counter ∧
        (CounterOrder.ofExtras counter.extras).ifMissing = .create 100 60 := by
  obtain ⟨accepts, orders⟩ := created_unless_expiry_forbids 3 (some 100) 60
  obtain ⟨counter, accepted⟩ :=
    accepts.mpr ⟨by decide, by simp⟩
  have creates := (orders counter accepted).2.2 100 rfl
  rw [if_neg (by decide)] at creates
  obtain ⟨created, reads, same⟩ := creates
  have isHundred : created = 100 := UInt64.toNat_inj.mp (Int.ofNat_inj.mp same)
  exact ⟨counter, accepted, by rw [reads, isHundred]⟩

/-- A counter may have an initial value and not be created from its extras. -/
theorem forbidding_expiry_hides_initial :
    ∃ counter,
      ofSigned 1 (some 5) doNotCreateExpiry = .ok counter ∧
        counter.initial = some 5 ∧
        (CounterOrder.ofExtras counter.extras).ifMissing = .fail := by
  have small : ∀ value : UInt64, some 5 = some value →
      value.toNat < counterLimit := by
    rintro value ⟨⟩
    decide
  refine ⟨⟨1, some 5, doNotCreateExpiry, by decide, small⟩, rfl, rfl, ?_⟩
  exact (ifMissing_ofExtras _).trans (if_pos rfl)

end CounterChange

end ClusterClient.Wire
