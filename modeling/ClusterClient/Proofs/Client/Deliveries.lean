import ClusterClient.Proofs.Client.Verdicts
import ClusterClient.Proofs.KeyOrder
import Mathlib.Data.List.Nodup

namespace ClusterClient.Client

/-!
# Frames in either order

Handling a frame takes the entry under its number out of the table and completes
the request of this entry. Frames with different numbers meet different entries,
and then different requests, so it does not matter which of them comes first. A
frame that comes again finds no entry any more, so nothing happens.
-/

namespace Traffic

variable {client : Client} {bytes first second : Bytes}
variable {number other : UInt32} {traffic : Traffic}

theorem take_comm :
    (traffic.take number).take other = (traffic.take other).take number := by
  simp only [take, KeyedList.erase_comm number other]

/-- Completing a request does not look at the table. -/
theorem take_completeFor (waiting? : Option Pending) :
    (traffic.completeFor client bytes waiting?).take number =
      (traffic.take number).completeFor client bytes waiting? := by
  cases waiting? with
  | none => rfl
  | some entry => simp only [completeFor, complete_eq, take]

theorem table_completeFor (waiting? : Option Pending) :
    (traffic.completeFor client bytes waiting?).table = traffic.table := by
  cases waiting? with
  | none => rfl
  | some entry => exact table_complete ..

/-- The requests of two entries may be completed in either order. -/
theorem completeFor_comm
    {waiting? otherWaiting? : Option Pending}
    (apart : ∀ entry ∈ waiting?, ∀ otherEntry ∈ otherWaiting?,
      entry.request ≠ otherEntry.request) :
    (traffic.completeFor client first waiting?).completeFor client second
        otherWaiting? =
      (traffic.completeFor client second otherWaiting?).completeFor client first
        waiting? := by
  cases waiting? with
  | none => rfl
  | some entry =>
      cases otherWaiting? with
      | none => rfl
      | some otherEntry =>
          exact complete_comm traffic (apart entry rfl otherEntry rfl) _ _

/-- A frame takes the entry under its number out of the table. -/
theorem table_answer :
    (traffic.answer client bytes number).2.table =
      KeyedList.erase number traffic.table :=
  table_completeFor _

/-- A frame that no entry waits for changes nothing. -/
theorem answer_of_none
    (missing : KeyedList.find? number traffic.table = none) :
    traffic.answer client bytes number = (.ok (), traffic) := by
  have same : traffic.take number = traffic := by
    rw [take, KeyedList.erase_of_absent (KeyedList.find?_eq_none_iff.mp missing)]
  rw [answer, missing, same]
  rfl

/-- A frame leaves the entries under other numbers where they are. -/
theorem find?_answer (differs : other ≠ number) :
    KeyedList.find? other (traffic.answer client bytes number).2.table =
      KeyedList.find? other traffic.table := by
  rw [table_answer, KeyedList.find?_erase, if_neg differs]

/-- A second frame for the same number finds nobody who waits. -/
theorem answer_answer :
    (traffic.answer client first number).2.answer client second number =
      (.ok (), (traffic.answer client first number).2) := by
  apply answer_of_none
  rw [table_answer, KeyedList.find?_erase, if_pos rfl]

/-- Frames for different numbers and requests may be handled in either order. -/
theorem answer_comm
    (differs : number ≠ other)
    (apart : ∀ entry ∈ KeyedList.find? number traffic.table,
      ∀ otherEntry ∈ KeyedList.find? other traffic.table,
        entry.request ≠ otherEntry.request) :
    ((traffic.answer client first number).2.answer client second other).2 =
      ((traffic.answer client second other).2.answer client first number).2 := by
  let waiting? := KeyedList.find? number traffic.table
  let otherWaiting? := KeyedList.find? other traffic.table
  have handles (earlier later : Bytes) {number other : UInt32}
      (differs : other ≠ number) :
      ((traffic.answer client earlier number).2.answer client later other).2 =
        (((traffic.take number).take other).completeFor client earlier
            (KeyedList.find? number traffic.table)).completeFor client later
          (KeyedList.find? other traffic.table) := by
    rw [answer, find?_answer differs, answer, take_completeFor]
  calc
    _ = (((traffic.take number).take other).completeFor client first
            waiting?).completeFor client second otherWaiting? :=
        handles first second differs.symm
    _ = (((traffic.take other).take number).completeFor client second
            otherWaiting?).completeFor client first waiting? := by
        rw [take_comm, completeFor_comm apart]
    _ = _ := (handles second first differs).symm

/-- Different entries of a table with one entry to a request are apart. -/
theorem apart_of_nodup
    (once : (traffic.table.map (·.2.request)).Nodup)
    (differs : number ≠ other) :
    ∀ entry ∈ KeyedList.find? number traffic.table,
      ∀ otherEntry ∈ KeyedList.find? other traffic.table,
        entry.request ≠ otherEntry.request := by
  intro entry found otherEntry foundOther same
  have sameEntry :=
    List.inj_on_of_nodup_map once (KeyedList.mem_of_find? found)
      (KeyedList.mem_of_find? foundOther) same
  exact differs (congrArg Prod.fst sameEntry)

/-- What is told about a frame does not depend on frames for other numbers. -/
theorem report_answer (differs : number ≠ other) :
    ((traffic.answer client second other).2.answer client first number).1 =
      (traffic.answer client first number).1 := by
  change
    reportFor client first
        (KeyedList.find? number (traffic.answer client second other).2.table) =
      _
  rw [find?_answer differs]
  rfl

end Traffic

/--
Responses commute, and duplicates are harmless. Consider two frames that do not
carry the same number, decodable or not, and a table with one entry to a
request. Handling them in either order leads to the same table and the same
requests, and the report about each frame is the same too. A frame that comes a
second time changes nothing in any table; it is reported again if it has no
proper header.
-/
theorem responses_commute (client : Client) (traffic : Traffic) :
    let handle (frame : Bytes) (traffic : Traffic) :=
      TotalMachine.run Traffic.machine (client.receive frame) traffic
    ((traffic.table.map (·.2.request)).Nodup →
      ∀ first second : Bytes,
        (∀ header other,
          Wire.Header.parse first = .ok header →
          Wire.Header.parse second = .ok other →
          header.correlation ≠ other.correlation) →
        (handle second (handle first traffic).2).2 =
            (handle first (handle second traffic).2).2 ∧
          (handle first (handle second traffic).2).1 =
            (handle first traffic).1 ∧
          (handle second (handle first traffic).2).1 =
            (handle second traffic).1) ∧
      ∀ frame : Bytes,
        (∀ fault,
          Wire.Header.parse frame = .error fault →
          handle frame traffic = (.error (.protocol fault), traffic) ∧
            handle frame (handle frame traffic).2 =
              (.error (.protocol fault), (handle frame traffic).2)) ∧
          ∀ header,
            Wire.Header.parse frame = .ok header →
            handle frame (handle frame traffic).2 =
              (.ok (), (handle frame traffic).2) := by
  intro handle
  have faulty : ∀ {frame : Bytes} {fault : Wire.ProtocolFault},
      Wire.Header.parse frame = .error fault →
      ∀ traffic, handle frame traffic = (.error (.protocol fault), traffic) :=
    run_receive_of_fault
  have headed : ∀ {frame : Bytes} {header : Wire.Header},
      Wire.Header.parse frame = .ok header →
      ∀ traffic,
        handle frame traffic = traffic.answer client frame header.correlation :=
    run_receive_of_header
  constructor
  · intro once first second differ
    cases parsed : Wire.Header.parse first with
    | error fault => simp only [faulty parsed, and_self]
    | ok header =>
        cases parsedOther : Wire.Header.parse second with
        | error fault => simp only [faulty parsedOther, and_self]
        | ok other =>
            have differs := differ header other parsed parsedOther
            simp only [headed parsed, headed parsedOther]
            exact
              ⟨Traffic.answer_comm differs (Traffic.apart_of_nodup once differs),
                Traffic.report_answer differs,
                Traffic.report_answer differs.symm⟩
  · intro frame
    constructor
    · intro fault parsed
      simp only [faulty parsed, and_self]
    · intro header parsed
      simp only [headed parsed]
      exact Traffic.answer_answer

/-- Two reads wait for their responses. -/
def twoReads : Traffic where
  nextCorrelation := 3
  table :=
    [(1, ⟨.get ⟨"left", .default, 0, by decide, by decide⟩, 0⟩),
      (2, ⟨.get ⟨"right", .default, 0, by decide, by decide⟩, 1⟩)]
  requests :=
    [⟨.ofMilliseconds 2500, ⟨0⟩, ⟨1, "get", some "left"⟩, .incomplete, none,
        .empty⟩,
      ⟨.ofMilliseconds 2500, ⟨0⟩, ⟨2, "get", some "right"⟩, .incomplete, none,
        .empty⟩]
  identities := ⟨3⟩

/-- A response with a command and a number, without a body. -/
def bareResponse (command number : UInt8) : Bytes :=
  [0x81, command, 0, 0, 0, 0, 0, 0, 0, 0, 0, 0, 0, 0, 0, number, 0, 0, 0, 0, 0,
    0, 0, 0]

/-- A response and a frame that cannot be decoded come in either order. -/
theorem responses_commute_two_reads :
    let client : Client := ofSettings (.ofBucket "default") .default
    let handle (frame : Bytes) (traffic : Traffic) :=
      (TotalMachine.run Traffic.machine (client.receive frame) traffic).2
    let response := bareResponse 0x00 1
    let undecodable := bareResponse 0x01 2
    let final := handle undecodable (handle response twoReads)
    final = handle response (handle undecodable twoReads) ∧
      final.table = [] ∧
      final.requests.map Request.status = [.succeeded, .failed] := by
  intro client handle response undecodable final
  have differ : ∀ header other,
      Wire.Header.parse response = .ok header →
      Wire.Header.parse undecodable = .ok other →
      header.correlation ≠ other.correlation := by
    intro header other parsed parsedOther
    rw [← Except.ok.inj parsed, ← Except.ok.inj parsedOther]
    decide
  have commutes :=
    ((responses_commute client twoReads).1 (by decide) response undecodable
      differ).1
  exact ⟨commutes, by decide, by decide⟩

end ClusterClient.Client
