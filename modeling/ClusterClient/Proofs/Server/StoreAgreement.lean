import ClusterClient.Proofs.Server.CallAgreement

namespace ClusterClient.Server

/-!
# A document store over the wire is a document store

A client answers the calls of a document store through a server that holds the
documents. Call by call it returns what a memory store with the same documents
returns, and leaves the same documents. So no program that works on documents
can tell the two apart.
-/

open Client Document

/--
The calls of a program are admissible and the documents that they meet are
servable, when the program runs on a memory store.
-/
def StaysServable {Result : Type} :
    Program Document.interface Result → Memory → Prop
  | .done _, _ => True
  | .step (.store call) next, memory =>
      AllServable memory ∧
        IsAdmissible call ∧
        StaysServable (next (Memory.store call memory).1)
          (Memory.store call memory).2
  | .step (.pause _) next, memory => StaysServable (next ()) memory

instance decidableStaysServable {Result : Type} :
    (program : Program Document.interface Result) →
    (memory : Memory) → Decidable (StaysServable program memory)
  | .done _, _ => isTrue trivial
  | .step (.store call) next, memory =>
      have := decidableStaysServable (next (Memory.store call memory).1)
        (Memory.store call memory).2
      @instDecidableAnd _ _ inferInstance
        (@instDecidableAnd _ _ inferInstance this)
  | .step (.pause _) next, memory => decidableStaysServable (next ()) memory

section Programs

variable {client : Client} {latency : Latency} {service : Service}

/-- A store call over the wire does what it does in memory. -/
theorem run_answerStore
    {call : StoreCall}
    (prompt : Service.IsPrompt client latency)
    (quiet : service.IsQuiet)
    (servable : AllServable service.memory)
    (admissible : IsAdmissible call) :
    ∃ later : Service,
      Machine.run (Service.machine client latency) (client.answerStore call).run
          service =
        some ((Memory.store call service.memory).1, later) ∧
        later.IsQuiet ∧
        later.memory = (Memory.store call service.memory).2 := by
  have agrees : Agrees client service.memory call :=
    store_agrees admissible servable
  obtain ⟨operation, valid, clear, yields⟩ := agrees
  obtain ⟨later, executed, quietAfter, memory⟩ :=
    Service.run_execute prompt quiet clear yields.fits
  have performs := answerStore_performs client call
  rw [valid] at performs
  change (client.answerStore call).run = _ at performs
  refine ⟨later, ?_, quietAfter, memory.trans yields.memory⟩
  rw [performs, Machine.run_bind, executed, ← yields.result]
  rfl

/-- So does a program of store calls and pauses. -/
theorem run_program
    {Result : Type}
    {program : Program Document.interface Result}
    (prompt : Service.IsPrompt client latency)
    (quiet : service.IsQuiet)
    (stays : StaysServable program service.memory) :
    let inMemory :=
      TotalMachine.run (Store.toMachine Memory.store) program service.memory
    ∃ later : Service,
      Machine.run (Service.machine client latency)
          (Program.interpret client.answerStep program) service =
        some (inMemory.1, later) ∧
        later.IsQuiet ∧
        later.memory = inMemory.2 := by
  induction program generalizing service with
  | done result => exact ⟨service, rfl, quiet, rfl⟩
  | step step next inductionHypothesis =>
      cases step with
      | store call =>
          obtain ⟨servable, admissible, staysAfter⟩ := stays
          obtain ⟨middle, answered, quietMiddle, memory⟩ :=
            run_answerStore prompt quiet servable admissible
          rw [← memory] at staysAfter
          obtain ⟨later, ended, quietLater, documents⟩ :=
            inductionHypothesis _ quietMiddle staysAfter
          rw [memory] at ended documents
          refine ⟨later, ?_, quietLater, documents⟩
          refine
            (Machine.run_bind _ (client.answerStore call).run _
              service).trans ?_
          rw [answered]
          exact ended
      | pause delay =>
          have quietSlept : (service.later delay).IsQuiet := quiet
          obtain ⟨later, ended, quietLater, documents⟩ :=
            inductionHypothesis () quietSlept stays
          exact ⟨later, ended, quietLater, documents⟩

end Programs

/--
A client whose requests go to a server of documents is a document store like a
memory store. Each call with admissible arguments returns the same result,
value, version or error with its id or path, and leaves the same documents,
provided that the documents are objects within the value limit which JSON text
preserves. The responses may be handed over while the frame is being sent or at
any time before the request times out.

So a program of store calls and pauses, which may use what earlier calls
returned, ends with the same result and leaves the same documents.
-/
theorem remote_store_agrees_with_memory
    (client : Client)
    (latency : Latency)
    (prompt : Service.IsPrompt client latency) :
    (∀ (call : StoreCall) (service : Service),
      service.IsQuiet →
      AllServable service.memory →
      IsAdmissible call →
      ∃ later : Service,
        Machine.run (Service.machine client latency)
            (client.answerStore call).run service =
          some ((Memory.store call service.memory).1, later) ∧
          later.IsQuiet ∧
          later.memory = (Memory.store call service.memory).2) ∧
      ∀ (Result : Type) (program : Program Document.interface Result)
          (service : Service),
        service.IsQuiet →
        StaysServable program service.memory →
        ∃ later : Service,
          Machine.run (Service.machine client latency)
              (Program.interpret client.answerStep program) service =
            some
              ((TotalMachine.run (Store.toMachine Memory.store) program
                  service.memory).1,
                later) ∧
            later.IsQuiet ∧
            later.memory =
              (TotalMachine.run (Store.toMachine Memory.store) program
                service.memory).2 :=
  ⟨fun _ _ quiet servable admissible =>
      run_answerStore prompt quiet servable admissible,
    fun _ _ _ quiet stays => run_program prompt quiet stays⟩

/-- Make calls one after the other and keep what each of them returned. -/
def transcript :
    List StoreCall →
    Program Document.interface (List ((call : StoreCall) × call.Answer))
  | [] => .done []
  | call :: rest =>
      .step (.store call) fun answer =>
        (transcript rest).bind fun answers => .done (⟨call, answer⟩ :: answers)

/-- A service without documents and requests. -/
def Service.idle : Service := ⟨.empty, ⟨0⟩, .empty, none⟩

/-- Frames of even length are answered at once, others after a while. -/
def alternating : Latency := fun frame =>
  if frame.length % 2 = 0 then none else some (.ofMilliseconds 3)

theorem alternating_isPrompt (channel : Wire.Channel) :
    Service.IsPrompt (.ofSettings channel .default) alternating where
  lasting := rfl
  inTime frame delay takes := by
    have short :
        (Duration.ofMilliseconds 3).nanoseconds <
          Settings.default.requestTimeout.nanoseconds := by
      decide
    unfold alternating at takes
    split at takes
    · cases takes
    · cases takes
      exact short

/-- An object with a field that has children. -/
def nested : Json := .object [("a", .array [.null, .boolean true])]

/--
Calls that create a document, write a field whose key has path syntax under the
version of the document, repeat the write under the version that is stale by
then, and ask for what is there and for what is not.
-/
def session : List StoreCall :=
  [.insert "doc" nested, .insert "doc" nested,
    .upsertField "doc" (pathOfKey "b.c") (.text "x") 1,
    .upsertField "doc" "a" .null 1, .lookupField "doc" (pathOfKey "b.c"),
    .fieldCount "doc" "", .fieldCount "doc" "a", .removeField "doc" "z" 2,
    .get "gone"]

/-- What a session returns over the wire, and the document that it leaves. -/
theorem remote_store_agrees_with_memory_session :
    let client := Client.ofSettings ⟨false, true, "default"⟩ .default
    ∃ later : Service,
      Machine.run (Service.machine client alternating)
          (Program.interpret client.answerStep (transcript session)) .idle =
        some
          ([⟨.insert "doc" nested, .ok (1 : Wire.Cas)⟩,
            ⟨.insert "doc" nested, .error (.documentExists "doc")⟩,
            ⟨.upsertField "doc" (pathOfKey "b.c") (.text "x") 1,
              .ok (2 : Wire.Cas)⟩,
            ⟨.upsertField "doc" "a" .null 1, .error (.casMismatch "doc")⟩,
            ⟨.lookupField "doc" (pathOfKey "b.c"),
              .ok (⟨some (.text "x"), 2⟩ :
                Optimistic.Versioned (Option Json))⟩,
            ⟨.fieldCount "doc" "", .ok (2 : Nat)⟩,
            ⟨.fieldCount "doc" "a", .ok (2 : Nat)⟩,
            ⟨.removeField "doc" "z" 2, .error (.pathNotFound "z")⟩,
            ⟨.get "gone", .error (.documentNotFound "gone")⟩],
            later) ∧
        later.memory =
          ⟨[("doc",
            ⟨.object [("a", .array [.null, .boolean true]),
              ("b.c", .text "x")], 2⟩)], 3⟩ := by
  intro client
  have stays : StaysServable (transcript session) Memory.empty := by
    decide +kernel
  obtain ⟨-, programs⟩ :=
    remote_store_agrees_with_memory client alternating (alternating_isPrompt _)
  obtain ⟨later, ended, -, memory⟩ :=
    programs _ (transcript session) .idle rfl stays
  exact ⟨later, ended, memory⟩

end ClusterClient.Server
