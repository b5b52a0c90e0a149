import ClusterClient.Client.RemoteStore

namespace ClusterClient.Scripted

/-!
# A client whose peer follows a script

The connection of the client keeps every frame and then acts out the next reply
of a script before it returns: it may refuse the frame, stay silent, hand a
response to the client, shut the client down, or let time pass for the client's
expired requests. Time passes only while the client sleeps or waits in vain.
-/

/-- The fields of a scripted response; absent ones repeat the request. -/
structure ResponseFields where
  command : Option UInt8
  datatype : UInt8
  status : Wire.Status
  correlation : Option UInt32
  cas : Wire.Cas
  sections : Wire.Sections
  deriving Repr

/-- The frame of a scripted response to a request frame. -/
def ResponseFields.frame (fields : ResponseFields) (request : Bytes) : Bytes :=
  let header := Wire.Header.ofBytes request
  Wire.responseFrame (fields.command.getD header.command) fields.datatype
    fields.status (fields.correlation.getD header.correlation) fields.cas
    fields.sections

/-- What the connection does with a frame. -/
inductive Reply where
  | refuse (text : String)
  | silence
  | shutdown
  | reap (after : Duration)
  | raw (frame : Bytes)
  | response (fields : ResponseFields)
  deriving Repr

/-- What came of a reply. -/
inductive Reaction where
  | none
  | shutdown
  | reaped (count : Nat)
  | handled (result : Except Error Unit)

/--
A client's requests, the clock, the replies that are left, and what was sent
and handled, the latest first.
-/
structure Scene where
  traffic : Client.Traffic
  clock : Instant
  isOpen : Bool
  answersAll : Bool
  replies : List Reply
  sent : List Bytes
  reactions : List Reaction

namespace Scene

/-- The start of the clock: a day after its origin. -/
def dawn : Instant := ⟨86400 * nanosecondsPerSecond⟩

/-- A connected client without requests. -/
def initial : Scene where
  traffic := .empty
  clock := dawn
  isOpen := true
  answersAll := true
  replies := []
  sent := []
  reactions := []

/-- Begin a step with its replies and nothing sent or handled. -/
def begin
    (scene : Scene)
    (replies : List Reply)
    (answersAll : Bool) : Scene :=
  { scene with
    answersAll := answersAll
    replies := replies
    sent := []
    reactions := [] }

/-- Run a program on the table of the client. -/
def runTable
    {Result : Type}
    (scene : Scene)
    (program : Program Client.tableInterface Result) : Result × Scene :=
  let (result, traffic) := TotalMachine.run Client.Traffic.machine program
    scene.traffic
  (result, { scene with traffic := traffic })

/-- An instant some time from now. -/
def later (scene : Scene) (duration : Duration) : Instant :=
  ⟨scene.clock.nanoseconds + duration.nanoseconds⟩

/-- Hand a frame to the client. -/
def deliver
    (client : Client)
    (frame : Bytes)
    (scene : Scene) : Except Error Unit × Scene :=
  scene.runTable (client.receive frame)

/-- Note what came of a reply. -/
def react (scene : Scene) (reaction : Reaction) : Scene :=
  { scene with reactions := reaction :: scene.reactions }

/-- Act out a reply to a frame. -/
def play
    (client : Client)
    (frame : Bytes)
    (reply : Reply)
    (scene : Scene) : Except Error Unit × Scene :=
  match reply with
  | .refuse text => (.error (.transport (.described text)), scene)
  | .silence => (.ok (), scene.react .none)
  | .shutdown =>
      let (_, ended) := scene.runTable Client.shutdown
      (.ok (), ended.react .shutdown)
  | .reap after =>
      let (count, reaped) :=
        scene.runTable (Client.expire (scene.later after))
      (.ok (), reaped.react (.reaped count))
  | .raw response =>
      let (result, handled) := scene.deliver client response
      (.ok (), handled.react (.handled result))
  | .response fields =>
      let (result, handled) := scene.deliver client (fields.frame frame)
      (.ok (), handled.react (.handled result))

/-- What a connection answers when its script has ended too early. -/
def exhausted : Error :=
  .transport (.described "no reply scripted")

/-- Take a frame and act out the next reply. -/
def send
    (client : Client)
    (frame : Bytes)
    (scene : Scene) : Except Error Unit × Scene :=
  if scene.isOpen then
    let sent := { scene with sent := frame :: scene.sent }
    match scene.replies with
    | reply :: rest => { sent with replies := rest }.play client frame reply
    | [] => (if scene.answersAll then .error exhausted else .ok (), sent)
  else
    (.error (.transport .outboundClosed), scene)

/-- The outcome of a request, if it has one. -/
def outcome?
    (scene : Scene)
    (request : Nat) : Option (Request.Outcome Wire.Response) :=
  scene.traffic.requests[request]?.bind fun opened => opened.slot.outcome

/--
Answer a call of the client. Waiting for an outcome that nobody will bring, and
going on beyond the allowance, are refused.
-/
def machine (client : Client) : Machine Client.interface Scene :=
  fun call scene =>
    match call with
    | .table call =>
        some (scene.runTable (Client.performTable call))
    | .readClock => some (scene.clock, scene)
    | .send frame => some (scene.send client frame)
    | .awaitUntil request limit =>
        match scene.outcome? request with
        | some outcome => some (some outcome, scene)
        | none => some (none, { scene with clock := scene.later limit })
    | .awaitForever request =>
        match scene.outcome? request with
        | some outcome => some (outcome, scene)
        | none => none
    | .sleep delay => some ((), { scene with clock := scene.later delay })
    | .allowance => some (scene.replies.length + 2, scene)
    | .never => none

/-- Run a program of the client; none if it would never return. -/
def run
    {Result : Type}
    (client : Client)
    (attempt : Client.Attempt Result)
    (scene : Scene) : Option (Except Error Result × Scene) :=
  Machine.run (machine client) attempt.run scene

end Scene

end ClusterClient.Scripted
