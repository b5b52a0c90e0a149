import ClusterClient.Proofs.Client.Activities
import ClusterClient.Proofs.Client.Verdicts

namespace ClusterClient.Client.Activity

/-!
# What the activities of a client have done

An issue that has returned a handle has registered the request of the handle
and sent a frame with the number that it was registered under. A receiver that
completes a request has taken its entry from the number in the header of the
frame.
-/

/--
An issue that has returned a handle has registered the request and sent its
frame.
-/
theorem follows_issued
    {client : Client}
    {operation : Wire.Operation}
    {timeout : Duration}
    {exchanges : List (Exchange interface)}
    {handle : Handle}
    (follows :
      Follows ((issue operation timeout).program client) exchanges
        (.done (.issued (.ok handle)))) :
    let routed := operation.route client.settings.partitionCount
    ∃ number,
      ⟨.table (.register number ⟨routed, handle.request⟩), ()⟩ ∈ exchanges ∧
        ⟨.send (routed.encode number client.channel), .ok ()⟩ ∈ exchanges := by
  intro routed
  rw [program_issue] at follows
  obtain ⟨context, _, rfl, afterContext⟩ := follows.of_step_done
  obtain ⟨now, _, rfl, afterClock⟩ := afterContext.of_step_done
  split at afterClock
  · cases afterClock.of_done.2
  · obtain ⟨index, _, rfl, afterOpening⟩ := afterClock.of_step_done
    obtain ⟨number, _, rfl, afterNumber⟩ := afterOpening.of_step_done
    obtain ⟨registered, _, rfl, afterRegistering⟩ := afterNumber.of_step_done
    obtain ⟨sent, _, rfl, afterSending⟩ := afterRegistering.of_step_done
    cases sent with
    | ok _ =>
        cases afterSending.of_done.2
        refine ⟨number, ?_, ?_⟩
        · exact .tail _ (.tail _ (.tail _ (.tail _ (.head _))))
        · exact .tail _ (.tail _ (.tail _ (.tail _ (.tail _ (.head _)))))
    | error error =>
        obtain ⟨taken, _, rfl, afterTaking⟩ := afterSending.of_step_done
        obtain ⟨won, _, rfl, afterCompleting⟩ := afterTaking.of_step_done
        cases afterCompleting.of_done.2

/--
An issue that is about to register its request has taken the number for it, and
has not registered anything before.
-/
theorem follows_registering
    {client : Client}
    {operation : Wire.Operation}
    {timeout : Duration}
    {exchanges : List (Exchange interface)}
    {number : UInt32}
    {entry : Pending}
    {next : Unit → Program interface Ending}
    (follows :
      Follows ((issue operation timeout).program client) exchanges
        (.step (.table (.register number entry)) next)) :
    ⟨.table .takeCorrelation, number⟩ ∈ exchanges ∧
      ∀ other otherEntry,
        ⟨.table (.register other otherEntry), ()⟩ ∉ exchanges := by
  rw [program_issue] at follows
  rcases follows.of_step with ⟨-, due⟩ | ⟨context, _, rfl, afterContext⟩
  · cases due
  rcases afterContext.of_step with ⟨-, due⟩ | ⟨now, _, rfl, afterClock⟩
  · cases due
  split at afterClock
  · cases afterClock.of_done.2
  rcases afterClock.of_step with ⟨-, due⟩ | ⟨index, _, rfl, afterOpening⟩
  · cases due
  rcases afterOpening.of_step with ⟨-, due⟩ | ⟨taken, _, rfl, afterNumber⟩
  · cases due
  rcases afterNumber.of_step with ⟨rfl, due⟩ | ⟨_, _, rfl, afterRegistering⟩
  · cases due
    refine ⟨.tail _ (.tail _ (.tail _ (.head _))), ?_⟩
    rintro other otherEntry (_ | ⟨_, _ | ⟨_, _ | ⟨_, _ | ⟨_, member⟩⟩⟩⟩)
    cases member
  rcases afterRegistering.of_step with ⟨-, due⟩ | ⟨sent, _, rfl, afterSending⟩
  · cases due
  cases sent with
  | ok _ => cases afterSending.of_done.2
  | error error =>
      rcases afterSending.of_step with ⟨-, due⟩ | ⟨_, _, rfl, afterTaking⟩
      · cases due
      rcases afterTaking.of_step with ⟨-, due⟩ | ⟨_, _, rfl, afterCompleting⟩
      · cases due
      cases afterCompleting.of_done.2

/--
A receiver that completes a request has taken its entry from the number in the
header of the frame, and completes it with what the frame makes of the operation.
-/
theorem follows_receiving
    {client : Client}
    {frame : Bytes}
    {exchanges : List (Exchange interface)}
    {request : Nat}
    {outcome : Request.Outcome Wire.Response}
    {next : Bool → Program interface Ending}
    (follows :
      Follows ((receive frame).program client) exchanges
        (.step (.table (.complete request outcome)) next)) :
    ∃ header entry,
      Wire.Header.parse frame = .ok header ∧
        entry.request = request ∧
        ⟨.table (.takeEntry header.correlation), some entry⟩ ∈ exchanges ∧
        outcome = outcomeOf (verdict entry.operation frame client.channel) := by
  change
    Follows (Program.bind (withTable (client.receive frame)) _) _ _ at follows
  unfold Client.receive at follows
  cases parsed : Wire.Header.parse frame with
  | error fault =>
      rw [parsed] at follows
      cases follows.of_done.2
  | ok header =>
      rw [parsed] at follows
      rcases follows.of_step with ⟨-, due⟩ | ⟨taken, _, rfl, afterTaking⟩
      · cases due
      cases taken with
      | none => cases afterTaking.of_done.2
      | some entry =>
          change
            Follows (Program.bind (withTable (client.settle entry frame)) _) _ _
              at afterTaking
          unfold settle at afterTaking
          cases judged : verdict entry.operation frame client.channel with
          | ok response =>
              rw [judged] at afterTaking
              rcases afterTaking.of_step with ⟨-, due⟩ | ⟨_, _, rfl, ended⟩
              · cases due
                exact ⟨header, entry, rfl, rfl, .head _, by rw [judged]; rfl⟩
              · cases ended.of_done.2
          | error error =>
              rw [judged] at afterTaking
              rcases afterTaking.of_step with ⟨-, due⟩ | ⟨_, _, rfl, ended⟩
              · cases due
                exact ⟨header, entry, rfl, rfl, .head _, by rw [judged]; rfl⟩
              · cases error <;> cases ended.of_done.2

end ClusterClient.Client.Activity
