import ClusterClient.Error
import ClusterClient.Wire.Response

namespace ClusterClient.Client

/-!
# What a response means to its request

A decoded response either answers its request or turns into the error that the
caller sees. Multi-path lookups with failing paths are answers, since their
results carry a status for each path; a failed multi-path mutation is an error
about the path that failed.
-/

/-- The error of one path. -/
def pathError
    (status : Wire.Status)
    (path : String)
    (context : Option String) : Error :=
  match status with
  | .subdocPathNotFound => .pathNotFound path
  | .subdocPathExists => .pathExists path
  | .subdocPathMismatch => .pathMismatch path
  | other => .status other context

/-- The path of the spec with a given index; empty if there is none. -/
def mutatedPath (operation : Wire.Operation) (index : Nat) : String :=
  match operation with
  | .mutateIn _ specs _ _ =>
      match specs.specs[index]? with
      | some spec => spec.path
      | none => ""
  | _ => ""

/-- The error that an unsuccessful response stands for. -/
def errorOfResponse
    (operation : Wire.Operation)
    (response : Wire.Response) : Error :=
  match response.status with
  | .notFound => .documentNotFound operation.key.id
  | .alreadyExists =>
      if operation.cas ≠ Wire.anyVersion then
        .casMismatch operation.key.id
      else
        .documentExists operation.key.id
  | status =>
      match response.body with
      | .mutationFailed index pathStatus =>
          pathError pathStatus (mutatedPath operation index.toNat)
            response.serverText
      | _ => .status status response.serverText

/-- The operation looks up paths. -/
def isLookup : Wire.Operation → Bool
  | .lookupIn .. => true
  | _ => false

/-- The response answers its request. -/
def isAnswer (operation : Wire.Operation) (response : Wire.Response) : Bool :=
  response.status.isSuccess ||
    (isLookup operation && response.status.isMultiPathFailure)

/-- The outcome that a response frame gives to the request for an operation. -/
def verdict
    (operation : Wire.Operation)
    (frame : Bytes)
    (channel : Wire.Channel) : Except Error Wire.Response :=
  match Wire.Response.decode operation frame channel with
  | .error fault => .error (.protocol fault)
  | .ok response =>
      if isAnswer operation response then
        .ok response
      else
        .error (errorOfResponse operation response)

end ClusterClient.Client
