import Mathlib.Data.List.Sublists
import SinkAudit.Proofs.Compatibility

/-!
# The violations of a snapshot, in order

With compression the roles are visited in a fixed order, and each that is at fault posts its message
under the fields of its own and then under the compression. The violations are these posts, gathered by
field.

What is posted, and where, is spelled out here apart from the functions that `evaluate` calls: the names
of the fields (`Role.reportedNames`), the condition for each role (`Role.IsAtFault`) and the text of the
template with its four places filled in (`Role.rendered`). So the theorem ties the rules to their
specification (section 4.1) and not to themselves: a renderer of other messages, a walk in another order
or a message under another field would break it.

- `Role.IsAtFault`, `rolesAtFault`, `failingRoles_gzip`: the roles that a policy does not allow.
- `Role.rendered`, `roleMessage_gzip`: the message of a role, letter by letter.
- `Role.reportedNames`, `postsOf`: where a role posts its message, and the posts of several roles.
- `evaluate_eq_ofPosts`: the violations are the posts, appended one by one.
- `keys_evaluate`: only the first role at fault is reported before the compression.
- `evaluate_walk`: the violations, the messages under the compression, and how many there are.
-/

namespace SinkAudit

open Outcome

variable {p : Policy} {s : Snapshot}

/-! ## Roles at fault -/

namespace Role

/-- Is a role persisted in a format that is not in the policy? -/
def IsAtFault (p : Policy) (s : Snapshot) : Role → Prop
  | data => s.dataFormat.text ∉ p.formats
  | keys => s.storeKeys = true ∧ s.keysFormat.text ∉ p.formats
  | headers => s.storeHeaders = true ∧ s.headersFormat.text ∉ p.formats

instance (p : Policy) (s : Snapshot) : DecidablePred (IsAtFault p s)
  | data => inferInstanceAs (Decidable (_ ∉ _))
  | keys => inferInstanceAs (Decidable (_ ∧ _))
  | headers => inferInstanceAs (Decidable (_ ∧ _))

theorem fails_iff (r : Role) : s.fails p r = true ↔ r.IsAtFault p s := by
  unfold Snapshot.fails Policy.isSafe
  cases r <;> simp [Snapshot.persists, Snapshot.format, IsAtFault]

end Role

/-- The roles at fault, in the order in which they are visited. -/
def rolesAtFault (p : Policy) (s : Snapshot) : List Role :=
  [Role.data, .keys, .headers].filter (·.IsAtFault p s)

/-- With compression, the roles at fault fail. -/
theorem failingRoles_gzip (h : s.codec = .gzip) : failingRoles p s = rolesAtFault p s := by
  rw [failingRoles, h]
  refine List.filter_congr fun r _ => ?_
  rw [Bool.eq_iff_iff, r.fails_iff, decide_eq_true_iff]

/-! ## Posts -/

/-- The text of a violation under gzip: the template `FORMAT_CONFIG_ERROR_MESSAGE` with the role, its
format and the names of the safe formats put in. -/
def renderedTemplate (role format : String) (supported : List String) : String :=
  "Compression type 'gzip' is not supported for " ++ role ++ " format class '" ++ format
    ++ "'. Supported format classes for compressed output: " ++ ", ".intercalate supported ++ "."

/-- The message of a role at fault. The formats of a policy stand in increasing order, each once. -/
def Role.rendered (p : Policy) (s : Snapshot) : Role → String
  | data => renderedTemplate "data" s.dataFormat.text p.formats
  | keys => renderedTemplate "keys" s.keysFormat.text p.formats
  | headers => renderedTemplate "headers" s.headersFormat.text p.formats

/-- The rules say of a role what the template says of it. -/
theorem roleMessage_gzip (h : s.codec = .gzip) (r : Role) : roleMessage p s r = r.rendered p s := by
  rw [roleMessage, h]
  cases r <;> rfl

/-- The names of the fields that a role at fault is reported under. -/
def Role.reportedNames : Role → List String
  | data => ["data-format-class", "compression-type"]
  | keys => ["store-keys", "keys-format-class", "compression-type"]
  | headers => ["store-headers", "headers-format-class", "compression-type"]

theorem Role.map_name_reportedFields (r : Role) :
    r.reportedFields.map Field.name = r.reportedNames := by
  cases r <;> rfl

/-- The messages of roles, one role after the other, each with the field that it is posted under. -/
def postsOf (p : Policy) (s : Snapshot) (roles : List Role) : List (String × String) :=
  roles.flatMap fun r => r.reportedNames.map fun f => (f, r.rendered p s)

theorem map_fst_postsOf (roles : List Role) :
    (postsOf p s roles).map Prod.fst = roles.flatMap Role.reportedNames := by
  rw [postsOf, List.map_flatMap]
  simp only [List.map_map, Function.comp_def, List.map_id']

theorem length_postsOf_rolesAtFault (p : Policy) (s : Snapshot) :
    (postsOf p s (rolesAtFault p s)).length
      = (if Role.data.IsAtFault p s then 2 else 0)
        + (if Role.keys.IsAtFault p s then 3 else 0)
        + (if Role.headers.IsAtFault p s then 3 else 0) := by
  unfold rolesAtFault
  by_cases hdata : Role.data.IsAtFault p s <;> by_cases hkeys : Role.keys.IsAtFault p s
    <;> by_cases hheaders : Role.headers.IsAtFault p s
    <;> simp [postsOf, Role.reportedNames, hdata, hkeys, hheaders]

/-! ## Violations -/

/-- To report a role is to append what it posts. -/
theorem addRole_eq_foldl (h : s.codec = .gzip) (o : Outcome) (r : Role) :
    o.addRole p s r
      = (r.reportedNames.map fun f => (f, r.rendered p s)).foldl (fun o e => o.add e.1 e.2) o := by
  rw [← roleMessage_gzip h, ← r.map_name_reportedFields, List.map_map, List.foldl_map]
  rfl

/-- The violations are the posts of the failing roles. Roles fail only under gzip, so the codec that
the template names is the right one. -/
theorem evaluate_eq_ofPosts (p : Policy) (s : Snapshot) :
    evaluate p s = ofPosts (postsOf p s (failingRoles p s)) := by
  cases hcodec : s.codec with
  | none =>
    rw [evaluate, failingRoles, hcodec]
    rfl
  | gzip =>
    rw [ofPosts, postsOf, List.foldl_flatMap, evaluate]
    exact List.foldl_ext _ _ _ fun o r _ => addRole_eq_foldl hcodec o r

/-- The first failing role is reported before the compression, and the others after it. -/
theorem keys_evaluate (p : Policy) (s : Snapshot) :
    (evaluate p s).errors.keys
      = match failingRoles p s with
        | [] => []
        | r :: rest => r.fields.map Field.name ++ Field.compression.name
            :: rest.flatMap fun r => r.fields.map Field.name := by
  -- there are eight choices of roles, and the messages do not matter
  have hsublists : ∀ roles ∈ Role.all.sublists, (roles.flatMap Role.reportedNames).eraseDups
      = match roles with
        | [] => []
        | r :: rest => r.fields.map Field.name ++ Field.compression.name
            :: rest.flatMap fun r => r.fields.map Field.name := by
    decide
  rw [evaluate_eq_ofPosts, keys_ofPosts, map_fst_postsOf]
  exact hsublists _ (List.mem_sublists.mpr (failingRoles_sublist p s))

/-- The violations of every snapshot. Without compression there are none. With it they are what the
roles at fault post, data before keys before headers, gathered by field; under the compression stands
one message for each of these roles, the template filled in for it, and there are two violations for the
data and three for keys and for headers. -/
theorem evaluate_walk (p : Policy) (s : Snapshot) :
    match s.codec with
    | .none => (evaluate p s).errors.toList = []
    | .gzip =>
      evaluate p s = ofPosts (postsOf p s (rolesAtFault p s))
        ∧ (evaluate p s).errors.toList = gathered (postsOf p s (rolesAtFault p s))
        ∧ (evaluate p s).messagesFor "compression-type"
          = (rolesAtFault p s).map (Role.rendered p s)
        ∧ (evaluate p s).violationCount
          = (if Role.data.IsAtFault p s then 2 else 0)
            + (if Role.keys.IsAtFault p s then 3 else 0)
            + (if Role.headers.IsAtFault p s then 3 else 0) := by
  cases hcodec : s.codec with
  | none =>
    show (evaluate p s).errors.toList = []
    rw [evaluate, failingRoles, hcodec]
    rfl
  | gzip =>
    -- the roles that fail are those at fault, and what they add is gathered by field
    have hposts : evaluate p s = ofPosts (postsOf p s (rolesAtFault p s)) := by
      rw [evaluate_eq_ofPosts, failingRoles_gzip hcodec]
    refine ⟨hposts, ?_, ?_, ?_⟩
    · rw [hposts, toList_ofPosts]
    · rw [← failingRoles_gzip hcodec, ← funext (roleMessage_gzip hcodec)]
      exact messagesFor_evaluate_compression p s
    · rw [hposts, violationCount_ofPosts, length_postsOf_rolesAtFault]

end SinkAudit
