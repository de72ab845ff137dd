import SinkAudit.Session

/-!
# What a session remembers

A validator keeps nothing from one validation to the next. A store in memory keeps its buckets, the
failure that was set last, and the names that it was asked for. So what a lookup finds is told by the
steps before it that changed the store, whatever was looked up or validated in between.

The fake store is what programs are tested against, so its behaviour over many calls matters as much as its
answer to one. The state of a session is the store alone. The step lemmas say what one step does to each of
its three parts; what a whole session leaves follows by induction over the steps, and is stated without
the store: as a function of the steps that were taken (`lastOf`, `answersAfter`), which knows nothing of how
the store keeps its buckets.

- `Step.failure?`, `Step.presence?`: what a step changes about the failure, and about one bucket.
- `lastOf`, `answersAfter`: the answers of a store, read off the steps that were taken.
- `Step.answer?`: what the store answers to the lookup of a step.
- `Step.conclude`: what comes of a step, given the answers of the store.
- `run_fst`, `calls_run`, `failure_run`, `contains_run`: one step.
- `view_runAll`, `calls_runAll`, `ask_runAll`, `answer?_runAll`, `results_runAll`: a whole session.
- `session_remembers_changes`: a session told by its changes.
-/

namespace SinkAudit

variable {α : Type}

/-! ## Answers read off the steps -/

/-- The failure that lookups have from this step on, if the step sets it. -/
def Step.failure? : Step → Option (Option Failure)
  | failWith failure => some failure
  | _ => none

/-- Whether a bucket is there after this step, if the step makes or removes it. -/
def Step.presence? (name : String) : Step → Option Bool
  | createBucket made => if made = name then some true else none
  | deleteBucket removed => if removed = name then some false else none
  | _ => none

/-- Does the step change what lookups find? -/
def Step.changes : Step → Bool
  | createBucket _ | deleteBucket _ | failWith _ => true
  | _ => false

/-- The effect of the last step that has one, or else what held at the start. -/
def lastOf (effect : Step → Option α) (start : α) (steps : List Step) : α :=
  (steps.filterMap effect).getLast?.getD start

/-- The answers after steps: the failure that was set last, or else, for each bucket, whether it was
made or removed last. What no step changed is as it was at the start. -/
def answersAfter (buckets : List String) (failure : Option Failure) (steps : List Step)
    (name : String) : Answer :=
  match lastOf Step.failure? failure steps with
  | some f => .error f
  | none => .ok (lastOf (Step.presence? name) (buckets.contains name) steps)

/-- What a store answers to the lookup of a step, if the step makes one. -/
def Step.answer? (step : Step) (store : MemoryStore) : Option Answer :=
  step.lookup?.map fun name => (store.ask name).1

/-- What comes of a step, given what the store answers for each bucket. -/
def Step.conclude (v : Validator) (answers : String → Answer) : Step → Logged StepResult
  | createBucket _ | deleteBucket _ | failWith _ => ⟨.nothing, []⟩
  | bucketExists name => ⟨.answer (answers name), []⟩
  | validate s check =>
    if check then
      let judged := v.judge s (answers s.bucket.text)
      ⟨.outcome judged.result, judged.log⟩
    else
      let judged := v.validateRules s
      ⟨.outcome (.ok judged.result), judged.log⟩
  | validateWith s p =>
    let judged := ({ policy := p } : Validator).judge s (answers s.bucket.text)
    ⟨.outcome judged.result, judged.log⟩
  | checkBucket name mode =>
    let judged := judgeAnswer mode name (answers name)
    ⟨.outcome judged.result, judged.log⟩

/-! ## One step -/

section Step

variable (v : Validator) (store : MemoryStore) (step : Step)

/-- What comes of a step is told by the answers of the store. -/
theorem Step.run_fst : (step.run v store).1 = step.conclude v fun name => (store.ask name).1 := by
  cases step with
  | validate s check =>
    cases check with
    | true => rfl
    | false => rfl
  | _ => rfl

/-- A step that asks for a bucket is recorded, whatever comes of it, and no other is. -/
theorem Step.calls_run : (step.run v store).2.calls = store.calls ++ step.lookup?.toList := by
  cases step with
  | createBucket name => exact (List.append_nil _).symm
  | deleteBucket name => exact (List.append_nil _).symm
  | failWith failure => exact (List.append_nil _).symm
  | validate s check =>
    cases check with
    | true => rfl
    | false => exact (List.append_nil _).symm
  | _ => rfl

/-- Only setting a failure changes the failure of lookups. -/
theorem Step.failure_run : (step.run v store).2.failure = step.failure?.getD store.failure := by
  cases step with
  | validate s check =>
    cases check with
    | true => rfl
    | false => rfl
  | _ => rfl

/-- Only making and removing a bucket changes whether it is there. -/
theorem Step.contains_run (name : String) : (step.run v store).2.buckets.contains name
    = (step.presence? name).getD (store.buckets.contains name) := by
  -- a bucket may be made twice, and removing it takes it away however often it was made
  cases step with
  | createBucket made =>
    show (made :: store.buckets).contains name
      = (if made = name then some true else none).getD (store.buckets.contains name)
    rw [List.contains_cons]
    by_cases hname : made = name
    · rw [if_pos hname, hname, beq_self_eq_true, Bool.true_or]
      rfl
    · have hother : (name == made) = false := beq_eq_false_iff_ne.mpr fun h => hname h.symm
      rw [if_neg hname, hother, Bool.false_or]
      rfl
  | deleteBucket removed =>
    show (store.buckets.filter (· != removed)).contains name
      = (if removed = name then some false else none).getD (store.buckets.contains name)
    by_cases hname : removed = name
    · rw [if_pos hname, Option.getD_some, List.contains_eq_mem, decide_eq_false_iff_not,
        List.mem_filter, hname]
      rintro ⟨-, hkept⟩
      exact absurd rfl (bne_iff_ne.mp hkept)
    · have hkept : (name != removed) = true := bne_iff_ne.mpr fun h => hname h.symm
      rw [if_neg hname, Option.getD_none, Bool.eq_iff_iff, List.contains_iff_mem,
        List.contains_iff_mem, List.mem_filter]
      exact and_iff_left hkept
  | validate s check =>
    cases check with
    | true => rfl
    | false => rfl
  | _ => rfl

end Step

/-! ## Sessions -/

section Session

variable (v : Validator) (store : MemoryStore)

theorem lastOf_cons (effect : Step → Option α) (start : α) (step : Step) (rest : List Step) :
    lastOf effect start (step :: rest) = lastOf effect ((effect step).getD start) rest := by
  unfold lastOf
  cases heffect : effect step with
  | none => rw [List.filterMap_cons_none heffect, Option.getD_none]
  | some a =>
    rw [List.filterMap_cons_some heffect, List.getLast?_cons, Option.getD_some, Option.getD_some]

/-- Steps without an effect may be left out. -/
theorem lastOf_filter {effect : Step → Option α} {keep : Step → Bool}
    (h : ∀ step, keep step = false → effect step = none) (start : α) (steps : List Step) :
    lastOf effect start (steps.filter keep) = lastOf effect start steps := by
  induction steps generalizing start with
  | nil => rfl
  | cons step rest ih =>
    cases hkeep : keep step with
    | true => rw [List.filter_cons_of_pos hkeep, lastOf_cons, lastOf_cons, ih]
    | false =>
      rw [List.filter_cons_of_neg (by simp [hkeep]), lastOf_cons, h step hkeep, Option.getD_none, ih]

/-- If a part of the store is after every step what the effect of the step is, or else what it was, then
after a session it is the effect of the last step that has one. -/
theorem view_runAll (view : MemoryStore → α) {effect : Step → Option α}
    (h : ∀ store step, view (Step.run v store step).2 = (effect step).getD (view store))
    (steps : List Step) : view (runAll v store steps).2 = lastOf effect (view store) steps := by
  induction steps generalizing store with
  | nil => rfl
  | cons step rest ih =>
    show view (runAll v (step.run v store).2 rest).2 = _
    rw [ih, h, lastOf_cons]

/-- The record of a store after a session. -/
theorem calls_runAll (steps : List Step) :
    (runAll v store steps).2.calls = store.calls ++ steps.filterMap Step.lookup? := by
  induction steps generalizing store with
  | nil => exact (List.append_nil _).symm
  | cons step rest ih =>
    show (runAll v (step.run v store).2 rest).2.calls = _
    rw [ih, Step.calls_run, List.append_assoc]
    cases hlookup : step.lookup? with
    | none => rw [List.filterMap_cons_none hlookup, Option.toList_none, List.nil_append]
    | some name =>
      rw [List.filterMap_cons_some hlookup, Option.toList_some, List.singleton_append]

/-- The answers of a store after a session. -/
theorem ask_runAll (steps : List Step) (name : String) :
    ((runAll v store steps).2.ask name).1
      = answersAfter store.buckets store.failure steps name := by
  have hfailure : (runAll v store steps).2.failure
      = lastOf Step.failure? store.failure steps :=
    view_runAll v store MemoryStore.failure (Step.failure_run v) steps
  have hpresence : (runAll v store steps).2.buckets.contains name
      = lastOf (Step.presence? name) (store.buckets.contains name) steps :=
    view_runAll v store (fun m => m.buckets.contains name)
      (fun m step => step.contains_run v m name) steps
  cases hset : (runAll v store steps).2.failure with
  | none => simp only [MemoryStore.ask, answersAfter, ← hfailure, hset, hpresence]
  | some f => simp only [MemoryStore.ask, answersAfter, ← hfailure, hset]

/-- What a lookup finds is told by the steps before it, whatever is made of it then. -/
theorem answer?_runAll (steps : List Step) (step : Step) :
    step.answer? (runAll v store steps).2
      = step.lookup?.map (answersAfter store.buckets store.failure steps) :=
  congrArg (step.lookup?.map ·) (funext (ask_runAll v store steps))

/-- The answers after a step and further steps are those that the store left by the step has after
the further ones. -/
theorem answersAfter_cons (step : Step) (rest : List Step) :
    answersAfter store.buckets store.failure (step :: rest)
      = answersAfter (step.run v store).2.buckets (step.run v store).2.failure rest := by
  funext name
  unfold answersAfter
  rw [lastOf_cons, lastOf_cons, Step.failure_run, Step.contains_run]

/-- What comes of each step is told by the answers after the steps before it. -/
theorem results_runAll (steps : List Step) : (runAll v store steps).1
    = steps.mapIdx fun i step =>
        step.conclude v (answersAfter store.buckets store.failure (steps.take i)) := by
  induction steps generalizing store with
  | nil => rfl
  | cons step rest ih =>
    have hhead : (step.run v store).1
        = step.conclude v (answersAfter store.buckets store.failure []) := by
      rw [Step.run_fst]
      exact congrArg (step.conclude v) (funext fun name => ask_runAll v store [] name)
    show (step.run v store).1 :: (runAll v (step.run v store).2 rest).1 = _
    rw [List.mapIdx_cons, ih, hhead, List.take_zero]
    simp only [List.take_succ_cons, answersAfter_cons v store step]

/-- What comes of the next step is told by the changes before it alone. -/
theorem run_runAll_filter (before : List Step) (step : Step) :
    (step.run v (runAll v store (before.filter Step.changes)).2).1
      = (step.run v (runAll v store before).2).1 := by
  -- what is left out changes neither the failure nor any bucket, so that all answers stay the same
  have hfailure : ∀ step : Step, step.changes = false → step.failure? = none := by
    intro step h
    cases step with
    | failWith failure => cases h
    | _ => rfl
  have hpresence : ∀ name, ∀ step : Step, step.changes = false → step.presence? name = none := by
    intro name step h
    cases step with
    | createBucket made => cases h
    | deleteBucket removed => cases h
    | _ => rfl
  have hanswers : ∀ name, ((runAll v store (before.filter Step.changes)).2.ask name).1
      = ((runAll v store before).2.ask name).1 := by
    intro name
    rw [ask_runAll, ask_runAll, answersAfter, answersAfter, lastOf_filter hfailure,
      lastOf_filter (hpresence name)]
  rw [Step.run_fst, Step.run_fst, funext hanswers]

end Session

/-- A session is told by its changes. From any store that was asked for nothing yet, and under any
validator, the answer to the lookup of each step is read off the steps before it, be the lookup a question
of its own or part of a validation: it fails with the failure that was set last, and else finds a bucket
exactly if it was made after it was last removed, or was there and has not been removed. Each step comes to
what it makes of such an answer. After any number of steps the record holds the names of those that asked
for a bucket, failed ones included, once each and in order. Steps before that changed nothing might as well
have been left out. -/
theorem session_remembers_changes (v : Validator) (buckets : List String)
    (failure : Option Failure) (steps : List Step) :
    let start : MemoryStore := { buckets, failure }
    (runAll v start steps).1
        = (steps.mapIdx fun i step =>
            step.conclude v (answersAfter buckets failure (steps.take i)))
      ∧ (∀ n step, Step.answer? step (runAll v start (steps.take n)).2
          = step.lookup?.map (answersAfter buckets failure (steps.take n)))
      ∧ (∀ n, (runAll v start (steps.take n)).2.calls = (steps.take n).filterMap Step.lookup?)
      ∧ ∀ n step, (Step.run v (runAll v start ((steps.take n).filter Step.changes)).2 step).1
          = (Step.run v (runAll v start (steps.take n)).2 step).1 := by
  intro start
  refine ⟨results_runAll v start steps, fun n step => ?_, fun n => ?_, fun n step => ?_⟩
  · exact answer?_runAll v start (steps.take n) step
  · rw [calls_runAll]
    exact List.nil_append _
  · exact run_runAll_filter v start (steps.take n) step

end SinkAudit
