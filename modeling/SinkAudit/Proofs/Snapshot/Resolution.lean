import Mathlib.Data.List.Nodup
import Mathlib.Data.List.Pairwise
import SinkAudit.Proofs.Snapshot.Reading
import SinkAudit.Snapshot.Resolution

/-!
# What a configuration makes of its mentions

A configuration is a snapshot if no two mentions of a field disagree and every field can be read
from its last mention. The first half does not depend on the order of the mentions.

`from_properties` keeps, for each field, the value that it saw last, and compares every further value to
that one. So a chain of mentions is compared pairwise along the chain only. Since the comparison is an
equality of normal forms it makes no difference: `Compatible` relates any two mentions, and
`settleAll_eq_ok_iff` says that the chain is accepted exactly if all pairs are. The invariant that carries
the induction is that what is settled holds, for each field, its latest mention, first.

- `Mention.Agrees`, `Mention.Compatible`: two mentions pass the comparison, and do so if they are
  of one field.
- `settleAll_eq_ok_iff`: mentions are accepted one by one exactly if all of them are compatible,
  and then the latest stands first.
- `lastMention?`, `mentionedText?`: the last mention of a field, and the text that it gives the
  field.
- `Snapshot.ofProperties_eq_ok_iff`, `Snapshot.exists_ofProperties_iff`: which snapshot a
  configuration is, and when it is one.
-/

namespace SinkAudit

namespace Mention

/-- Two mentions pass the comparison: both can be written, and their normal forms are the same. -/
def Agrees (a b : Mention) : Prop :=
  a.value.isTooLong = false ∧ b.value.isTooLong = false ∧ a.normalForm = b.normalForm

/-- Two mentions do not contradict each other: they agree if they are of one field. -/
def Compatible (a b : Mention) : Prop := a.field = b.field → a.Agrees b

theorem Agrees.symm {a b : Mention} (h : a.Agrees b) : b.Agrees a := ⟨h.2.1, h.1, h.2.2.symm⟩

theorem Agrees.trans {a b c : Mention} (hab : a.Agrees b) (hbc : b.Agrees c) : a.Agrees c :=
  ⟨hab.1, hbc.2.1, hab.2.2.trans hbc.2.2⟩

theorem Compatible.symm {a b : Mention} (h : a.Compatible b) : b.Compatible a :=
  fun hf => (h hf.symm).symm

instance : Std.Symm Compatible := ⟨fun _ _ => Compatible.symm⟩

/-- Mentions of different fields are compatible. -/
theorem pairwise_compatible_of_nodup {ms : List Mention} (h : (ms.map Mention.field).Nodup) :
    ms.Pairwise Compatible :=
  (List.pairwise_map.mp h).imp fun hne hfield => absurd hfield hne

end Mention

open Mention

/-! ## Settling mentions -/

/-- A mention is added exactly if it agrees with the one of its field that was seen last. -/
theorem settle_eq_ok_iff {seen out : List Mention} {m : Mention} :
    settle seen m = .ok out ↔
      out = m :: seen ∧ ∀ e, seen.find? (·.field = m.field) = some e → e.Agrees m := by
  unfold settle
  cases hfind : seen.find? (·.field = m.field) with
  | none =>
    constructor
    · intro h
      cases h
      exact ⟨rfl, fun e he => by cases he⟩
    · rintro ⟨rfl, -⟩
      rfl
  | some e =>
    simp only [Option.some.injEq, forall_eq']
    -- the lengths are looked at before anything is written
    by_cases hlong : (e.value.isTooLong || m.value.isTooLong) = true
    · rw [if_pos hlong]
      constructor
      · intro h
        cases h
      · rintro ⟨-, he, hm, -⟩
        rw [he, hm] at hlong
        cases hlong
    · rw [if_neg hlong]
      obtain ⟨he, hm⟩ : e.value.isTooLong = false ∧ m.value.isTooLong = false := by
        simpa using hlong
      by_cases hform : e.normalForm = m.normalForm
      · rw [if_pos hform]
        constructor
        · intro h
          cases h
          exact ⟨rfl, he, hm, hform⟩
        · rintro ⟨rfl, -⟩
          rfl
      · rw [if_neg hform]
        constructor
        · intro h
          cases h
        · rintro ⟨-, -, -, h⟩
          exact absurd h hform

/-- Among compatible mentions, agreeing with the last one of a field is agreeing with all of
them. -/
theorem agrees_find?_iff {seen : List Mention} (hseen : seen.Pairwise Compatible) (m : Mention) :
    (∀ e, seen.find? (·.field = m.field) = some e → e.Agrees m) ↔ ∀ a ∈ seen, m.Compatible a := by
  constructor
  · intro h a ha hfield
    cases hfind : seen.find? (·.field = m.field) with
    | none =>
      have := List.find?_eq_none.mp hfind a ha
      simp [hfield] at this
    | some e =>
      have hem : e.Agrees m := h e hfind
      have hefield : e.field = m.field := by simpa using List.find?_some hfind
      -- the mention that was seen last agrees with every other one of the field
      by_cases hea : e = a
      · exact hea ▸ hem.symm
      · have hcompat : e.Compatible a := hseen.forall (List.mem_of_find?_eq_some hfind) ha hea
        exact hem.symm.trans (hcompat (hefield.trans hfield))
  · intro h e hfind
    have hefield : e.field = m.field := by simpa using List.find?_some hfind
    exact (h e (List.mem_of_find?_eq_some hfind) hefield.symm).symm

/-- Mentions are added to compatible ones exactly if all of them together are compatible. -/
theorem settleAll_seen_eq_ok_iff {ms out : List Mention} :
    ∀ {seen : List Mention}, seen.Pairwise Compatible →
      (settleAll seen ms = .ok out ↔
        out = ms.reverse ++ seen ∧ (ms.reverse ++ seen).Pairwise Compatible) := by
  induction ms with
  | nil =>
    intro seen hseen
    rw [settleAll, List.reverse_nil, List.nil_append]
    constructor
    · intro h
      cases h
      exact ⟨rfl, hseen⟩
    · rintro ⟨rfl, -⟩
      rfl
  | cons m rest ih =>
    intro seen hseen
    rw [List.reverse_cons, List.append_assoc, List.singleton_append]
    by_cases hm : ∀ a ∈ seen, m.Compatible a
    · have hsettle : settle seen m = .ok (m :: seen) :=
        settle_eq_ok_iff.mpr ⟨rfl, (agrees_find?_iff hseen m).mpr hm⟩
      rw [settleAll, hsettle]
      exact ih (List.pairwise_cons.mpr ⟨hm, hseen⟩)
    -- a mention that contradicts an earlier one stays in the list to the end
    · have hbad : ¬ (rest.reverse ++ m :: seen).Pairwise Compatible := by
        intro h
        obtain ⟨-, htail, -⟩ := List.pairwise_append.mp h
        exact hm (List.pairwise_cons.mp htail).1
      refine iff_of_false (fun h => ?_) (fun h => hbad h.2)
      rw [settleAll] at h
      split at h
      · next seen' hsettle =>
        exact hm ((agrees_find?_iff hseen m).mp (settle_eq_ok_iff.mp hsettle).2)
      · cases h

/-- Mentions are accepted one by one exactly if they are compatible; the latest stands first
then. -/
theorem settleAll_eq_ok_iff {ms out : List Mention} :
    settleAll [] ms = .ok out ↔ out = ms.reverse ∧ ms.Pairwise Compatible := by
  rw [settleAll_seen_eq_ok_iff List.Pairwise.nil, List.append_nil, List.pairwise_reverse]
  refine and_congr_right fun _ => ?_
  exact ⟨fun h => h.imp Compatible.symm, fun h => h.imp Compatible.symm⟩

/-! ## Configurations -/

/-- The last mention of a field. -/
def lastMention? (ms : List Mention) (f : Field) : Option Mention :=
  ms.reverse.find? (·.field = f)

/-- A mention behind which no other one of its field stands is the last of its field. -/
theorem lastMention?_append {earlier ms : List Mention} {m : Mention} (hm : m ∈ ms)
    (hunique : ∀ a ∈ ms, a.field = m.field → a = m) :
    lastMention? (earlier ++ ms) m.field = some m := by
  have hlast : ms.reverse.find? (·.field = m.field) = some m := by
    cases hfind : ms.reverse.find? (·.field = m.field) with
    | none =>
      have := List.find?_eq_none.mp hfind m (List.mem_reverse.mpr hm)
      simp at this
    | some a =>
      have ha : a ∈ ms := List.mem_reverse.mp (List.mem_of_find?_eq_some hfind)
      have hfield : a.field = m.field := by simpa using List.find?_some hfind
      rw [hunique a ha hfield]
  rw [lastMention?, List.reverse_append, List.find?_append, hlast, Option.some_or]

/-- The last mention of a field is a mention, and one of the field. -/
theorem mem_of_lastMention? {ms : List Mention} {f : Field} {m : Mention}
    (h : lastMention? ms f = some m) : m ∈ ms ∧ m.field = f :=
  ⟨List.mem_reverse.mp (List.mem_of_find?_eq_some h), by simpa using List.find?_some h⟩

/-- Where every field is mentioned at most once, its mention is the last one. -/
theorem lastMention?_eq_some_iff {ms : List Mention} (h : (ms.map Mention.field).Nodup) {f : Field}
    {m : Mention} : lastMention? ms f = some m ↔ m ∈ ms ∧ m.field = f := by
  constructor
  · exact mem_of_lastMention?
  · rintro ⟨hm, rfl⟩
    show lastMention? ([] ++ ms) m.field = some m
    exact lastMention?_append hm fun a ha => List.inj_on_of_nodup_map h ha hm

/-- A field without a last mention is not mentioned. -/
theorem lastMention?_eq_none_iff {ms : List Mention} {f : Field} :
    lastMention? ms f = none ↔ ∀ m ∈ ms, m.field ≠ f := by
  simp [lastMention?]

/-- The text that the last mention of a field gives it, or the one it has without a mention. -/
def mentionedText? (ms : List Mention) (f : Field) : Option String :=
  match lastMention? ms f with
  | some m => f.reading? m.value
  | none => f.fallback?

theorem settled?_givenIn (ms : List Mention) (f : Field) :
    f.settled? (givenIn ms.reverse f) = mentionedText? ms f := by
  unfold givenIn mentionedText? lastMention?
  cases ms.reverse.find? (·.field = f) <;> rfl

namespace Snapshot

variable {p : Properties} {s : Snapshot}

/-- Compatible mentions are read field by field. -/
theorem ofProperties_of_compatible (h : p.mentions.Pairwise Compatible) :
    ofProperties p = (ofGiven (givenIn p.mentions.reverse)).mapError .rejected := by
  rw [ofProperties, settleAll_eq_ok_iff.mpr ⟨rfl, h⟩]
  dsimp only
  cases ofGiven (givenIn p.mentions.reverse) <;> rfl

theorem ofProperties_eq_ok_iff_ofGiven :
    ofProperties p = .ok s ↔
      p.mentions.Pairwise Compatible ∧ ofGiven (givenIn p.mentions.reverse) = .ok s := by
  by_cases hp : p.mentions.Pairwise Compatible
  · rw [ofProperties_of_compatible hp, mapError_eq_ok_iff]
    simp only [hp, true_and]
  · have hsettle : ∀ out, settleAll [] p.mentions ≠ .ok out :=
      fun out h => hp (settleAll_eq_ok_iff.mp h).2
    unfold ofProperties
    simp only [hp, false_and, iff_false]
    split
    · simp
    · next hout => exact absurd hout (hsettle _)

/-- A configuration is a snapshot exactly if its mentions are compatible and the last mention of
every field gives the snapshot's text of it. -/
theorem ofProperties_eq_ok_iff :
    ofProperties p = .ok s ↔
      p.mentions.Pairwise Compatible ∧ ∀ f, mentionedText? p.mentions f = some (s.text f) := by
  rw [ofProperties_eq_ok_iff_ofGiven, ofGiven_eq_ok_iff]
  simp only [settled?_givenIn]

/-- A configuration is some snapshot exactly if its mentions are compatible and no field is left
without a text. -/
theorem exists_ofProperties_iff :
    (∃ s, ofProperties p = .ok s) ↔
      p.mentions.Pairwise Compatible ∧ ∀ f, ∃ t, mentionedText? p.mentions f = some t := by
  simp only [ofProperties_eq_ok_iff_ofGiven, exists_and_left, exists_ofGiven_iff, settled?_givenIn]

end Snapshot

end SinkAudit
