import Mathlib.Data.List.Perm.Basic
import Mathlib.Logic.Function.Basic
import SinkAudit.Proofs.OrderedMap
import SinkAudit.Proofs.Snapshot.Resolution

/-!
# The order of a configuration's entries

Mentions of one field are compared in a normal form, and then the last of them is read. Reading
does not go by that form: a flag is not freed of blanks before it is read, and an identifier is
not freed of the information separators. Two mentions that pass the comparison may thus be read
differently, and then it matters which of them stands last.

The docstring of `from_properties` promises an error for values of a field that disagree, and a reader of
it takes for granted that the order in which a file names the two does not matter. That is not so in
general. The result below does not repair anything: it says exactly for which configurations the order
makes no difference, in terms of what each field may be read to. Its other side gives the configurations
for which it does.

Two things are compared by `Except.toOption`: whether there is a snapshot, and which one. Errors of the
same configuration in two orders may name the keys in another order, and are not compared.

- `Properties.MayRead`: what a field may end up with, over all orders of the entries.
- `Properties.exists_perm_mentionedText?`: for each field on its own, some mention can be moved
  behind all others.
- `Snapshot.order_irrelevant_iff`: exactly when the order of the entries makes no difference.
-/

namespace SinkAudit

open Mention

/-! ## Keys in any order -/

theorem Scalar.sameFloat_comm (x y : Float) : sameFloat x y = sameFloat y x := by
  rw [sameFloat, sameFloat, Bool.and_comm, BEq.comm]

theorem DateTime.sameMoment_comm (a b : DateTime) : a.sameMoment b = b.sameMoment a := by
  rw [sameMoment, sameMoment, BEq.comm (a := a.moment), BEq.comm (a := a.offset.isSome)]

theorem Scalar.beq_comm (a b : Scalar) : (a == b) = (b == a) := by
  show sameKey a b = sameKey b a
  cases a <;> cases b <;>
    simp only [sameKey, whole?, Option.any_none, sameFloat_comm, DateTime.sameMoment_comm, BEq.comm]

/-- A configuration with the same entries in any other order. -/
theorem Properties.exists_toList_eq (p : Properties) {es : List (Scalar × Value)}
    (h : es.Perm p.toList) : ∃ q : Properties, q.toList = es := by
  have hcomm : ∀ {a b : Scalar × Value}, OrderedMap.KeysDiffer a b → OrderedMap.KeysDiffer b a := by
    intro a b hab
    rw [OrderedMap.KeysDiffer, Scalar.beq_comm]
    exact hab
  exact ⟨⟨es, (h.pairwise_iff hcomm).mpr p.distinct⟩, rfl⟩

namespace Properties

variable {p q : Properties}

theorem perm_mentions (h : q.toList.Perm p.toList) : q.mentions.Perm p.mentions :=
  h.filterMap Mention.ofEntry?

/-- Whether all mentions are compatible does not depend on their order. -/
theorem pairwise_compatible_iff (h : q.toList.Perm p.toList) :
    q.mentions.Pairwise Compatible ↔ p.mentions.Pairwise Compatible :=
  (perm_mentions h).pairwise_iff Compatible.symm

/-! ## What a field may end up with -/

/-- Some order of the entries leaves the field with this text, or with none: it is what one of the
field's mentions is read to, or what the field is without a mention. -/
def MayRead (p : Properties) (f : Field) (t : Option String) : Prop :=
  (∃ m ∈ p.mentions, m.field = f ∧ f.reading? m.value = t)
    ∨ ((∀ m ∈ p.mentions, m.field ≠ f) ∧ f.fallback? = t)

theorem mayRead_mentionedText? (p : Properties) (f : Field) :
    p.MayRead f (mentionedText? p.mentions f) := by
  unfold mentionedText?
  cases hlast : lastMention? p.mentions f with
  | none => exact .inr ⟨lastMention?_eq_none_iff.mp hlast, rfl⟩
  | some m =>
    obtain ⟨hm, hfield⟩ := mem_of_lastMention? hlast
    exact .inl ⟨m, hm, hfield, rfl⟩

theorem MayRead.perm {f : Field} {t : Option String} (h : q.toList.Perm p.toList)
    (hq : q.MayRead f t) : p.MayRead f t := by
  have hmem : ∀ m, m ∈ q.mentions ↔ m ∈ p.mentions := fun _ => (perm_mentions h).mem_iff
  simp only [MayRead, hmem] at hq
  exact hq

/-! ## Moving mentions behind all others -/

/-- The mention that decides what a field is read to is picked among those that give a text. -/
def Picks (p : Properties) (f : Field) (t : Option String) : Option Mention → Prop
  | some m => m ∈ p.mentions ∧ m.field = f ∧ f.reading? m.value = t
  | none => (∀ m ∈ p.mentions, m.field ≠ f) ∧ f.fallback? = t

theorem MayRead.exists_picks {f : Field} {t : Option String} (h : p.MayRead f t) :
    ∃ o, p.Picks f t o := by
  rcases h with ⟨m, hm⟩ | hnone
  · exact ⟨some m, hm⟩
  · exact ⟨none, hnone⟩

/-- The entry is one of the picked mentions. -/
def IsPicked (pick : Field → Option Mention) (e : Scalar × Value) : Prop :=
  ∃ m, Mention.ofEntry? e = some m ∧ pick m.field = some m

/-- With the picked mentions of all fields behind the others, they are what the fields are read
from. -/
theorem lastMention?_picked {pick : Field → Option Mention} {others picked : List (Scalar × Value)}
    (hpicked : ∀ e ∈ picked, IsPicked pick e) {m : Mention}
    (hm : m ∈ picked.filterMap Mention.ofEntry?) :
    lastMention? ((others ++ picked).filterMap Mention.ofEntry?) m.field = some m := by
  -- all mentions of a field among the picked ones are the one that was picked for it
  have hpick : ∀ a ∈ picked.filterMap Mention.ofEntry?, pick a.field = some a := by
    intro a ha
    obtain ⟨e, he, hea⟩ := List.mem_filterMap.mp ha
    obtain ⟨b, heb, hb⟩ := hpicked e he
    rw [hea] at heb
    cases heb
    exact hb
  rw [List.filterMap_append]
  refine lastMention?_append hm fun a ha hfield => ?_
  have hsame : some a = some m := by rw [← hpick a ha, ← hpick m hm, hfield]
  exact Option.some.inj hsame

/-- For each field on its own, a mention can be chosen to be the one that it is read from. -/
theorem exists_perm_mentionedText? (p : Properties) {texts : Field → Option String}
    (h : ∀ f, p.MayRead f (texts f)) :
    ∃ q : Properties, q.toList.Perm p.toList ∧ ∀ f, mentionedText? q.mentions f = texts f := by
  classical
  choose pick hpick using fun f => (h f).exists_picks
  -- the picked entries move behind all others; among themselves no two are of one field
  let others := p.toList.filter fun e => !decide (IsPicked pick e)
  let picked := p.toList.filter fun e => decide (IsPicked pick e)
  have hperm : (others ++ picked).Perm p.toList :=
    List.perm_append_comm.trans (List.filter_append_perm _ _)
  obtain ⟨q, hq⟩ := p.exists_toList_eq hperm
  have hqp : q.toList.Perm p.toList := hq ▸ hperm
  refine ⟨q, hqp, fun f => ?_⟩
  have hf := hpick f
  cases hpf : pick f with
  | none =>
    rw [hpf] at hf
    have hlast : lastMention? q.mentions f = none :=
      lastMention?_eq_none_iff.mpr fun m hm => hf.1 m ((perm_mentions hqp).mem_iff.mp hm)
    rw [mentionedText?, hlast]
    exact hf.2
  | some m =>
    rw [hpf] at hf
    obtain ⟨hm, rfl, hread⟩ := hf
    obtain ⟨e, he, hem⟩ := List.mem_filterMap.mp hm
    have hmem : m ∈ picked.filterMap Mention.ofEntry? := by
      refine List.mem_filterMap.mpr ⟨e, List.mem_filter.mpr ⟨he, ?_⟩, hem⟩
      exact decide_eq_true ⟨m, hem, hpf⟩
    have hpicked : ∀ e ∈ picked, IsPicked pick e :=
      fun e he => of_decide_eq_true (List.mem_filter.mp he).2
    have hlast : lastMention? q.mentions m.field = some m := by
      rw [mentions, hq]
      exact lastMention?_picked hpicked hmem
    rw [mentionedText?, hlast]
    exact hread

end Properties

/-! ## When the order matters -/

namespace Snapshot

variable {p q : Properties}

open Properties

/-- Two configurations are accepted alike if they are the same snapshots. -/
theorem toOption_ofProperties_eq_iff :
    (ofProperties q).toOption = (ofProperties p).toOption ↔
      ∀ s, ofProperties q = .ok s ↔ ofProperties p = .ok s := by
  rw [Option.ext_iff]
  simp only [toOption_eq_some_iff]

/-- Configurations whose mentions are all compatible are judged by what their fields are read to. -/
theorem toOption_ofProperties_eq_of_texts (hqp : q.toList.Perm p.toList)
    (htexts : ∀ f, mentionedText? q.mentions f = mentionedText? p.mentions f) :
    (ofProperties q).toOption = (ofProperties p).toOption := by
  rw [toOption_ofProperties_eq_iff]
  intro s
  simp only [ofProperties_eq_ok_iff, pairwise_compatible_iff hqp, htexts]

/-- A configuration is refused if its mentions are not compatible. -/
theorem toOption_ofProperties_of_not_compatible (h : ¬ p.mentions.Pairwise Compatible) :
    (ofProperties p).toOption = none := by
  refine Option.eq_none_iff_forall_ne_some.mpr fun s hs => ?_
  exact h (ofProperties_eq_ok_iff.mp (toOption_eq_some_iff.mp hs)).1

/-- A configuration is refused if a field can be read in no order. -/
theorem toOption_ofProperties_of_unreadable {f : Field} (h : ∀ t, ¬ p.MayRead f (some t)) :
    (ofProperties p).toOption = none := by
  refine Option.eq_none_iff_forall_ne_some.mpr fun s hs => ?_
  have htext := (ofProperties_eq_ok_iff.mp (toOption_eq_some_iff.mp hs)).2 f
  exact h (s.text f) (htext ▸ p.mayRead_mentionedText? f)

/-- If the mentions are compatible and every field can be read in some order, then an order that
makes no difference leaves each field nothing else to be read to. -/
theorem mayRead_eq_of_order_irrelevant
    (hsame : ∀ q : Properties, q.toList.Perm p.toList →
      (ofProperties q).toOption = (ofProperties p).toOption)
    (hcompat : p.mentions.Pairwise Compatible) {good : Field → String}
    (hgood : ∀ f, p.MayRead f (some (good f))) {f : Field} {t : Option String}
    (ht : p.MayRead f t) : t = some (good f) := by
  obtain ⟨q, hqp, hq⟩ := p.exists_perm_mentionedText? hgood
  -- the same texts, but for the one field
  have hother : ∀ g, p.MayRead g (Function.update (fun g => some (good g)) f t g) := by
    intro g
    by_cases hgf : g = f
    · subst hgf
      rwa [Function.update_self]
    · rw [Function.update_of_ne hgf]
      exact hgood g
  obtain ⟨r, hrp, hr⟩ := p.exists_perm_mentionedText? hother
  obtain ⟨s, hs⟩ : ∃ s, ofProperties q = .ok s := by
    rw [exists_ofProperties_iff]
    exact ⟨(pairwise_compatible_iff hqp).mpr hcompat, fun g => ⟨good g, hq g⟩⟩
  have hrs : ofProperties r = .ok s := by
    rw [← toOption_eq_some_iff, hsame r hrp, ← hsame q hqp, hs]
    rfl
  have htext : mentionedText? r.mentions f = mentionedText? q.mentions f := by
    rw [(ofProperties_eq_ok_iff.mp hrs).2 f, (ofProperties_eq_ok_iff.mp hs).2 f]
  rw [hr, hq, Function.update_self] at htext
  exact htext

/-- The order of the entries makes no difference exactly if two mentions disagree, or a field can
be read in no order, or every field is read to the same in all orders. -/
theorem order_irrelevant_iff (p : Properties) :
    (∀ q : Properties, q.toList.Perm p.toList →
        (ofProperties q).toOption = (ofProperties p).toOption)
      ↔ ¬ p.mentions.Pairwise Compatible
        ∨ (∃ f, ∀ t, ¬ p.MayRead f (some t))
        ∨ ∀ f t u, p.MayRead f t → p.MayRead f u → t = u := by
  constructor
  · intro hsame
    by_cases hcompat : p.mentions.Pairwise Compatible
    · by_cases hbad : ∃ f, ∀ t, ¬ p.MayRead f (some t)
      · exact .inr (.inl hbad)
      -- every field has some order in which it can be read, and one order serves all of them at once
      · push Not at hbad
        choose good hgood using hbad
        refine .inr (.inr fun f t u ht hu => ?_)
        rw [mayRead_eq_of_order_irrelevant hsame hcompat hgood ht,
          mayRead_eq_of_order_irrelevant hsame hcompat hgood hu]
    · exact .inl hcompat
  · rintro (hcompat | ⟨f, hf⟩ | halike) q hqp
    · rw [toOption_ofProperties_of_not_compatible hcompat]
      exact toOption_ofProperties_of_not_compatible (mt (pairwise_compatible_iff hqp).mp hcompat)
    · rw [toOption_ofProperties_of_unreadable hf]
      exact toOption_ofProperties_of_unreadable fun t ht => hf t (ht.perm hqp)
    · refine toOption_ofProperties_eq_of_texts hqp fun f => ?_
      exact halike f _ _ ((q.mayRead_mentionedText? f).perm hqp) (p.mayRead_mentionedText? f)

/-- A format under each of its names, one of them behind a file separator. -/
def formatTwice : List (Scalar × Value) :=
  [("data-format-class", .ofString "json"), ("format.class", .ofString "\x1cjson")]

/-- A configuration with a bucket and these entries. -/
def withBucket (es : List (Scalar × Value)) : Properties :=
  .ofList (("bucket-name", .ofString "b") :: es)

/-- The separator is a blank when the two formats are compared, and part of the format that is
read: the order of the two entries decides which snapshot the configuration is. -/
theorem formatTwice_order_matters :
    (withBucket formatTwice.reverse).toList.Perm (withBucket formatTwice).toList
      ∧ ∃ s t : Snapshot, ofProperties (withBucket formatTwice) = .ok s
        ∧ ofProperties (withBucket formatTwice.reverse) = .ok t ∧ s ≠ t := by
  constructor
  · show List.Perm [_, _, _] [_, _, _]
    exact .cons _ (.swap _ _ _)
  -- a snapshot is too large to be compared by evaluation, its format is not
  · have hs : (ofProperties (withBucket formatTwice)).toOption.map (·.text .dataFormat)
        = some "\x1cjson" := by decide +kernel
    have ht : (ofProperties (withBucket formatTwice.reverse)).toOption.map (·.text .dataFormat)
        = some "json" := by decide +kernel
    obtain ⟨s, hs, hstext⟩ := Option.map_eq_some_iff.mp hs
    obtain ⟨t, ht, httext⟩ := Option.map_eq_some_iff.mp ht
    refine ⟨s, t, toOption_eq_some_iff.mp hs, toOption_eq_some_iff.mp ht, ?_⟩
    rintro rfl
    rw [hstext] at httext
    exact absurd httext (by decide)

end Snapshot

end SinkAudit
