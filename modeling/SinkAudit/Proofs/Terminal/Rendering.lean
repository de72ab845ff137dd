import SinkAudit.Proofs.Terminal.Markup
import SinkAudit.Proofs.Text.Lines

/-!
# Markup that can be rendered

Rendering fails only at tags. Inert pieces are passed over, so escaped text can always be
rendered, and so can it behind texts of the program's own, which close every style that they open.

The state of rendering is the list of open styles. Inert pieces leave it alone, which is the invariant of the
induction; text of the program's own opens one style and closes it again.

- `renderFrom_inert`: what follows inert pieces is rendered behind some text, under the same
  styles.
- `renderFrom_plain`, `renderFrom_styled`: a text without markup, and such a text between the tags
  of a style, are shown as they are.
- `isOk_render_escape`: escaped text can be rendered.
-/

namespace SinkAudit.Markup

theorem exists_of_map_eq_ok {ε α β : Type} {f : α → β} {x : Except ε α} {b : β}
    (h : x.map f = .ok b) : ∃ a, x = .ok a ∧ f a = b := by
  cases x with
  | error e => cases h
  | ok a => exact ⟨a, rfl, Except.ok.inj h⟩

@[simp] theorem isOk_map {ε α β : Type} (f : α → β) (x : Except ε α) : (x.map f).isOk = x.isOk := by
  cases x <;> rfl

/-! ## Inert pieces and plain text -/

/-- What follows inert pieces is rendered behind some text, under the same styles. -/
theorem renderFrom_inert {ps : List Piece} (h : ∀ p ∈ ps, p.IsInert) (qs : List Piece) :
    ∀ position styles, ∃ next shown,
      renderFrom position styles (ps ++ qs) = (renderFrom next styles qs).map (shown ++ ·) := by
  induction ps with
  | nil =>
    intro position styles
    refine ⟨position, [], ?_⟩
    rw [List.nil_append]
    cases renderFrom position styles qs <;> rfl
  | cons p rest ih =>
    obtain ⟨hp, hrest⟩ := List.forall_mem_cons.mp h
    intro position styles
    cases p with
    | char c =>
      -- whether a backslash is shown depends on the piece after it, which may be the first of `qs`
      obtain ⟨next, shown, hshown⟩ := ih hrest (position + 1) styles
      refine ⟨next,
        if c = '\\' ∧ (rest ++ qs).head? = some (.char '[') then shown else c :: shown, ?_⟩
      rw [List.cons_append, renderFrom, hshown]
      cases renderFrom next styles qs with
      | error e => rfl
      | ok text =>
        simp only [Except.map]
        split <;> rfl
    | tag slashes body =>
      have hodd : slashes % 2 = 1 := hp
      obtain ⟨next, shown, hshown⟩ := ih hrest (position + slashes + body.length + 2) styles
      refine ⟨next, List.replicate (slashes / 2) '\\' ++ bracketed body ++ shown, ?_⟩
      rw [List.cons_append, renderFrom]
      simp only [hodd, if_true, hshown]
      cases renderFrom next styles qs with
      | error e => rfl
      | ok text => simp only [Except.map, List.append_assoc]

/-- Escaped text is shown as some text, whatever stands before it. -/
theorem renderFrom_escape (cs : List Char) {tail : List Char} (htail : Detached tail)
    (position : Nat) (styles : List OpenStyle) :
    ∃ next shown, renderFrom position styles (pieces (escape cs ++ tail))
      = (renderFrom next styles (pieces tail)).map (shown ++ ·) := by
  obtain ⟨ps, hps, htailed⟩ := exists_pieces_escape cs
  rw [htailed tail htail]
  exact renderFrom_inert hps (pieces tail) position styles

theorem detached_nil : Detached [] := ⟨by decide, rfl⟩

/-- Escaped text can be rendered, whatever stands before it. -/
theorem exists_renderFrom_escape (cs : List Char) (position : Nat) (styles : List OpenStyle) :
    ∃ shown, renderFrom position styles (pieces (escape cs)) = .ok shown := by
  obtain ⟨next, shown, hshown⟩ := renderFrom_escape cs detached_nil position styles
  rw [List.append_nil, pieces_nil, renderFrom] at hshown
  exact ⟨shown ++ [], hshown⟩

/-- Escaped text can be rendered. -/
theorem isOk_render_escape (cs : List Char) : (render (escape cs)).isOk = true := by
  obtain ⟨shown, hshown⟩ := exists_renderFrom_escape cs 0 []
  rw [render, hshown]
  rfl

/-- A text without backslashes and opening brackets holds no markup. -/
def IsPlain (text : List Char) : Prop := ∀ c ∈ text, c ≠ '\\' ∧ c ≠ '['

instance (text : List Char) : Decidable (IsPlain text) := List.decidableBAll _ text

theorem IsPlain.append {a b : List Char} (ha : IsPlain a) (hb : IsPlain b) : IsPlain (a ++ b) := by
  intro c hc
  rcases List.mem_append.mp hc with hc | hc
  · exact ha c hc
  · exact hb c hc

theorem IsPlain.intercalate {separator : List Char} {texts : List (List Char)}
    (hseparator : IsPlain separator) (htexts : ∀ text ∈ texts, IsPlain text) :
    IsPlain (List.intercalate separator texts) :=
  Text.forall_mem_intercalate hseparator htexts

/-- A text without markup is shown as it is. -/
theorem renderFrom_plain {text : List Char} (h : IsPlain text) (rest : List Char) :
    ∀ position styles, ∃ next, renderFrom position styles (pieces (text ++ rest))
      = (renderFrom next styles (pieces rest)).map (text ++ ·) := by
  induction text with
  | nil =>
    intro position styles
    refine ⟨position, ?_⟩
    rw [List.nil_append]
    cases renderFrom position styles (pieces rest) <;> rfl
  | cons c text ih =>
    obtain ⟨⟨hslash, hopen⟩, htext⟩ := List.forall_mem_cons.mp h
    intro position styles
    obtain ⟨next, hnext⟩ := ih htext (position + 1) styles
    refine ⟨next, ?_⟩
    rw [List.cons_append, pieces_cons hslash hopen, renderFrom, hnext]
    cases renderFrom next styles (pieces rest) with
    | error e => rfl
    | ok shown => simp only [Except.map, hslash, false_and, if_false, List.cons_append]

/-! ## Styles -/

/-- The text of a tag that opens a style without parameters. -/
structure IsStyle (style : List Char) : Prop where
  body : IsBody style
  noParameters : ∀ c ∈ style, (c != '=') = true
  opening : style.head? ≠ some '/'
  known : ∃ name, styleName style = .ok name

/-- Opening a style puts it before the others. -/
theorem applyTag_style {style : List Char} (h : IsStyle style) :
    ∃ name, ∀ position styles, applyTag position styles style = .ok (⟨name, []⟩ :: styles) := by
  obtain ⟨name, hname⟩ := h.known
  refine ⟨name, fun position styles => ?_⟩
  have htake : style.takeWhile (· != '=') = style := List.takeWhile_eq_self_iff.mpr h.noParameters
  have hdrop : style.dropWhile (· != '=') = [] := List.dropWhile_eq_nil_iff.mpr h.noParameters
  rw [applyTag.eq_def, htake, hdrop]
  split
  · next rest => exact absurd rfl h.opening
  · rw [hname]
    rfl

/-- A style without parameters can be closed. -/
theorem applyTag_close (name : String) (position : Nat) (styles : List OpenStyle) :
    applyTag position (⟨name, []⟩ :: styles) ['/'] = .ok styles := by
  have hclose : closeStyle ⟨name, []⟩ = .ok () := by simp [closeStyle]
  simp only [applyTag, List.takeWhile, hclose]
  rfl

/-- A tag that can be applied shows nothing. -/
theorem renderFrom_tag {body : List Char} (hbody : IsBody body) {position : Nat}
    {styles styles' : List OpenStyle} (happly : applyTag position styles body = .ok styles')
    (rest : List Char) :
    renderFrom position styles (pieces (bracketed body ++ rest))
      = renderFrom (position + body.length + 2) styles' (pieces rest) := by
  rw [pieces_bracketed hbody, renderFrom]
  simp only [Nat.zero_mod, Nat.zero_ne_one, if_false, Nat.add_zero, happly]
  cases renderFrom (position + body.length + 2) styles' (pieces rest) <;> rfl

/-- A text without markup between the tags of a style is shown as it is. -/
theorem renderFrom_styled {style text : List Char} (hstyle : IsStyle style) (htext : IsPlain text)
    (rest : List Char) (position : Nat) (styles : List OpenStyle) :
    ∃ next, renderFrom position styles
        (pieces (bracketed style ++ (text ++ (bracketed ['/'] ++ rest))))
      = (renderFrom next styles (pieces rest)).map (text ++ ·) := by
  obtain ⟨name, hopen⟩ := applyTag_style hstyle
  have hclosing : IsBody ['/'] := ⟨'/', [], rfl, by decide, by simp⟩
  obtain ⟨middle, hmiddle⟩ := renderFrom_plain htext (bracketed ['/'] ++ rest)
    (position + style.length + 2) (⟨name, []⟩ :: styles)
  refine ⟨middle + 1 + 2, ?_⟩
  rw [renderFrom_tag hstyle.body (hopen position styles), hmiddle,
    renderFrom_tag hclosing (applyTag_close name middle styles)]
  rfl

end SinkAudit.Markup
