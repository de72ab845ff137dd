import SinkAudit.Text.Utf8

/-!
# Encoded text is decoded

- `decodeFrom_skip`: bytes that belong to the character before are passed over.
- `continuation_cons`: one byte after the first.
- `decodeFrom_lead`: a first byte and the bytes that it announces are one character.
- `lead_two`, `lead_three`, `lead_four`: what the first byte of a character announces.
- `decodeFrom_encodeChar`: the bytes of a character are decoded to it, by their number.
- `decode_encode`: the bytes of characters are decoded to these.
-/

namespace SinkAudit.Utf8

/-- Bytes that belong to the character before are passed over. -/
theorem decodeFrom_skip (tail rest : List UInt8) (position : Nat) :
    decodeFrom position tail.length (tail ++ rest)
      = decodeFrom (position + tail.length) 0 rest := by
  induction tail generalizing position with
  | nil => rfl
  | cons b tail ih =>
    show decodeFrom (position + 1) tail.length (tail ++ rest) = _
    rw [ih, List.length_cons, Nat.add_assoc, Nat.add_comm 1]

/-- A byte within the bounds adds its six bits. -/
theorem continuation_cons {b : UInt8} {low high n : Nat} (hlow : low ≤ n) (hhigh : n ≤ high)
    (hb : b.toNat = n) (bits read more : Nat) (rest : List UInt8) :
    continuation bits low high read (more + 1) (b :: rest)
      = continuation (bits * 0x40 + (n - 0x80)) 0x80 0xBF (read + 1) more rest := by
  rw [continuation, hb, if_pos ⟨hlow, hhigh⟩]

/-- A first byte and the bytes that it announces are one character. -/
theorem decodeFrom_lead {b : UInt8} {more bits low high : Nat} (tail : List UInt8)
    {rest : List UInt8} {c : Char} {cs : List Char}
    (hlead : lead b.toNat = some ⟨more, bits, low, high⟩)
    (hmore : tail.length = more)
    (hvalue : continuation bits low high 1 more (tail ++ rest) = .ok c.toNat)
    (hrest : ∀ position, decodeFrom position 0 rest = .ok cs) (position : Nat) :
    decodeFrom position 0 (b :: (tail ++ rest)) = .ok (c :: cs) := by
  have htail : decodeFrom (position + 1) more (tail ++ rest) = .ok cs := by
    rw [← hmore, decodeFrom_skip, hrest]
  simp only [decodeFrom, hlead, hvalue, htail, Char.ofNat_toNat]

/-! ## First bytes -/

theorem lead_two {n : Nat} (hmin : 0x7F < n) (hmax : n ≤ 0x7FF) :
    lead (n / 64 % 32 + 192) = some ⟨1, n / 64, 0x80, 0xBF⟩ := by
  have hbits : n / 64 % 32 + 192 - 0xC0 = n / 64 := by omega
  rw [lead, if_neg (by omega), if_neg (by omega), if_pos (by omega), hbits]

/-- The second of three bytes has bounds that keep out overlong forms and surrogates. -/
theorem lead_three {n : Nat} (hmin : 0x7FF < n) (hmax : n ≤ 0xFFFF) :
    lead (n / 4096 % 16 + 224)
      = some ⟨2, n / 4096, if n / 4096 = 0 then 0xA0 else 0x80,
          if n / 4096 = 13 then 0x9F else 0xBF⟩ := by
  have hbits : n / 4096 % 16 + 224 - 0xE0 = n / 4096 := by omega
  have hlow : (n / 4096 % 16 + 224 = 0xE0) = (n / 4096 = 0) := propext (by omega)
  have hhigh : (n / 4096 % 16 + 224 = 0xED) = (n / 4096 = 13) := propext (by omega)
  rw [lead, if_neg (by omega), if_neg (by omega), if_neg (by omega), if_pos (by omega), hbits]
  simp only [hlow, hhigh]

/-- The second of four bytes has bounds that keep out overlong forms and numbers that are too
large. -/
theorem lead_four {n : Nat} (hmin : 0xFFFF < n) (hmax : n < 0x110000) :
    lead (n / 262144 % 8 + 240)
      = some ⟨3, n / 262144, if n / 262144 = 0 then 0x90 else 0x80,
          if n / 262144 = 4 then 0x8F else 0xBF⟩ := by
  have hbits : n / 262144 % 8 + 240 - 0xF0 = n / 262144 := by omega
  have hlow : (n / 262144 % 8 + 240 = 0xF0) = (n / 262144 = 0) := propext (by omega)
  have hhigh : (n / 262144 % 8 + 240 = 0xF4) = (n / 262144 = 4) := propext (by omega)
  rw [lead, if_neg (by omega), if_neg (by omega), if_neg (by omega), if_neg (by omega),
    if_pos (by omega), hbits]
  simp only [hlow, hhigh]

/-! ## Characters -/

/-- The bytes of a character are decoded to it. -/
theorem decodeFrom_encodeChar (c : Char) {rest : List UInt8} {cs : List Char}
    (hrest : ∀ position, decodeFrom position 0 rest = .ok cs) (position : Nat) :
    decodeFrom position 0 (String.utf8EncodeChar c ++ rest) = .ok (c :: cs) := by
  have hvalid : c.val.toNat < 0xD800 ∨ 0xDFFF < c.val.toNat ∧ c.val.toNat < 0x110000 := c.valid
  have hbyte : ∀ n < 256, (UInt8.ofNat n).toNat = n := fun n hn => UInt8.toNat_ofNat_of_lt' hn
  have hchar : c.toNat = c.val.toNat := rfl
  unfold String.utf8EncodeChar
  dsimp only
  generalize c.val.toNat = n at hvalid hchar ⊢
  -- one, two, three or four bytes, of which the first tells how many follow
  by_cases h1 : n ≤ 0x7F
  · have hlead : lead (UInt8.ofNat n).toNat = some ⟨0, n, 0x80, 0xBF⟩ := by
      rw [hbyte n (by omega), lead, if_pos (by omega)]
    rw [if_pos h1]
    exact decodeFrom_lead [] hlead rfl (hchar ▸ rfl) hrest position
  rw [if_neg h1]
  by_cases h2 : n ≤ 0x7FF
  · have hlead := lead_two (by omega) h2
    have hvalue : n / 64 * 0x40 + (n % 64 + 128 - 0x80) = n := by omega
    rw [← hbyte (n / 64 % 32 + 192) (by omega)] at hlead
    rw [if_pos h2]
    refine decodeFrom_lead [_] hlead rfl ?_ hrest position
    rw [List.cons_append, continuation_cons (by omega) (by omega) (hbyte _ (by omega)), continuation,
      hchar, hvalue]
  rw [if_neg h2]
  by_cases h3 : n ≤ 0xFFFF
  · have hlead := lead_three (by omega) h3
    have hvalue : (n / 4096 * 0x40 + (n / 64 % 64 + 128 - 0x80)) * 0x40 + (n % 64 + 128 - 0x80)
        = n := by omega
    rw [← hbyte (n / 4096 % 16 + 224) (by omega)] at hlead
    rw [if_pos h3]
    refine decodeFrom_lead [_, _] hlead rfl ?_ hrest position
    rw [List.cons_append, continuation_cons (by split <;> omega) (by split <;> omega)
      (hbyte _ (by omega)), List.cons_append, continuation_cons (by omega) (by omega)
      (hbyte _ (by omega)), continuation, hchar, hvalue]
  · have hlead := lead_four (by omega) (show n < 0x110000 by omega)
    have hvalue : ((n / 262144 * 0x40 + (n / 4096 % 64 + 128 - 0x80)) * 0x40
        + (n / 64 % 64 + 128 - 0x80)) * 0x40 + (n % 64 + 128 - 0x80) = n := by omega
    rw [← hbyte (n / 262144 % 8 + 240) (by omega)] at hlead
    rw [if_neg h3]
    refine decodeFrom_lead [_, _, _] hlead rfl ?_ hrest position
    rw [List.cons_append, continuation_cons (by split <;> omega) (by split <;> omega)
      (hbyte _ (by omega)), List.cons_append, continuation_cons (by omega) (by omega)
      (hbyte _ (by omega)), List.cons_append, continuation_cons (by omega) (by omega)
      (hbyte _ (by omega)), continuation, hchar, hvalue]

/-- Characters are decoded from their bytes. -/
theorem decode_encode (cs : List Char) : decode (encode cs) = .ok cs := by
  have hfrom : ∀ position, decodeFrom position 0 (encode cs) = .ok cs := by
    induction cs with
    | nil =>
      intro position
      rfl
    | cons c cs ih =>
      intro position
      rw [encode, List.flatMap_cons]
      exact decodeFrom_encodeChar c ih position
  exact hfrom 0

end SinkAudit.Utf8
