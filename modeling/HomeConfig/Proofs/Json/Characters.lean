import HomeConfig.Json.Reader
import HomeConfig.Json.Writer
import Mathlib.Algebra.Order.Ring.Nat
import Mathlib.Data.List.Basic
import Mathlib.Tactic.Conv
import Mathlib.Tactic.SplitIfs

/-!
# Strings are read as they were written

A character is written as itself, as an escape of one letter, as an escape of four digits, or as two
of those.  Each is read as one character (`readsChar_writeChar`): the reader takes the escape in one
step and then passes over the characters that belong to it.  The digits of an escape are never alone
at the end of a text, since the closing quote stands behind them; that is how the reader can tell
that they are all there.
-/

namespace HomeConfig

/-! ## Hexadecimal digits -/

namespace Hexadecimal

theorem number?_toDigits (n : Nat) : number? (Nat.toDigits 16 n) = some n := by
  induction n using Nat.strongRecOn with
  | ind n inductionHypothesis =>
    rcases Nat.lt_or_ge n 16 with small | large
    · rw [Nat.toDigits_of_lt_base small, ← List.nil_append [_], number?_concat,
        value?_digitChar small]
      exact congrArg some (Nat.zero_add n)
    · rw [Nat.toDigits_of_base_le (by decide) large, number?_concat,
        inductionHypothesis (n / 16) (Nat.div_lt_self (by omega) (by decide)),
        value?_digitChar (Nat.mod_lt n (by decide))]
      exact congrArg some (Nat.div_add_mod n 16)

theorem number?_zeros (count : Nat) (digits : Text) :
    number? (List.replicate count '0' ++ digits) = number? digits := by
  induction count with
  | zero => rfl
  | succ count inductionHypothesis => exact inductionHypothesis

theorem number?_padded (width n : Nat) : number? (padded width n) = some n := by
  rw [padded, number?_zeros, number?_toDigits]

theorem length_padded {width n : Nat} (positive : 0 < width) (fits : n < 16 ^ width) :
    (padded width n).length = width := by
  have short := (Nat.length_toDigits_le_iff (by decide) positive).mpr fits
  rw [padded, List.length_append, List.length_replicate]
  omega

end Hexadecimal

namespace Json

/-! ## Escapes -/

section

variable {rest : Text}

/-- A unit that is no half of a pair is read from its escape. -/
theorem readUnicodeEscape_unit {code : Nat} (fits : code < 0xd800 ∨ 0xe000 ≤ code ∧ code < 0x10000)
    (more : rest ≠ []) (mark : Nat) :
    readUnicodeEscape mark (Hexadecimal.padded 4 code ++ rest) = .ok (Char.ofNat code, 4) := by
  have length : (Hexadecimal.padded 4 code).length = 4 :=
    Hexadecimal.length_padded (by decide) (by omega)
  have long : ¬ (Hexadecimal.padded 4 code ++ rest).length < 5 := by
    have := List.length_pos_of_ne_nil more
    rw [List.length_append, length]
    omega
  unfold readUnicodeEscape
  dsimp only
  rw [if_neg long, List.take_left' length, Hexadecimal.number?_padded]
  dsimp only
  rw [if_neg (by omega), if_neg (by omega)]
  rfl

/-- A character beyond 16 bits is read from its two halves. -/
theorem readUnicodeEscape_pair {above : Nat} (fits : above < 0x100000) (more : rest ≠ [])
    (mark : Nat) :
    readUnicodeEscape mark (Hexadecimal.padded 4 (0xd800 + above / 0x400) ++
      (escapeUnit (0xdc00 + above % 0x400) ++ rest)) = .ok (Char.ofNat (0x10000 + above), 10) := by
  have first : (Hexadecimal.padded 4 (0xd800 + above / 0x400)).length = 4 :=
    Hexadecimal.length_padded (by decide) (by omega)
  have second : (Hexadecimal.padded 4 (0xdc00 + above % 0x400)).length = 4 :=
    Hexadecimal.length_padded (by decide) (by omega)
  have filled := List.length_pos_of_ne_nil more
  have size : (escapeUnit (0xdc00 + above % 0x400) ++ rest).length = 6 + rest.length := by
    rw [escapeUnit, List.length_append, List.length_cons, List.length_cons, second]
  have long : ¬ (Hexadecimal.padded 4 (0xd800 + above / 0x400) ++
      (escapeUnit (0xdc00 + above % 0x400) ++ rest)).length < 5 := by
    rw [List.length_append, first, size]
    omega
  have half : 0xd800 ≤ 0xd800 + above / 0x400 ∧ 0xd800 + above / 0x400 < 0xdc00 ∧
      6 < (escapeUnit (0xdc00 + above % 0x400) ++ rest).length ∧
      Text.startsWith ['\\', 'u'] (escapeUnit (0xdc00 + above % 0x400) ++ rest) := by
    rw [size]
    exact ⟨by omega, by omega, by omega, rfl⟩
  have other : (escapeUnit (0xdc00 + above % 0x400) ++ rest).drop 2 =
      Hexadecimal.padded 4 (0xdc00 + above % 0x400) ++ rest := rfl
  have code : 0x10000 + (0xd800 + above / 0x400 - 0xd800) * 0x400 +
      (0xdc00 + above % 0x400 - 0xdc00) = 0x10000 + above := by omega
  unfold readUnicodeEscape
  dsimp only
  rw [if_neg long, List.take_left' first, List.drop_left' first, Hexadecimal.number?_padded]
  dsimp only
  rw [if_pos half, other, List.take_left' second, Hexadecimal.number?_padded]
  dsimp only
  rw [if_pos (by omega), code]
  rfl

/-! ## Characters -/

/-- What belongs to an escape is passed over. -/
theorem readStringFrom_skip (start offset : Nat) (part rest : Text) :
    readStringFrom start offset part.length (part ++ rest) =
      readStringFrom start (offset + part.length) 0 rest := by
  induction part generalizing offset with
  | nil => rfl
  | cons c part inductionHypothesis =>
    rw [List.length_cons, List.cons_append, readStringFrom, inductionHypothesis, Nat.add_assoc,
      Nat.add_comm 1]

/-- In front of a text, a character is read from what was written for it. -/
def ReadsChar (start : Nat) (c : Char) (written rest : Text) : Prop :=
  ∀ offset, readStringFrom start offset 0 (written ++ rest) = do
    let (others, cursor) ← readStringFrom start (offset + written.length) 0 rest
    pure (c :: others, cursor)

theorem readsChar_escape {letter c : Char} (simple : simpleEscape? letter = some c) (start : Nat)
    (rest : Text) : ReadsChar start c ['\\', letter] rest := by
  intro offset
  have skipped := readStringFrom_skip start (offset + 1) [letter] rest
  simp only [List.length_singleton, List.singleton_append] at skipped
  have other : letter ≠ 'u' := by
    rintro rfl
    cases simple
  rw [List.cons_append, List.singleton_append, readStringFrom, if_neg (by decide),
    if_neg (by decide), if_pos rfl, simple]
  · simp only [skipped, Nat.add_assoc]
    rfl
  · exact other

theorem readsChar_unicode {digits : Text} {c : Char}
    (read : ∀ mark, readUnicodeEscape mark (digits ++ rest) = .ok (c, digits.length))
    (start : Nat) : ReadsChar start c ('\\' :: 'u' :: digits) rest := by
  intro offset
  have skipped := readStringFrom_skip start (offset + 1) ('u' :: digits) rest
  rw [List.length_cons, List.cons_append] at skipped
  rw [List.cons_append, List.cons_append, readStringFrom, if_neg (by decide),
    if_neg (by decide), if_pos rfl]
  dsimp only
  rw [read]
  simp only [List.length_cons, bind, Except.bind, skipped, Nat.add_assoc, Nat.add_comm]

theorem readsChar_self {c : Char} (plain : c ≠ '"' ∧ c ≠ '\\' ∧ 0x20 ≤ c.toNat) (start : Nat)
    (rest : Text) : ReadsChar start c [c] rest := by
  intro offset
  rw [List.singleton_append]
  conv_lhs => unfold readStringFrom
  dsimp only
  rw [if_neg plain.1, if_neg (by omega), if_neg plain.2.1]
  rfl

theorem readsChar_escapeUnit {c : Char} (small : c.toNat < 0x10000) (more : rest ≠ [])
    (start : Nat) : ReadsChar start c (escapeUnit c.toNat) rest := by
  have length : (Hexadecimal.padded 4 c.toNat).length = 4 :=
    Hexadecimal.length_padded (by decide) small
  refine readsChar_unicode (fun mark => ?_) start
  have valid : c.toNat < 0xd800 ∨ 0xdfff < c.toNat ∧ c.toNat < 0x110000 := c.valid
  rw [readUnicodeEscape_unit (by omega) more, length, Char.ofNat_toNat]

theorem escapeChar_of_large {c : Char} {above : Nat} (code : c.toNat = 0x10000 + above) :
    escapeChar c = '\\' :: 'u' :: (Hexadecimal.padded 4 (0xd800 + above / 0x400) ++
      escapeUnit (0xdc00 + above % 0x400)) := by
  have rest : c.toNat - 0x10000 = above := by omega
  unfold escapeChar
  rw [if_neg (by omega), rest]
  rfl

theorem readsChar_escapeChar (c : Char) (more : rest ≠ []) (start : Nat) :
    ReadsChar start c (escapeChar c) rest := by
  rcases Nat.lt_or_ge c.toNat 0x10000 with small | large
  · rw [escapeChar, if_pos small]
    exact readsChar_escapeUnit small more start
  · have valid : c.toNat < 0xd800 ∨ 0xdfff < c.toNat ∧ c.toNat < 0x110000 := c.valid
    obtain ⟨above, code⟩ := Nat.exists_eq_add_of_le large
    have length : (Hexadecimal.padded 4 (0xd800 + above / 0x400) ++
        escapeUnit (0xdc00 + above % 0x400)).length = 10 := by
      rw [escapeUnit, List.length_append, List.length_cons, List.length_cons,
        Hexadecimal.length_padded (by decide) (by omega),
        Hexadecimal.length_padded (by decide) (by omega)]
    have fits : above < 0x100000 := by omega
    rw [escapeChar_of_large code]
    refine readsChar_unicode (fun mark => ?_) start
    rw [List.append_assoc, readUnicodeEscape_pair fits more mark, length, ← code, Char.ofNat_toNat]

/-- Every character is read as it was written. -/
theorem readsChar_writeChar (asciiOnly : Bool) (c : Char) (more : rest ≠ []) (start : Nat) :
    ReadsChar start c (writeChar asciiOnly c) rest := by
  unfold writeChar
  split_ifs with quote backslash feed carriage tab form backspace control beyond
  · subst quote
    exact readsChar_escape rfl start rest
  · subst backslash
    exact readsChar_escape rfl start rest
  · subst feed
    exact readsChar_escape rfl start rest
  · subst carriage
    exact readsChar_escape rfl start rest
  · subst tab
    exact readsChar_escape rfl start rest
  · subst form
    exact readsChar_escape rfl start rest
  · subst backspace
    exact readsChar_escape rfl start rest
  · exact readsChar_escapeUnit (by omega) more start
  · exact readsChar_escapeChar c more start
  · exact readsChar_self ⟨quote, backslash, by omega⟩ start rest

/-! ## Strings -/

theorem readStringFrom_written (asciiOnly : Bool) (chars : List Char) (start offset : Nat)
    (rest : Text) :
    readStringFrom start offset 0 (chars.flatMap (writeChar asciiOnly) ++ '"' :: rest) =
      .ok (chars, ⟨offset + (chars.flatMap (writeChar asciiOnly)).length + 1, rest⟩) := by
  induction chars generalizing offset with
  | nil => rfl
  | cons c chars inductionHypothesis =>
    rw [List.flatMap_cons, List.append_assoc, readsChar_writeChar asciiOnly c (by simp) start,
      inductionHypothesis, List.length_append, ← Nat.add_assoc]
    rfl

end

end Json

end HomeConfig
