import DateShorthand.Json.Reader
import DateShorthand.Json.Writer
import DateShorthand.Proofs.Outcome
import DateShorthand.Proofs.Text.Terminal
import Mathlib.Algebra.Group.Nat.Defs
import Mathlib.Tactic.Common

/-!
# Strings in JSON

A string written with escapes for everything beyond ASCII is read back as it was. Every character is
written as one piece, and the reader takes the pieces off one by one.
-/

namespace DateShorthand.Json

open Text (hex hexDigit IsLine)

/-! ## Hexadecimal digits -/

theorem hexValue?_hexDigit (n : Nat) : hexValue? (hexDigit n) = some (n % 16) := by
  have hall : ∀ d < 16, hexValue? (Nat.digitChar d) = some d := by decide
  exact hall _ (Nat.mod_lt n (by decide))

theorem hexNumber?_append_hexDigit (digits : Text) (n : Nat) :
    hexNumber? (digits ++ [hexDigit n]) = (hexNumber? digits).map fun high => 16 * high + n % 16 := by
  rw [hexNumber?, hexNumber?, List.mapM_append]
  cases digits.mapM hexValue? with
  | none => rfl
  | some values => simp [hexValue?_hexDigit]

theorem hexNumber?_hex (width n : Nat) : hexNumber? (hex width n) = some (n % 16 ^ width) := by
  induction width generalizing n with
  | zero => simp [hex, hexNumber?, Nat.mod_one]
  | succ width ih =>
    rw [hex, hexNumber?_append_hexDigit, ih, Option.map_some, Nat.pow_succ', Nat.mod_mul, Nat.add_comm]

/-! ## Pieces -/

variable {start : Nat} {done rest : Text} {position : Nat} {c x : Char}

theorem stringFrom_quote : stringFrom start done position ('"' :: rest)
    = .ok (done.reverse, ⟨position + 1, rest⟩) := rfl

theorem stringFrom_plain (hquote : c ≠ '"') (hslash : c ≠ '\\') (hcontrol : ¬ c.toNat ≤ 0x1f) :
    stringFrom start done position (c :: rest) = stringFrom start (c :: done) (position + 1) rest := by
  rw [stringFrom, if_neg hcontrol] <;> simp_all

theorem stringFrom_short {d : Char} (hescaped : escapedChar? c = some d) :
    stringFrom start done position ('\\' :: c :: rest) = stringFrom start (d :: done) (position + 2) rest := by
  have hunit : c ≠ 'u' := by
    rintro rfl
    simp [escapedChar?] at hescaped
  rw [stringFrom, hescaped] <;> simp_all

theorem exists_unitEscape {n : Nat} (hn : n < 0x10000) :
    ∃ a b c d, unitEscape n = ['\\', 'u', a, b, c, d] ∧ hexNumber? [a, b, c, d] = some n := by
  have hfits : n < 16 ^ 4 := hn
  refine ⟨_, _, _, _, rfl, (hexNumber?_hex 4 n).trans ?_⟩
  rw [Nat.mod_eq_of_lt hfits]

/-- A code unit that is no first half of a pair stands for a character by itself. -/
theorem stringFrom_unit {n : Nat} (hn : n < 0x10000) (hhigh : isHighSurrogate n = false) :
    stringFrom start done position (unitEscape n ++ x :: rest)
      = stringFrom start (ofUnit n :: done) (position + 6) (x :: rest) := by
  obtain ⟨a, b, c, d, hescape, hnumber⟩ := exists_unitEscape hn
  rw [hescape, stringFrom.eq_def]
  simp only [List.cons_append, List.nil_append, hnumber]
  -- whether another escape follows or not, nothing more than this one is taken
  split
  · contradiction
  · rename_i heq
    cases heq
    simp [hhigh]
  · rename_i heq _
    cases heq
    rfl

theorem stringFrom_pair {high low : Nat} (hhigh : isHighSurrogate high = true)
    (hlow : isLowSurrogate low = true) :
    stringFrom start done position (unitEscape high ++ unitEscape low ++ x :: rest)
      = stringFrom start (ofPair high low :: done) (position + 12) (x :: rest) := by
  simp only [isHighSurrogate, isLowSurrogate, Bool.and_eq_true, decide_eq_true_eq] at hhigh hlow
  obtain ⟨a, b, c, d, hescape, hnumber⟩ := exists_unitEscape (n := high) (by omega)
  obtain ⟨e, f, g, h, hescape', hnumber'⟩ := exists_unitEscape (n := low) (by omega)
  rw [hescape, hescape', stringFrom.eq_def]
  simp [hnumber, hnumber', isHighSurrogate, isLowSurrogate, hhigh, hlow]

/-! ## Whole strings -/

theorem ofUnit_toNat (c : Char) : isHighSurrogate c.toNat = false ∧ ofUnit c.toNat = c := by
  have hvalid : c.toNat < 0xd800 ∨ 0xdfff < c.toNat := by
    rcases c.valid with h | h
    · exact Or.inl h
    · exact Or.inr h.1
  have hhigh : isHighSurrogate c.toNat = false := by
    simp only [isHighSurrogate, Bool.and_eq_false_iff, decide_eq_false_iff_not]
    omega
  have hlow : isLowSurrogate c.toNat = false := by
    simp only [isLowSurrogate, Bool.and_eq_false_iff, decide_eq_false_iff_not]
    omega
  rw [ofUnit, hhigh, hlow]
  exact ⟨rfl, Char.ofNat_toNat c⟩

/-- How a character is written: by a short escape, by one code unit, as it is, or by a pair. -/
theorem escaped_cases (c : Char) :
    (∃ d, escapedChar? d = some c ∧ escaped true c = ['\\', d]) ∨
      (c.toNat < 0x10000 ∧ escaped true c = unitEscape c.toNat) ∨
      ((c ≠ '"' ∧ c ≠ '\\' ∧ ¬ c.toNat ≤ 0x1f) ∧ escaped true c = [c]) ∨
      (0x10000 ≤ c.toNat ∧ escaped true c = unitEscape (0xd800 + (c.toNat - 0x10000) / 0x400)
        ++ unitEscape (0xdc00 + (c.toNat - 0x10000) % 0x400)) := by
  generalize hpiece : escaped true c = piece
  simp only [escaped, Bool.not_true, Bool.or_false, decide_eq_true_eq] at hpiece
  split_ifs at hpiece with hquote hbreak hreturn htab hback hfeed hcontrol hascii hbasic <;> subst hpiece
  · exact Or.inl ⟨c, by rcases hquote with rfl | rfl <;> rfl, rfl⟩
  · exact Or.inl ⟨'n', hbreak ▸ rfl, rfl⟩
  · exact Or.inl ⟨'r', hreturn ▸ rfl, rfl⟩
  · exact Or.inl ⟨'t', htab ▸ rfl, rfl⟩
  · exact Or.inl ⟨'b', hback ▸ rfl, rfl⟩
  · exact Or.inl ⟨'f', hfeed ▸ rfl, rfl⟩
  · exact Or.inr (Or.inl ⟨by omega, rfl⟩)
  · rw [not_or] at hquote
    exact Or.inr (Or.inr (Or.inl ⟨⟨hquote.1, hquote.2, by omega⟩, rfl⟩))
  · exact Or.inr (Or.inl ⟨hbasic, rfl⟩)
  · exact Or.inr (Or.inr (Or.inr ⟨by omega, rfl⟩))

/-- The piece of a character is read as that character. -/
theorem stringFrom_escaped (start : Nat) (done : Text) (position : Nat) (c x : Char) (rest : Text) :
    ∃ position', stringFrom start done position (escaped true c ++ x :: rest)
      = stringFrom start (c :: done) position' (x :: rest) := by
  obtain ⟨d, hd, heq⟩ | ⟨hbasic, heq⟩ | ⟨⟨hquote, hslash, hcontrol⟩, heq⟩ | ⟨hbeyond, heq⟩ :=
    escaped_cases c <;> rw [heq]
  · exact ⟨_, stringFrom_short hd⟩
  · obtain ⟨hhigh, hself⟩ := ofUnit_toNat c
    exact ⟨_, by rw [stringFrom_unit hbasic hhigh, hself]⟩
  · exact ⟨_, stringFrom_plain hquote hslash hcontrol⟩
  · have hlimit : c.toNat < 0x110000 := by
      rcases c.valid with h | h
      · exact Nat.lt_trans h (by decide)
      · exact h.2
    have hpair : ofPair (0xd800 + (c.toNat - 0x10000) / 0x400) (0xdc00 + (c.toNat - 0x10000) % 0x400) = c := by
      rw [ofPair, Nat.add_sub_cancel_left, Nat.add_sub_cancel_left, Nat.add_assoc, Nat.div_add_mod',
        Nat.add_sub_cancel' hbeyond, Char.ofNat_toNat]
    refine ⟨_, (stringFrom_pair ?_ ?_).trans (by rw [hpair])⟩
    · simp only [isHighSurrogate, Bool.and_eq_true, decide_eq_true_eq]
      omega
    · simp only [isLowSurrogate, Bool.and_eq_true, decide_eq_true_eq]
      omega

/-- A written string is read as the text that it was written for. -/
theorem stringFrom_flatMap (start : Nat) (done : Text) (position : Nat) (t rest : Text) :
    ∃ position', stringFrom start done position (t.flatMap (escaped true) ++ '"' :: rest)
      = .ok (done.reverse ++ t, ⟨position', rest⟩) := by
  induction t generalizing done position with
  | nil => exact ⟨_, by rw [List.flatMap_nil, List.nil_append, stringFrom_quote, List.append_nil]⟩
  | cons c t ih =>
    rw [List.flatMap_cons, List.append_assoc]
    obtain ⟨x, rest', hrest⟩ : ∃ x rest', t.flatMap (escaped true) ++ '"' :: rest = x :: rest' :=
      List.exists_cons_of_ne_nil (by simp)
    obtain ⟨position', hstep⟩ := stringFrom_escaped start done position c x rest'
    obtain ⟨position'', hread⟩ := ih (c :: done) position'
    exact ⟨position'', by rw [hrest, hstep, ← hrest, hread, List.reverse_cons, List.append_assoc,
      List.singleton_append]⟩

/-! ## Control characters -/

theorem isLine_hexDigit (n : Nat) : 0x20 ≤ (hexDigit n).toNat := by
  have hall : ∀ d < 16, 0x20 ≤ (Nat.digitChar d).toNat := by decide
  exact hall _ (Nat.mod_lt n (by decide))

theorem isLine_unitEscape (n : Nat) : IsLine (unitEscape n) := by
  simp [unitEscape, hex, isLine_hexDigit]

theorem isLine_escaped (c : Char) : IsLine (escaped true c) := by
  obtain ⟨d, hd, heq⟩ | ⟨-, heq⟩ | ⟨⟨-, -, hcontrol⟩, heq⟩ | ⟨-, heq⟩ := escaped_cases c <;> rw [heq]
  · have hletter : 0x20 ≤ d.toNat := by
      unfold escapedChar? at hd
      split at hd <;> first | decide | cases hd
    simp [hletter]
  · exact isLine_unitEscape _
  · rw [Text.isLine_cons]
    exact ⟨by omega, Text.isLine_nil⟩
  · simp [isLine_unitEscape]

theorem isLine_writeText (t : Text) : IsLine (writeText true t) := by
  have hpieces : IsLine (t.flatMap (escaped true)) := by
    intro c hc
    obtain ⟨d, -, hmem⟩ := List.mem_flatMap.mp hc
    exact isLine_escaped d c hmem
  simp [writeText, hpieces]

theorem not_mem_writeText (t : Text) : '\r' ∉ writeText true t := (isLine_writeText t).not_mem (by decide)

end DateShorthand.Json
