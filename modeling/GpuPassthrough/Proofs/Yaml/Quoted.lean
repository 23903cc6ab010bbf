import GpuPassthrough.Yaml.Line
import Mathlib.Tactic.Ring

/-!
# Quoted Scalars Read Back

Between single quotes a text without line ends loses nothing but that its quotes are doubled, and
between double quotes every text comes back, since each of its characters is either written as it
is or as an escape for it.

## Main results

* `readSingle?_doubled`: what is read back between single quotes.
* `readDouble?_hexDigits`: hexadecimal digits are read back as their number.
* `readDouble?_escaped`: what is read back between double quotes.
-/

namespace GpuPassthrough.Yaml

variable {s rest : List Char} {c : Char}

/-! ### Between single quotes -/

/-- A character between single quotes. -/
def singleQuotedChar (c : Char) : List Char := if c == '\x27' then [c, c] else [c]

/-- Without line ends, every character is written for itself. -/
theorem singleQuotedChars_eq_flatMap (indent : Nat) (h : ∀ c ∈ s, isBreak c = false) :
    singleQuotedChars indent false s = s.flatMap singleQuotedChar := by
  induction s with
  | nil => rfl
  | cons c rest ih =>
    rw [List.forall_mem_cons] at h
    rw [singleQuotedChars, if_neg (by simp [h.1]), ih h.2, List.flatMap_cons]
    rfl

/-- **What is written between single quotes is read back.** -/
theorem readSingle?_doubled (s : List Char) :
    readSingle? false (s.flatMap singleQuotedChar ++ ['\x27']) = some (s, []) := by
  induction s with
  | nil => rfl
  | cons c rest ih =>
    rw [List.flatMap_cons, List.append_assoc]
    by_cases hquote : c = '\x27'
    · subst hquote
      exact congrArg (Option.map (prepend '\x27')) ih
    · simp [singleQuotedChar, hquote, readSingle?, ih, prepend]

/-! ### Between double quotes -/

/-- A digit has its value. -/
theorem digit?_upperHexDigit {n : Nat} (h : n < 16) :
    Text.digit? 16 (upperHexDigit n) = some n := by
  have hall : ∀ n : Fin 16, Text.digit? 16 (upperHexDigit n) = some n.val := by decide
  exact hall ⟨n, h⟩

/-- **Hexadecimal digits are read back as their number**, in front of further digits. -/
theorem readDouble?_hexDigits {width n left : Nat} (value : Nat) (h : n < 16 ^ width)
    (hleft : 0 < left) (rest : List Char) :
    readDouble? (.digits (width + left) value) (hexDigits width n ++ rest) =
      readDouble? (.digits left (value * 16 ^ width + n)) rest := by
  induction width generalizing n left rest with
  | zero =>
    obtain rfl : n = 0 := by simpa using h
    simp [hexDigits]
  | succ width ih =>
    have hn : n / 16 < 16 ^ width := by
      rw [Nat.div_lt_iff_lt_mul (by omega), ← Nat.pow_succ]
      exact h
    have hvalue : (value * 16 ^ width + n / 16) * 16 + n % 16 = value * 16 ^ (width + 1) + n := by
      have hdiv := Nat.div_add_mod n 16
      rw [Nat.pow_succ, Nat.add_mul, Nat.mul_assoc]
      omega
    have hmore : ¬ left + 1 ≤ 1 := by omega
    rw [hexDigits, List.append_assoc, Nat.add_right_comm, Nat.add_assoc, ih hn (by omega),
      List.singleton_append, readDouble?, digit?_upperHexDigit (Nat.mod_lt n (by omega))]
    simp only [hmore, if_false, Nat.add_sub_cancel, hvalue]

/-- The number of a character is that of the character. -/
theorem charOf?_toNat (c : Char) : charOf? c.toNat = some c := by
  have hvalid : c.toNat.isValidChar := c.valid
  rw [charOf?, if_pos hvalid, Char.ofNat_toNat]

/-- The digits of a character are read back as the character. -/
theorem readDouble?_char {width : Nat} (h : c.toNat < 16 ^ (width + 1)) (rest : List Char) :
    readDouble? (.digits (width + 1) 0) (hexDigits (width + 1) c.toNat ++ rest) =
      (readDouble? .text rest).map (prepend c) := by
  have hn : c.toNat / 16 < 16 ^ width := by
    rw [Nat.div_lt_iff_lt_mul (by omega), ← Nat.pow_succ]
    exact h
  have hvalue : (0 * 16 ^ width + c.toNat / 16) * 16 + c.toNat % 16 = c.toNat := by
    omega
  rw [hexDigits, List.append_assoc, readDouble?_hexDigits 0 hn (by omega), List.singleton_append,
    readDouble?, digit?_upperHexDigit (Nat.mod_lt _ (by omega))]
  simp only [Nat.le_refl, if_true, hvalue, charOf?_toNat]

/-- The letters that the writer uses are read back as what they stand for. -/
theorem escapedLetters_of_mem {c letter : Char} (h : (c, letter) ∈ letterEscapes) :
    escapedNumbers.lookup letter = none ∧ escapedLetters.lookup letter = some c := by
  have hall : ∀ p ∈ letterEscapes,
      escapedNumbers.lookup p.2 = none ∧ escapedLetters.lookup p.2 = some p.1 := by decide
  exact hall _ h

/-- An escape is read back as its character. -/
theorem readDouble?_escape (c : Char) (rest : List Char) :
    readDouble? .text (escape c ++ rest) = (readDouble? .text rest).map (prepend c) := by
  have hnumber {width : Nat} {letter : Char}
      (hletter : escapedNumbers.lookup letter = some (width + 1))
      (h : c.toNat < 16 ^ (width + 1)) :
      readDouble? .text ('\\' :: letter :: hexDigits (width + 1) c.toNat ++ rest) =
        (readDouble? .text rest).map (prepend c) := by
    rw [← readDouble?_char h]
    simp [readDouble?, hletter]
  rw [escape]
  split
  · next letter hlookup =>
    obtain ⟨before, after, hsplit, -⟩ := List.lookup_eq_some_iff.1 hlookup
    have hmem : (c, letter) ∈ letterEscapes := by simp [hsplit]
    obtain ⟨hno, hletter⟩ := escapedLetters_of_mem hmem
    simp [readDouble?, hno, hletter]
  · have hmax : c.toNat < 16 ^ 8 := Nat.lt_of_lt_of_le c.val.toNat_lt (by decide)
    dsimp only
    split
    · next hbyte => exact hnumber rfl (Nat.lt_of_le_of_lt hbyte (by decide))
    · split
      · next hword => exact hnumber rfl (Nat.lt_of_le_of_lt hword (by decide))
      · exact hnumber rfl hmax

/-- A character between double quotes is read back. -/
theorem readDouble?_doubleQuotedChar (c : Char) (rest : List Char) :
    readDouble? .text (doubleQuotedChar c ++ rest) = (readDouble? .text rest).map (prepend c) := by
  rw [doubleQuotedChar]
  split
  · exact readDouble?_escape c rest
  · next hplain =>
    simp only [Bool.or_eq_true, not_or, beq_iff_eq] at hplain
    simp [readDouble?, hplain]

/-- **What is written between double quotes is read back.** -/
theorem readDouble?_escaped (s : List Char) :
    readDouble? .text (s.flatMap doubleQuotedChar ++ ['\x22']) = some (s, []) := by
  induction s with
  | nil => rfl
  | cons c rest ih =>
    rw [List.flatMap_cons, List.append_assoc, readDouble?_doubleQuotedChar, ih]
    rfl

end GpuPassthrough.Yaml
