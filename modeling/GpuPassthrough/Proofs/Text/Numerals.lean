import GpuPassthrough.Text.Numeral
import Mathlib.Data.List.Forall2
import Mathlib.Data.Nat.Digits.Defs

/-!
# What Numerals Say

A numeral is an optional plus sign and at least one digit, of either case where the digits are
letters, and stands for the number that has these digits in its radix. A text is read as a number
below a limit exactly if it is a numeral of that number. Leading zeros do not count, and a numeral of
a number at or above the limit is refused as a whole: no part of it is read.

## Main results

* `digit?_eq_some_iff`: which characters are digits, and of which value.
* `readDigits_eq_ok_iff`: digits are read as the number that they stand for.
* `readNumeral_eq_ok_iff`: a text is read exactly if it is a numeral of a number below the limit.
* `isNumeral_toString`: a number in decimal is a numeral of it.
-/

namespace GpuPassthrough.Text

/-- **A digit of a radix up to sixteen**, in lower or in upper case, with its value. -/
def IsDigit (radix : Nat) (c : Char) (value : Nat) : Prop :=
  value < radix ∧ (c = hexDigit value ∨ c = (hexDigit value).toUpper)

/-- **A numeral of a number**: an optional plus sign and the digits of the number, of which there is
at least one, the most significant first. -/
def IsNumeral (radix : Nat) (s : List Char) (n : Nat) : Prop :=
  ∃ sign digits values, s = sign ++ digits ∧ (sign = [] ∨ sign = ['+']) ∧ digits ≠ [] ∧
    List.Forall₂ (IsDigit radix) digits values ∧ n = Nat.ofDigits radix values.reverse

/-- What is skipped in front of a text is skipped, and nothing of the text. -/
theorem dropWhile_append {p : Char → Bool} {skipped s : List Char}
    (hskipped : ∀ c ∈ skipped, p c = true) (hhead : ∀ c, s.head? = some c → p c = false) :
    (skipped ++ s).dropWhile p = s := by
  rw [List.dropWhile_append_of_pos hskipped]
  cases s with
  | nil => rfl
  | cons c rest =>
    rw [List.dropWhile_cons_of_neg]
    rw [hhead c rfl]
    exact Bool.false_ne_true

/-! ### Digits -/

/-- A character has the number of another one only if it is that one. -/
theorem eq_ofNat_of_toNat {c : Char} {n : Nat} (hc : c.toNat = n) : c = Char.ofNat n := by
  rw [← hc, Char.ofNat_toNat]

/-- The value of a hexadecimal digit. -/
theorem digit?_hexDigit {value : Nat} (hvalue : value < 16) :
    digit? 16 (hexDigit value) = some value ∧ digit? 16 (hexDigit value).toUpper = some value := by
  have hall : ∀ n : Fin 16, digit? 16 (hexDigit n) = some n.val ∧
      digit? 16 (hexDigit n).toUpper = some n.val := by decide
  exact hall ⟨value, hvalue⟩

/-- The digits of a radix up to sixteen are the hexadecimal digits below the radix. -/
theorem digit?_eq_some_iff_hex {radix : Nat} (hradix : radix ≤ 16) {c : Char} {value : Nat} :
    digit? radix c = some value ↔ value < radix ∧ digit? 16 c = some value := by
  simp only [digit?]
  split
  · simp only [Option.ite_none_right_eq_some, Option.some.injEq]
    omega
  split
  · simp only [Option.ite_none_right_eq_some, Option.some.injEq]
    omega
  split
  · simp only [Option.ite_none_right_eq_some, Option.some.injEq]
    omega
  · simp

/-- A hexadecimal digit is a digit or one of the first letters, in either case. -/
theorem isDigit_of_digit? {c : Char} {value : Nat} (hdigit : digit? 16 c = some value) :
    IsDigit 16 c value := by
  have hupper : ∀ n : Fin 16, 10 ≤ n.val → (hexDigit n).toUpper = Char.ofNat (55 + n) := by decide
  simp only [digit?, Option.ite_none_right_eq_some, Option.some.injEq] at hdigit
  obtain ⟨hlt, rfl⟩ := hdigit
  refine ⟨hlt, ?_⟩
  split at hlt
  · rw [if_pos ‹_›, hexDigit, if_pos (by omega)]
    exact .inl (eq_ofNat_of_toNat (by omega))
  · split at hlt
    · rw [if_neg ‹_›, if_pos ‹_›, hexDigit, if_neg (by omega)]
      exact .inl (eq_ofNat_of_toNat (by omega))
    · split at hlt
      · rw [if_neg ‹_›, if_neg ‹_›, if_pos ‹_›, hupper ⟨_, hlt⟩ (by dsimp only; omega)]
        exact .inr (eq_ofNat_of_toNat (by dsimp only; omega))
      · exact absurd hlt (Nat.lt_irrefl 16)

/-- **Which characters are digits**, and of which value. -/
theorem digit?_eq_some_iff {radix : Nat} (hradix : radix ≤ 16) {c : Char} {value : Nat} :
    digit? radix c = some value ↔ IsDigit radix c value := by
  rw [digit?_eq_some_iff_hex hradix]
  refine and_congr_right fun hlt => ?_
  constructor
  · exact fun hdigit => (isDigit_of_digit? hdigit).2
  · obtain ⟨hlower, hupper⟩ := digit?_hexDigit (Nat.lt_of_lt_of_le hlt hradix)
    rintro (rfl | rfl)
    · exact hlower
    · exact hupper

/-! ### Digits in a row -/

variable {radix limit : Nat} {s : List Char} {n : Nat}

/-- The number of some digits after others, the first of them taken to the others. -/
theorem digits_after (radix value first : Nat) (values : List Nat) :
    value * radix ^ (first :: values).length + Nat.ofDigits radix (first :: values).reverse =
      (value * radix + first) * radix ^ values.length + Nat.ofDigits radix values.reverse := by
  rw [Nat.ofDigits_reverse_cons, List.length_cons, Nat.pow_succ]
  ring

/-- **Digits are read as the number that they stand for**, after those that were read before them,
if that is below the limit. -/
theorem readDigits_eq_ok_iff (hradix : 0 < radix) (hlow : radix ≤ 16) {value : Nat}
    (hvalue : value < limit) {digits : List Char} :
    readDigits radix limit value digits = .ok n ↔ ∃ values,
      List.Forall₂ (IsDigit radix) digits values ∧
        n = value * radix ^ values.length + Nat.ofDigits radix values.reverse ∧ n < limit := by
  induction digits generalizing value with
  | nil =>
    simp only [readDigits, Except.ok.injEq, List.forall₂_nil_left_iff, exists_eq_left,
      List.length_nil, Nat.pow_zero, Nat.mul_one, List.reverse_nil, Nat.ofDigits_nil, Nat.add_zero]
    constructor
    · rintro rfl
      exact ⟨rfl, hvalue⟩
    · rintro ⟨heq, -⟩
      exact heq.symm
  | cons c rest ih =>
    simp only [List.forall₂_cons_left_iff]
    rw [readDigits]
    cases hdigit : digit? radix c with
    | none =>
      refine iff_of_false (fun hread => by cases hread) ?_
      rintro ⟨_, ⟨first, values, hfirst, -, rfl⟩, -⟩
      cases hdigit.symm.trans ((digit?_eq_some_iff hlow).2 hfirst)
    | some digit =>
      have hfirst := (digit?_eq_some_iff hlow).1 hdigit
      have hunique : ∀ first, IsDigit radix c first → first = digit := fun first hother =>
        Option.some.inj (((digit?_eq_some_iff hlow).2 hother).symm.trans hdigit)
      dsimp only
      split
      · next hlimit =>
        rw [ih hlimit]
        constructor
        · rintro ⟨values, hvalues, heq, hlt⟩
          exact ⟨_, ⟨digit, values, hfirst, hvalues, rfl⟩, (digits_after ..).symm ▸ heq, hlt⟩
        · rintro ⟨_, ⟨first, values, hother, hvalues, rfl⟩, heq, hlt⟩
          obtain rfl := hunique first hother
          exact ⟨values, hvalues, digits_after .. ▸ heq, hlt⟩
      · next hlimit =>
        -- What was read so far is at least the limit, and the whole is no smaller.
        refine iff_of_false (fun hread => by cases hread) ?_
        rintro ⟨_, ⟨first, values, hother, -, rfl⟩, heq, hlt⟩
        obtain rfl := hunique first hother
        rw [digits_after] at heq
        have hpos : 0 < radix ^ values.length := Nat.pow_pos hradix
        have hsofar := Nat.le_mul_of_pos_right (value * radix + first) hpos
        omega

/-! ### Numerals -/

/-- A plus sign is no digit. -/
theorem not_isDigit_plus (hlow : radix ≤ 16) {value : Nat} : ¬ IsDigit radix '+' value := by
  rw [← digit?_eq_some_iff hlow, digit?_eq_some_iff_hex hlow]
  rintro ⟨-, hdigit⟩
  cases hdigit

/-- A text that starts with a plus sign is a numeral if digits follow. -/
theorem isNumeral_plus_iff (hlow : radix ≤ 16) {rest : List Char} :
    IsNumeral radix ('+' :: rest) n ↔ rest ≠ [] ∧ ∃ values,
      List.Forall₂ (IsDigit radix) rest values ∧ n = Nat.ofDigits radix values.reverse := by
  constructor
  · rintro ⟨sign, digits, values, htext, rfl | rfl, hne, hvalues, hn⟩
    · rw [List.nil_append] at htext
      rw [← htext] at hvalues
      obtain ⟨_, _, hplus, -⟩ := List.forall₂_cons_left_iff.1 hvalues
      exact absurd hplus (not_isDigit_plus hlow)
    · obtain rfl := (List.cons.inj htext).2
      exact ⟨hne, values, hvalues, hn⟩
  · rintro ⟨hne, values, hvalues, hn⟩
    exact ⟨['+'], rest, values, rfl, .inr rfl, hne, hvalues, hn⟩

/-- Any other text is a numeral if it has digits only. -/
theorem isNumeral_cons_iff {c : Char} (hc : c ≠ '+') {rest : List Char} :
    IsNumeral radix (c :: rest) n ↔ ∃ values,
      List.Forall₂ (IsDigit radix) (c :: rest) values ∧
        n = Nat.ofDigits radix values.reverse := by
  constructor
  · rintro ⟨sign, digits, values, htext, rfl | rfl, -, hvalues, hn⟩
    · rw [List.nil_append] at htext
      exact ⟨values, htext ▸ hvalues, hn⟩
    · exact absurd (List.cons.inj htext).1 hc
  · rintro ⟨values, hvalues, hn⟩
    exact ⟨[], c :: rest, values, rfl, .inl rfl, List.cons_ne_nil c rest, hvalues, hn⟩

/-- **A text is read as a number exactly if it is a numeral of it** that is below the limit. -/
theorem readNumeral_eq_ok_iff (hradix : 0 < radix) (hlow : radix ≤ 16) (hlimit : 0 < limit) :
    readNumeral radix limit s = .ok n ↔ IsNumeral radix s n ∧ n < limit := by
  have hdigits (digits : List Char) :=
    @readDigits_eq_ok_iff radix limit n hradix hlow 0 hlimit digits
  simp only [Nat.zero_mul, Nat.zero_add, ← and_assoc, exists_and_right] at hdigits
  rw [readNumeral.eq_def]
  split
  case h_1 =>
    refine iff_of_false nofun ?_
    rintro ⟨⟨sign, digits, values, htext, -, hne, -⟩, -⟩
    exact hne (List.append_eq_nil_iff.1 htext.symm).2
  case h_2 =>
    rw [isNumeral_plus_iff hlow]
    exact iff_of_false nofun fun hnumeral => hnumeral.1.1 rfl
  case h_3 rest hne =>
    rw [hdigits, isNumeral_plus_iff hlow]
    have hrest : rest ≠ [] := by
      rintro rfl
      exact hne rfl
    rw [and_iff_right hrest]
  case h_4 digits hempty _ hplus =>
    rw [hdigits]
    cases s with
    | nil => exact absurd rfl hempty
    | cons c rest =>
      have hc : c ≠ '+' := by
        rintro rfl
        exact hplus rest rfl
      rw [isNumeral_cons_iff hc]

/-- A numeral stands for one number. -/
theorem IsNumeral.unique (hradix : 0 < radix) (hlow : radix ≤ 16) {m : Nat}
    (hm : IsNumeral radix s m) (hn : IsNumeral radix s n) : m = n := by
  have hlimit : 0 < m + n + 1 := Nat.succ_pos _
  have hread := (readNumeral_eq_ok_iff hradix hlow hlimit).2 ⟨hm, by omega⟩
  have hread' := (readNumeral_eq_ok_iff hradix hlow hlimit).2 ⟨hn, by omega⟩
  exact Except.ok.inj (hread.symm.trans hread')

/-! ### Decimals -/

/-- A decimal digit has the value that it has among numbers. -/
theorem isDigit_ten {c : Char} (hc : c.isDigit = true) : IsDigit 10 c (c.toNat - '0'.toNat) := by
  obtain ⟨hlow, hhigh⟩ := Char.isDigit_iff_toNat.1 hc
  have hzero : '0'.toNat = 48 := rfl
  have hnine : '9'.toNat = 57 := rfl
  rw [hzero] at hlow ⊢
  rw [hnine] at hhigh
  refine ⟨by omega, .inl ?_⟩
  rw [hexDigit, if_pos (by omega)]
  exact eq_ofNat_of_toNat (by omega)

/-- Decimal digits have values, which make up their number. -/
theorem exists_values {digits : List Char} (hdigits : ∀ c ∈ digits, c.isDigit = true) (value : Nat) :
    ∃ values, List.Forall₂ (IsDigit 10) digits values ∧
      Nat.ofDigitChars 10 digits value =
        value * 10 ^ values.length + Nat.ofDigits 10 values.reverse := by
  induction digits generalizing value with
  | nil => exact ⟨[], .nil, by simp⟩
  | cons c rest ih =>
    obtain ⟨hc, hrest⟩ := List.forall_mem_cons.1 hdigits
    obtain ⟨values, hvalues, heq⟩ := ih hrest (value * 10 + (c.toNat - '0'.toNat))
    refine ⟨_, .cons (isDigit_ten hc) hvalues, ?_⟩
    rw [digits_after, Nat.ofDigitChars_cons, Nat.mul_comm 10, heq]

/-- **A number in decimal is a numeral of it.** -/
theorem isNumeral_toString (n : Nat) : IsNumeral 10 (toString n).toList n := by
  have hdigits : ∀ c ∈ Nat.toDigits 10 n, c.isDigit = true :=
    fun c hc => Nat.isDigit_of_mem_toDigits (by decide) (by decide) hc
  obtain ⟨values, hvalues, heq⟩ := exists_values hdigits 0
  rw [Nat.ofDigitChars_ten_toDigits, Nat.zero_mul, Nat.zero_add] at heq
  rw [Nat.toString_eq_ofList_toDigits, String.toList_ofList]
  exact ⟨[], _, values, rfl, .inl rfl, Nat.toDigits_ne_nil, hvalues, heq⟩

end GpuPassthrough.Text
