import GpuPassthrough.Proofs.Text.Numerals
import GpuPassthrough.Text.Decimal
import Mathlib.Algebra.Order.Field.Power
import Mathlib.Algebra.Order.Field.Rat
import Mathlib.Data.List.Induction
import Mathlib.Data.List.TakeWhile

/-!
# What Decimals Say

A decimal is digits before or after a point, or both, and behind them nothing or an exponent: a
mark, a sign or none, and digits. A text is read as a decimal exactly if it is one, and stands for
one number. How many digits a decimal has, the leading zeros apart, bounds its number from both
sides.

## Main results

* `Decimal.read?_eq_some_iff`: a text is read exactly if it is a decimal.
* `Decimal.value_lt`, `Decimal.le_value`: the digits of a decimal bound its number.
-/

namespace GpuPassthrough.Text

/-- Digits in a row, or nothing. -/
def AreDigits (s : List Char) : Prop :=
  ∀ c ∈ s, c.isDigit = true

/-- **An exponent** without its mark: digits with or without a sign. -/
inductive IsExponent : List Char → Int → Prop
  | unsigned {digits : List Char} (hdigits : AreDigits digits) (hne : digits ≠ []) :
      IsExponent digits (digitsValue digits)
  | plus {digits : List Char} (hdigits : AreDigits digits) (hne : digits ≠ []) :
      IsExponent ('+' :: digits) (digitsValue digits)
  | minus {digits : List Char} (hdigits : AreDigits digits) (hne : digits ≠ []) :
      IsExponent ('-' :: digits) (-(digitsValue digits : Int))

/-- **What may follow the digits of a decimal**: nothing, which leaves the number as it is, or an
exponent behind its mark. -/
inductive IsScale : List Char → Int → Prop
  | nothing : IsScale [] 0
  | exponent {mark : Char} {s : List Char} {n : Int} (hmark : mark = 'e' ∨ mark = 'E')
      (hexponent : IsExponent s n) : IsScale (mark :: s) n

/-- **A decimal as text**, without a sign: digits, a point with digits on one side of it at least,
or no point at all, and a scale. -/
inductive Decimal.IsSpelled : List Char → Decimal → Prop
  | whole {whole scale : List Char} {n : Int} (hwhole : AreDigits whole) (hne : whole ≠ [])
      (hscale : IsScale scale n) : IsSpelled (whole ++ scale) ⟨whole, [], n⟩
  | pointed {whole fraction scale : List Char} {n : Int} (hwhole : AreDigits whole)
      (hfraction : AreDigits fraction) (hne : whole ≠ [] ∨ fraction ≠ [])
      (hscale : IsScale scale n) :
      IsSpelled (whole ++ '.' :: (fraction ++ scale)) ⟨whole, fraction, n⟩

/-! ### Exponents -/

variable {s whole rest : List Char} {n : Int}

/-- The test for digits in a row. -/
theorem all_isDigit_iff : (s.all Char.isDigit && !s.isEmpty) = true ↔ AreDigits s ∧ s ≠ [] := by
  simp [AreDigits]

/-- Text that has a sign in front is not digits. -/
theorem not_areDigits_cons {c : Char} (hc : c.isDigit = false) : ¬ AreDigits (c :: s) := by
  intro hdigits
  have htrue := hdigits c List.mem_cons_self
  rw [hc] at htrue
  cases htrue

/-- **An exponent is read exactly if it is one.** -/
theorem exponent?_eq_some_iff : exponent? s = some n ↔ IsExponent s n := by
  constructor
  · intro hread
    unfold exponent? at hread
    split at hread <;> obtain ⟨hdigits, hn⟩ := Option.ite_none_right_eq_some.1 hread <;>
      obtain rfl := Option.some.inj hn <;> obtain ⟨hdigits, hne⟩ := all_isDigit_iff.1 hdigits
    · exact .minus hdigits hne
    · exact .plus hdigits hne
    · exact .unsigned hdigits hne
  · rintro (⟨hdigits, hne⟩ | ⟨hdigits, hne⟩ | ⟨hdigits, hne⟩)
    · unfold exponent?
      split
      · exact absurd hdigits (not_areDigits_cons rfl)
      · exact absurd hdigits (not_areDigits_cons rfl)
      · exact if_pos (all_isDigit_iff.2 ⟨hdigits, hne⟩)
    · exact if_pos (all_isDigit_iff.2 ⟨hdigits, hne⟩)
    · exact if_pos (all_isDigit_iff.2 ⟨hdigits, hne⟩)

/-- Reads what follows the digits of a decimal. -/
def scale? : List Char → Option Int
  | [] => some 0
  | c :: rest => if c == 'e' || c == 'E' then exponent? rest else none

/-- What is made of the exponent behind a mark. -/
theorem map_scale?_cons {α : Type} (f : Int → α) (c : Char) (rest : List Char) :
    (scale? (c :: rest)).map f =
      if c == 'e' || c == 'E' then (exponent? rest).map f else none := by
  rw [scale?]
  split <;> rfl

/-- **A scale is read exactly if it is one.** -/
theorem scale?_eq_some_iff : scale? s = some n ↔ IsScale s n := by
  constructor
  · intro hread
    cases s with
    | nil =>
      obtain rfl := Option.some.inj hread
      exact .nothing
    | cons mark rest =>
      obtain ⟨hmark, hexponent⟩ := Option.ite_none_right_eq_some.1 hread
      exact .exponent (by simpa using hmark) (exponent?_eq_some_iff.1 hexponent)
  · rintro (_ | ⟨hmark, hexponent⟩)
    · rfl
    · rw [scale?, if_pos (by simpa using hmark)]
      exact exponent?_eq_some_iff.2 hexponent

/-- A scale does not go on with digits, nor with a point. -/
theorem IsScale.head_ne (h : IsScale s n) {c : Char} (hc : s.head? = some c) :
    c.isDigit = false ∧ c ≠ '.' := by
  cases h with
  | nothing => cases hc
  | exponent hmark =>
    obtain rfl := Option.some.inj hc
    obtain rfl | rfl := hmark
    · exact ⟨rfl, by decide⟩
    · exact ⟨rfl, by decide⟩

/-! ### Decimals -/

/-- The digits in front of a text, where no digit follows them. -/
theorem split_digits (hwhole : AreDigits whole)
    (hrest : ∀ c, rest.head? = some c → c.isDigit = false) :
    (whole ++ rest).takeWhile Char.isDigit = whole ∧
      (whole ++ rest).dropWhile Char.isDigit = rest := by
  have hdrop := dropWhile_append hwhole hrest
  have hall := List.takeWhile_append_dropWhile (p := Char.isDigit) (l := whole ++ rest)
  rw [hdrop] at hall
  exact ⟨List.append_cancel_right hall, hdrop⟩

/-- A text is the digits in front of it, and something that does not start with a digit. -/
theorem exists_digits (s : List Char) : ∃ digits rest, s = digits ++ rest ∧ AreDigits digits ∧
    ∀ c, rest.head? = some c → c.isDigit = false := by
  refine ⟨s.takeWhile Char.isDigit, s.dropWhile Char.isDigit,
    List.takeWhile_append_dropWhile.symm, fun c hc => List.mem_takeWhile_imp hc, ?_⟩
  intro c hc
  exact Bool.eq_false_iff.2 (by simpa [hc] using List.head?_dropWhile_not Char.isDigit s)

/-- What is read behind digits that no point follows. -/
theorem Decimal.read?_whole (hwhole : AreDigits whole)
    (hrest : ∀ c, rest.head? = some c → c.isDigit = false ∧ c ≠ '.') :
    read? (whole ++ rest) =
      if whole = [] then none else (scale? rest).map fun n => ⟨whole, [], n⟩ := by
  obtain ⟨htake, hdrop⟩ := split_digits hwhole fun c hc => (hrest c hc).1
  simp only [read?, htake, hdrop]
  cases rest with
  | nil => simp [scale?]
  | cons c after =>
    obtain ⟨-, hpoint⟩ := hrest c rfl
    split
    · next heq => exact absurd (List.cons.inj heq).1 hpoint
    · simp [map_scale?_cons]

/-- What is read behind digits with a point and digits behind them. -/
theorem Decimal.read?_pointed {fraction : List Char} (hwhole : AreDigits whole)
    (hfraction : AreDigits fraction)
    (hrest : ∀ c, rest.head? = some c → c.isDigit = false) :
    read? (whole ++ '.' :: (fraction ++ rest)) =
      if whole = [] ∧ fraction = [] then none
      else (scale? rest).map fun n => ⟨whole, fraction, n⟩ := by
  have hpoint : ∀ c, ('.' :: (fraction ++ rest)).head? = some c → c.isDigit = false := by
    intro c hc
    obtain rfl := Option.some.inj hc
    rfl
  obtain ⟨htake, hdrop⟩ := split_digits hwhole hpoint
  obtain ⟨htake', hdrop'⟩ := split_digits hfraction hrest
  simp only [read?, htake, hdrop, htake', hdrop']
  cases rest with
  | nil => simp [scale?]
  | cons c after => simp [map_scale?_cons]

/-- **A text is read as a decimal exactly if it is one.** -/
theorem Decimal.read?_eq_some_iff {d : Decimal} : read? s = some d ↔ IsSpelled s d := by
  constructor
  · intro hread
    obtain ⟨whole, rest, rfl, hwhole, hrest⟩ := exists_digits s
    by_cases hpoint : ∃ after, rest = '.' :: after
    · obtain ⟨after, rfl⟩ := hpoint
      obtain ⟨fraction, scale, rfl, hfraction, hscale⟩ := exists_digits after
      rw [read?_pointed hwhole hfraction hscale] at hread
      obtain ⟨hne, hmap⟩ := Option.ite_none_left_eq_some.1 hread
      obtain ⟨n, hn, rfl⟩ := Option.map_eq_some_iff.1 hmap
      exact .pointed hwhole hfraction (not_and_or.1 hne) (scale?_eq_some_iff.1 hn)
    · have hhead : ∀ c, rest.head? = some c → c.isDigit = false ∧ c ≠ '.' := by
        refine fun c hc => ⟨hrest c hc, ?_⟩
        rintro rfl
        exact hpoint (List.head?_eq_some_iff.1 hc)
      rw [read?_whole hwhole hhead] at hread
      obtain ⟨hne, hmap⟩ := Option.ite_none_left_eq_some.1 hread
      obtain ⟨n, hn, rfl⟩ := Option.map_eq_some_iff.1 hmap
      exact .whole hwhole hne (scale?_eq_some_iff.1 hn)
  · rintro (⟨hwhole, hne, hscale⟩ | ⟨hwhole, hfraction, hne, hscale⟩)
    · rw [read?_whole hwhole fun c hc => hscale.head_ne hc, if_neg hne, scale?_eq_some_iff.2 hscale,
        Option.map_some]
    · rw [read?_pointed hwhole hfraction fun c hc => (hscale.head_ne hc).1,
        if_neg (not_and_or.2 hne), scale?_eq_some_iff.2 hscale, Option.map_some]

/-- A text is one decimal at most. -/
theorem Decimal.IsSpelled.unique {d d' : Decimal} (h : IsSpelled s d) (h' : IsSpelled s d') :
    d = d' :=
  Option.some.inj ((read?_eq_some_iff.2 h).symm.trans (read?_eq_some_iff.2 h'))

/-- The digits of a decimal are digits. -/
theorem Decimal.IsSpelled.areDigits {d : Decimal} (h : IsSpelled s d) :
    AreDigits (d.whole ++ d.fraction) := by
  cases h with
  | whole hwhole => simpa using hwhole
  | pointed hwhole hfraction => exact List.forall_mem_append.2 ⟨hwhole, hfraction⟩

/-- Digits alone are a decimal. -/
theorem Decimal.isSpelled_digits (hdigits : AreDigits s) (hne : s ≠ []) :
    IsSpelled s ⟨s, [], 0⟩ := by
  simpa using IsSpelled.whole hdigits hne .nothing

/-- A decimal starts with a digit or with its point. -/
theorem Decimal.IsSpelled.exists_head {d : Decimal} (h : IsSpelled s d) :
    ∃ c rest, s = c :: rest ∧ (c.isDigit = true ∨ c = '.') := by
  cases h with
  | whole hwhole hne =>
    obtain ⟨c, rest, rfl⟩ := List.exists_cons_of_ne_nil hne
    exact ⟨c, _, rfl, .inl (hwhole c List.mem_cons_self)⟩
  | @pointed whole _ _ _ hwhole =>
    cases whole with
    | nil => exact ⟨'.', _, rfl, .inr rfl⟩
    | cons c rest => exact ⟨c, _, rfl, .inl (hwhole c List.mem_cons_self)⟩

/-! ### The number of a decimal -/

/-- **The number of a decimal**, its sign apart. -/
def Decimal.value (d : Decimal) : ℚ :=
  digitsValue (d.whole ++ d.fraction) * 10 ^ (d.exponent - d.fraction.length)

/-- Digits alone have their number. -/
theorem Decimal.value_digits (s : List Char) : value ⟨s, [], 0⟩ = digitsValue s := by
  simp [value]

/-- Zeros in front of digits do not count. -/
theorem digitsValue_dropWhile_zero (s : List Char) :
    digitsValue (s.dropWhile (· == '0')) = digitsValue s := by
  induction s with
  | nil => rfl
  | cons c rest ih =>
    by_cases hc : c = '0'
    · subst hc
      rw [List.dropWhile_cons_of_pos rfl, ih]
      rfl
    · rw [List.dropWhile_cons_of_neg (by simpa using hc)]

/-- A number is smaller than the power of ten with as many zeros as it has digits. -/
theorem digitsValue_lt (hdigits : AreDigits s) : digitsValue s < 10 ^ s.length := by
  induction s using List.reverseRecOn with
  | nil => decide
  | append_singleton s c ih =>
    obtain ⟨hs, hc⟩ := List.forall_mem_append.1 hdigits
    have hlast := (Char.isDigit_iff_toNat.1 (hc c (List.mem_singleton_self c))).2
    have hnine : '9'.toNat = 57 := rfl
    have hrest := ih hs
    rw [digitsValue_append_digit, List.length_append, List.length_singleton, Nat.pow_succ]
    omega

/-- A number that starts with another digit than zero has the power of ten with one zero less at
least. -/
theorem pow_le_digitsValue {c : Char} (hc : c.isDigit = true) (hne : c ≠ '0') (rest : List Char) :
    10 ^ rest.length ≤ digitsValue (c :: rest) := by
  induction rest using List.reverseRecOn with
  | nil =>
    have hlow := (Char.isDigit_iff_toNat.1 hc).1
    have hzero : '0'.toNat = 48 := rfl
    have hother : c.toNat ≠ 48 := fun heq => hne (eq_ofNat_of_toNat heq)
    simp only [List.length_nil, Nat.pow_zero, digitsValue, List.foldl_cons, List.foldl_nil]
    omega
  | append_singleton rest last ih =>
    rw [← List.cons_append, digitsValue_append_digit, List.length_append, List.length_singleton,
      Nat.pow_succ]
    omega

/-- The digits of a decimal, from the first that is not zero on. -/
def Decimal.significant (d : Decimal) : List Char :=
  (d.whole ++ d.fraction).dropWhile (· == '0')

/-- How many digits the number of a decimal has in front of its point; fewer than none if it starts
with zeros behind the point. -/
def Decimal.magnitude (d : Decimal) : Int :=
  d.exponent - d.fraction.length + d.significant.length

/-- The number of a decimal, without the zeros in front of it. -/
theorem Decimal.value_eq (d : Decimal) :
    d.value = digitsValue d.significant * 10 ^ (d.exponent - d.fraction.length) := by
  rw [value, significant, digitsValue_dropWhile_zero]

/-- **The number of a decimal is below the power of ten that its digits allow.** -/
theorem Decimal.value_lt {d : Decimal} (hdigits : AreDigits (d.whole ++ d.fraction)) :
    d.value < 10 ^ d.magnitude := by
  have hsignificant : AreDigits d.significant := fun c hc =>
    hdigits c ((List.dropWhile_sublist _).subset hc)
  have hlt : (digitsValue d.significant : ℚ) < 10 ^ d.significant.length := by
    exact_mod_cast digitsValue_lt hsignificant
  rw [value_eq, magnitude, zpow_add₀ (by norm_num), mul_comm ((10 : ℚ) ^ _), zpow_natCast]
  exact mul_lt_mul_of_pos_right hlt (zpow_pos (by norm_num) _)

/-- **The number of a decimal reaches the power of ten one below**, unless it is zero. -/
theorem Decimal.le_value {d : Decimal} (hdigits : AreDigits (d.whole ++ d.fraction))
    (hne : d.significant ≠ []) : 10 ^ (d.magnitude - 1) ≤ d.value := by
  obtain ⟨first, rest, hfirst⟩ := List.exists_cons_of_ne_nil hne
  have hmem : first ∈ d.whole ++ d.fraction :=
    (List.dropWhile_sublist _).subset (hfirst ▸ List.mem_cons_self : first ∈ d.significant)
  have hzero : first ≠ '0' := by
    have hhead := List.head?_dropWhile_not (· == '0') (d.whole ++ d.fraction)
    rw [← significant, hfirst] at hhead
    simpa using hhead
  have hle : (10 : ℚ) ^ rest.length ≤ digitsValue d.significant := by
    rw [hfirst]
    exact_mod_cast pow_le_digitsValue (hdigits first hmem) hzero rest
  have hmagnitude : d.magnitude - 1 = rest.length + (d.exponent - d.fraction.length) := by
    rw [magnitude, hfirst, List.length_cons]
    omega
  rw [value_eq, hmagnitude, zpow_add₀ (by norm_num), zpow_natCast]
  exact mul_le_mul_of_nonneg_right hle (zpow_nonneg (by norm_num) _)

end GpuPassthrough.Text
