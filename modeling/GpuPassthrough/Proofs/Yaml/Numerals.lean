import GpuPassthrough.Proofs.Text.Decimals
import GpuPassthrough.Yaml.Value

/-!
# Numbers of a Document

What a plain scalar is taken for depends on the numbers that YAML knows: digits behind the mark of
their radix that fit into 128 bits, decimals that are finite as 64-bit floats, infinity, each with a
sign or without, and what is not a number. They are described here by the way they are written. The
reader takes a text for a number exactly if it is written so, and the writer takes exactly the same
texts for numbers.

## Main results

* `isFinite_iff`: a decimal is finite exactly if its number is below the limit.
* `number?_eq_some_iff`: a text is read as a number exactly if it is one, and as what it stands for.
* `isMarkedInteger_iff`, `isFloat_iff`: what the writer takes for a number of each kind.
* `exists_isNumber_iff`: what it takes for a number.
-/

namespace GpuPassthrough.Yaml

open Text (AreDigits Decimal digitsValue)

variable {s unsigned : List Char} {negative : Bool} {n : Nat} {v : Value}

/-! ### The grammar -/

/-- **A sign**, or none, and whether it is a minus sign. -/
inductive IsSign : List Char → Bool → Prop
  | none : IsSign [] false
  | plus : IsSign ['+'] false
  | minus : IsSign ['-'] true

/-- **The mark of a radix**. -/
inductive IsMark : List Char → Nat → Prop
  | hexadecimal : IsMark ['0', 'x'] 16
  | octal : IsMark ['0', 'o'] 8
  | binary : IsMark ['0', 'b'] 2

/-- At least one digit, and the number of all of them. -/
def IsNatural (radix : Nat) (digits : List Char) (n : Nat) : Prop :=
  digits ≠ [] ∧ ∃ values, List.Forall₂ (Text.IsDigit radix) digits values ∧
    n = Nat.ofDigits radix values.reverse

/-- A mark with digits of its radix behind it. -/
def IsMarked (s : List Char) (n : Nat) : Prop :=
  ∃ mark radix digits, IsMark mark radix ∧ IsNatural radix digits n ∧ s = mark ++ digits

/-- A word in lower case, with a capital or in upper case. -/
def IsCased (word s : List Char) : Prop :=
  s = word ∨ s = word.modifyHead Char.toUpper ∨ s = word.map Char.toUpper

/-- **A number without a sign**, and what it stands for behind a sign. -/
inductive IsUnsigned (negative : Bool) : List Char → Value → Prop
  | marked {s : List Char} {n : Nat} (hmarked : IsMarked s n) (hlimit : n < integerLimit negative) :
      IsUnsigned negative s (.integer (signed negative n))
  | natural {digits : List Char} (hdigits : AreDigits digits) (hne : digits ≠ [])
      (hlimit : digitsValue digits < floatLimit) :
      IsUnsigned negative digits (.integer (signed negative (digitsValue digits)))
  | decimal {s : List Char} {d : Decimal} (hspelled : d.IsSpelled s) (hmore : ¬ AreDigits s)
      (hlimit : d.value < floatLimit) : IsUnsigned negative s (.decimal negative d)
  | infinity {s : List Char} (hcased : IsCased "inf".toList s) :
      IsUnsigned negative ('.' :: s) (.infinity negative)

/-- **A number as text**, and what it stands for. -/
inductive IsNumber : List Char → Value → Prop
  | signed {sign s : List Char} {negative : Bool} {v : Value} (hsign : IsSign sign negative)
      (hunsigned : IsUnsigned negative s v) : IsNumber (sign ++ s) v
  | nan {s : List Char} (hspelled : s = ".nan".toList ∨ s = ".NaN".toList ∨ s = ".NAN".toList) :
      IsNumber s .nan

/-! ### Limits -/

/-- Numbers of no more than 308 digits are finite. -/
theorem pow_lt_floatLimit : (10 : ℚ) ^ (308 : Int) < floatLimit := by
  have hlt : 10 ^ 308 < floatLimit := by decide +kernel
  exact_mod_cast hlt

/-- Numbers of more than 310 digits are not. -/
theorem floatLimit_le_pow : (floatLimit : ℚ) ≤ 10 ^ (310 : Int) := by
  have hle : floatLimit ≤ 10 ^ 310 := by decide +kernel
  exact_mod_cast hle

/-- The test near the limit, where the number is an integer. -/
theorem lt_floatLimit_iff_of_nonneg {d : Decimal} (hscale : 0 ≤ d.exponent - d.fraction.length) :
    d.value < floatLimit ↔ digitsValue d.significant *
      Nat.pow 10 (d.exponent - d.fraction.length).toNat < floatLimit := by
  rw [Decimal.value_eq, ← Int.toNat_of_nonneg hscale, zpow_natCast, Int.toNat_natCast]
  norm_cast

/-- The test near the limit, where the number has digits behind its point. -/
theorem lt_floatLimit_iff_of_neg {d : Decimal} (hscale : d.exponent - d.fraction.length < 0) :
    d.value < floatLimit ↔ digitsValue d.significant <
      floatLimit * Nat.pow 10 (-(d.exponent - d.fraction.length)).toNat := by
  obtain ⟨k, hk⟩ := Int.eq_ofNat_of_zero_le (Int.neg_nonneg_of_nonpos (Int.le_of_lt hscale))
  have hneg : d.exponent - d.fraction.length = -(k : Int) := by omega
  have hpow : (0 : ℚ) < 10 ^ k := pow_pos (by norm_num) k
  rw [Decimal.value_eq, hneg, Int.neg_neg, Int.toNat_natCast, zpow_neg, zpow_natCast,
    ← div_eq_mul_inv, div_lt_iff₀ hpow]
  norm_cast

/-- **A decimal is finite exactly if its number is below the limit.** -/
theorem isFinite_iff {d : Decimal} (hdigits : AreDigits (d.whole ++ d.fraction)) :
    isFinite d = true ↔ d.value < floatLimit := by
  have hfinite : isFinite d = if d.significant.isEmpty || d.magnitude ≤ 308 then true
      else if d.magnitude > 310 then false
      else if 0 ≤ d.exponent - d.fraction.length then
        decide (digitsValue d.significant *
          Nat.pow 10 (d.exponent - d.fraction.length).toNat < floatLimit)
      else decide (digitsValue d.significant <
        floatLimit * Nat.pow 10 (-(d.exponent - d.fraction.length)).toNat) := rfl
  have hone : (1 : ℚ) ≤ 10 := by norm_num
  rw [hfinite]
  split
  · next hfew =>
    refine iff_of_true rfl ?_
    obtain hzero | hfew := Bool.or_eq_true_iff.1 hfew
    · rw [Decimal.value_eq, List.isEmpty_iff.1 hzero]
      exact (zero_mul _).trans_lt (lt_trans (zpow_pos (by norm_num) _) pow_lt_floatLimit)
    · exact (Decimal.value_lt hdigits).trans
        ((zpow_le_zpow_right₀ hone (of_decide_eq_true hfew)).trans_lt pow_lt_floatLimit)
  · next hfew =>
    obtain ⟨hne, -⟩ := Bool.or_eq_false_iff.1 (Bool.eq_false_iff.2 hfew)
    split
    · next hmany =>
      refine iff_of_false Bool.false_ne_true (not_lt_of_ge ?_)
      have hle := Decimal.le_value hdigits (List.isEmpty_eq_false_iff.1 hne)
      exact floatLimit_le_pow.trans ((zpow_le_zpow_right₀ hone (by omega)).trans hle)
    · split
      · next hscale => rw [decide_eq_true_iff, lt_floatLimit_iff_of_nonneg hscale]
      · next hscale => rw [decide_eq_true_iff, lt_floatLimit_iff_of_neg (Int.not_le.1 hscale)]

/-! ### Digits behind a mark -/

variable {radix limit : Nat}

/-- What is read without a fault. -/
theorem toOption_eq_some_iff {ε α : Type} {read : Except ε α} {a : α} :
    read.toOption = some a ↔ read = .ok a := by
  cases read <;> simp [Except.toOption]

/-- A mark stands for a radix up to sixteen. -/
theorem IsMark.bounds {mark : List Char} (h : IsMark mark radix) : 0 < radix ∧ radix ≤ 16 := by
  cases h <;> decide

/-- **Digits are read as the number that they stand for.** -/
theorem natural?_eq_some_iff (hradix : 0 < radix) (hlow : radix ≤ 16) (hlimit : 0 < limit) :
    natural? radix limit s = some n ↔ IsNatural radix s n ∧ n < limit := by
  cases s with
  | nil => exact iff_of_false nofun fun h => h.1.1 rfl
  | cons c rest =>
    have hread : Text.readDigits radix limit 0 (c :: rest) = .ok n ↔ _ :=
      Text.readDigits_eq_ok_iff hradix hlow hlimit
    simp only [Nat.zero_mul, Nat.zero_add, ← and_assoc, exists_and_right] at hread
    have hcons : natural? radix limit (c :: rest) =
        (Text.readDigits radix limit 0 (c :: rest)).toOption := rfl
    rw [hcons, toOption_eq_some_iff, hread, IsNatural, and_iff_right (List.cons_ne_nil c rest)]

/-- **A marked number is read as the number that it stands for.** -/
theorem marked?_eq_some_iff (hlimit : 0 < limit) :
    marked? limit s = some n ↔ IsMarked s n ∧ n < limit := by
  constructor
  · intro hread
    obtain ⟨mark, radix, digits, hmark, rfl, hdigits⟩ : ∃ mark radix digits,
        IsMark mark radix ∧ s = mark ++ digits ∧ natural? radix limit digits = some n := by
      unfold marked? at hread
      split at hread
      · exact ⟨_, _, _, .hexadecimal, rfl, hread⟩
      · exact ⟨_, _, _, .octal, rfl, hread⟩
      · exact ⟨_, _, _, .binary, rfl, hread⟩
      · cases hread
    obtain ⟨hnatural, hlt⟩ :=
      (natural?_eq_some_iff hmark.bounds.1 hmark.bounds.2 hlimit).1 hdigits
    exact ⟨⟨mark, radix, digits, hmark, hnatural, rfl⟩, hlt⟩
  · rintro ⟨⟨mark, radix, digits, hmark, hnatural, rfl⟩, hlt⟩
    have hread := (natural?_eq_some_iff hmark.bounds.1 hmark.bounds.2 hlimit).2 ⟨hnatural, hlt⟩
    cases hmark <;> exact hread

/-- **Marked integers are read as the numbers that they stand for**, within the limits of their
sign. -/
theorem marked?_integerLimit_iff : marked? (integerLimit negative) s = some n ↔
    IsMarked s n ∧ n < integerLimit negative := by
  have hpos : 0 < integerLimit negative := by cases negative <;> decide +kernel
  exact marked?_eq_some_iff hpos

/-- What is read as digits is digits. -/
theorem all_digits_of_readDigits {value : Nat}
    (h : Text.readDigits radix limit value s = .ok n) :
    s.all (fun c => (Text.digit? radix c).isSome) = true := by
  induction s generalizing value with
  | nil => rfl
  | cons c rest ih =>
    rw [Text.readDigits] at h
    cases hdigit : Text.digit? radix c with
    | none => simp [hdigit] at h
    | some digit =>
      rw [hdigit] at h
      dsimp only at h
      split at h
      · simp [hdigit, ih h]
      · cases h

/-- A plus sign is no digit of any radix. -/
theorem digit?_plus (radix : Nat) : Text.digit? radix '+' = none := by
  simp [Text.digit?]

/-- The test for digits below a limit, which allows for a plus sign and then refuses it as a digit,
is passed by what can be read. -/
theorem isNumeralBelow_eq (radix limit : Nat) (s : List Char) :
    isNumeralBelow radix limit s = (natural? radix limit s).isSome := by
  cases s with
  | nil => rfl
  | cons c rest =>
    have hcons : natural? radix limit (c :: rest) =
        (Text.readDigits radix limit 0 (c :: rest)).toOption := rfl
    rw [isNumeralBelow, hcons]
    by_cases hc : c = '+'
    · subst hc
      simp [Text.readDigits, digit?_plus, Except.toOption]
    · have hnumeral : Text.readNumeral radix limit (c :: rest) =
          Text.readDigits radix limit 0 (c :: rest) := by
        rw [Text.readNumeral] <;> simp [hc]
      rw [hnumeral]
      cases hread : Text.readDigits radix limit 0 (c :: rest) with
      | error fault => simp [Except.toBool, Except.toOption]
      | ok n => simp only [all_digits_of_readDigits hread, Except.toBool, Except.toOption,
          Bool.and_self, Option.isSome_some]

/-- The test for marked numbers is passed by what can be read. -/
theorem isMarkedNumeral_eq (limit : Nat) (s : List Char) :
    isMarkedNumeral limit s = (marked? limit s).isSome := by
  unfold isMarkedNumeral
  split
  · exact isNumeralBelow_eq ..
  · exact isNumeralBelow_eq ..
  · exact isNumeralBelow_eq ..
  · rw [marked?, Option.isSome_none] <;> assumption

/-! ### Signs -/

/-- A text is a sign or none, and what is read behind it. -/
theorem exists_sign (s : List Char) :
    ∃ sign, IsSign sign (readSign s).1 ∧ s = sign ++ (readSign s).2 := by
  unfold readSign
  split
  · exact ⟨_, .minus, rfl⟩
  · exact ⟨_, .plus, rfl⟩
  · exact ⟨_, .none, rfl⟩

/-- Whether a text starts with a digit or with a point, as every number without a sign does. -/
def StartsNumber (s : List Char) : Prop :=
  ∃ c rest, s = c :: rest ∧ (c.isDigit = true ∨ c = '.')

/-- A sign is told from the number behind it. -/
theorem readSign_append {sign : List Char} (hsign : IsSign sign negative)
    (hstarts : StartsNumber unsigned) : readSign (sign ++ unsigned) = (negative, unsigned) := by
  obtain ⟨c, rest, rfl, hc⟩ := hstarts
  cases hsign with
  | none =>
    have hplus : c ≠ '+' := by rintro rfl; simp at hc
    have hminus : c ≠ '-' := by rintro rfl; simp at hc
    rw [List.nil_append, readSign] <;> simp [hplus, hminus]
  | plus => rfl
  | minus => rfl

/-- A number without a sign starts with a digit or with a point. -/
theorem IsUnsigned.startsNumber (h : IsUnsigned negative s v) : StartsNumber s := by
  cases h with
  | marked hmarked =>
    obtain ⟨mark, radix, digits, hmark, -, rfl⟩ := hmarked
    cases hmark <;> exact ⟨'0', _, rfl, .inl rfl⟩
  | natural hdigits hne =>
    obtain ⟨c, rest, rfl⟩ := List.exists_cons_of_ne_nil hne
    exact ⟨c, rest, rfl, .inl (hdigits c List.mem_cons_self)⟩
  | decimal hspelled => exact hspelled.exists_head
  | infinity => exact ⟨'.', _, rfl, .inr rfl⟩

/-! ### Spellings -/

/-- The spellings of infinity are a word behind a point. -/
theorem isSpelled_infinity_iff :
    isSpelled infinitySpellings s = true ↔ ∃ rest, s = '.' :: rest ∧ IsCased "inf".toList rest := by
  simp only [isSpelled, infinitySpellings, IsCased]
  constructor
  · intro hspelled
    have hspelled : s = ".inf".toList ∨ s = ".Inf".toList ∨ s = ".INF".toList := by
      simpa [eq_comm (b := s)] using hspelled
    obtain rfl | rfl | rfl := hspelled <;> simp
  · rintro ⟨rest, rfl, rfl | rfl | rfl⟩ <;> simp

/-- The spellings of what is not a number. -/
theorem isSpelled_nan_iff : isSpelled nanSpellings s = true ↔
    s = ".nan".toList ∨ s = ".NaN".toList ∨ s = ".NAN".toList := by
  simp [isSpelled, nanSpellings, eq_comm (b := s)]

/-! ### Decimals -/

/-- Whether a text without a sign is a finite decimal. -/
def isFiniteUnsigned (s : List Char) : Bool := ((Decimal.read? s).map isFinite).getD false

/-- **A text is a finite decimal** exactly if it is a decimal whose number is below the limit. -/
theorem isFiniteUnsigned_iff :
    isFiniteUnsigned s = true ↔ ∃ d : Decimal, d.IsSpelled s ∧ d.value < floatLimit := by
  rw [isFiniteUnsigned]
  cases hread : Decimal.read? s with
  | none =>
    refine iff_of_false Bool.false_ne_true ?_
    rintro ⟨d, hspelled, -⟩
    cases hread.symm.trans (Decimal.read?_eq_some_iff.2 hspelled)
  | some d =>
    have hspelled := Decimal.read?_eq_some_iff.1 hread
    rw [Option.map_some, Option.getD_some, isFinite_iff hspelled.areDigits]
    constructor
    · exact fun hlimit => ⟨d, hspelled, hlimit⟩
    · rintro ⟨other, hother, hlimit⟩
      rwa [hspelled.unique hother]

/-- Digits of a number below the limit are a decimal below the limit. -/
theorem value_digits_lt (hlimit : digitsValue s < floatLimit) :
    Decimal.value ⟨s, [], 0⟩ < floatLimit := by
  rw [Decimal.value_digits]
  exact_mod_cast hlimit

/-- A decimal that is nothing but digits has their number. -/
theorem of_isSpelled_digits {d : Decimal} (hspelled : d.IsSpelled s) (hdigits : AreDigits s)
    (hlimit : d.value < floatLimit) : s ≠ [] ∧ digitsValue s < floatLimit := by
  obtain ⟨c, rest, hs, -⟩ := hspelled.exists_head
  have hne : s ≠ [] := hs ▸ List.cons_ne_nil c rest
  rw [hspelled.unique (Decimal.isSpelled_digits hdigits hne), Decimal.value_digits] at hlimit
  exact ⟨hne, by exact_mod_cast hlimit⟩

/-- **Decimals are read as the numbers that they stand for**, as integers if they are nothing but
digits. -/
theorem finite?_eq_some_iff : finite? negative s = some v ↔
    ∃ d : Decimal, d.IsSpelled s ∧ d.value < floatLimit ∧
      (AreDigits s ∧ v = .integer (signed negative (digitsValue s)) ∨
        ¬ AreDigits s ∧ v = .decimal negative d) := by
  cases hread : Decimal.read? s with
  | none =>
    refine iff_of_false (by simp [finite?, hread]) ?_
    rintro ⟨d, hspelled, -⟩
    cases hread.symm.trans (Decimal.read?_eq_some_iff.2 hspelled)
  | some d =>
    have hspelled := Decimal.read?_eq_some_iff.1 hread
    have hfinite := isFinite_iff hspelled.areDigits
    have hdigits : s.all Char.isDigit = true ↔ AreDigits s := List.all_eq_true
    constructor
    · intro hv
      refine ⟨d, hspelled, ?_⟩
      simp only [finite?, hread] at hv
      split at hv
      · cases hv
      · next hlimit =>
        refine ⟨hfinite.1 (by simpa using hlimit), ?_⟩
        split at hv
        · next hall => exact .inl ⟨hdigits.1 hall, (Option.some.inj hv).symm⟩
        · next hmore => exact .inr ⟨fun hall => hmore (hdigits.2 hall), (Option.some.inj hv).symm⟩
    · rintro ⟨other, hother, hlimit, hv⟩
      obtain rfl := hspelled.unique hother
      simp only [finite?, hread, hfinite.2 hlimit, Bool.not_true, Bool.false_eq_true, if_false]
      obtain ⟨hall, rfl⟩ | ⟨hmore, rfl⟩ := hv
      · rw [if_pos (hdigits.2 hall)]
      · rw [if_neg fun hall => hmore (hdigits.1 hall)]

/-! ### Numbers -/

/-- A marked number is no decimal: its mark ends the digits. -/
theorem IsMarked.read?_eq_none (h : IsMarked s n) : Decimal.read? s = none := by
  obtain ⟨mark, radix, digits, hmark, -, rfl⟩ := h
  cases hmark <;> rfl

/-- What is spelled like infinity or like no number is no decimal: no digit is beside its point. -/
theorem read?_point_eq_none {c : Char} (hc : c.isDigit = false) (rest : List Char) :
    Decimal.read? ('.' :: c :: rest) = none :=
  @Decimal.read?_pointed [] (c :: rest) [] nofun nofun fun _ hother => Option.some.inj hother ▸ hc

/-- **What is read as a number is one.** -/
theorem isNumber_of_number? (hread : number? s = some v) : IsNumber s v := by
  obtain ⟨sign, hsign, hs⟩ := exists_sign s
  rw [number?] at hread
  cases hparts : readSign s with
  | mk negative unsigned =>
    rw [hparts] at hread hsign hs
    dsimp only at hread hsign hs
    subst hs
    split at hread
    · next n hn =>
      obtain rfl := Option.some.inj hread
      obtain ⟨hmarked, hlimit⟩ := marked?_integerLimit_iff.1 hn
      exact .signed hsign (.marked hmarked hlimit)
    · split at hread
      · next hinfinity =>
        obtain rfl := Option.some.inj hread
        obtain ⟨rest, rfl, hcased⟩ := isSpelled_infinity_iff.1 hinfinity
        exact .signed hsign (.infinity hcased)
      · split at hread
        · next hnan =>
          obtain rfl := Option.some.inj hread
          exact .nan (isSpelled_nan_iff.1 hnan)
        · obtain ⟨d, hspelled, hlimit, ⟨hdigits, rfl⟩ | ⟨hmore, rfl⟩⟩ :=
            finite?_eq_some_iff.1 hread
          · obtain ⟨hne, hlimit⟩ := of_isSpelled_digits hspelled hdigits hlimit
            exact .signed hsign (.natural hdigits hne hlimit)
          · exact .signed hsign (.decimal hspelled hmore hlimit)

/-- What is spelled like infinity is no decimal. -/
theorem read?_infinity_eq_none (h : isSpelled infinitySpellings s = true) :
    Decimal.read? s = none := by
  obtain ⟨rest, rfl, rfl | rfl | rfl⟩ := isSpelled_infinity_iff.1 h
  · exact read?_point_eq_none (c := 'i') rfl _
  · exact read?_point_eq_none (c := 'I') rfl _
  · exact read?_point_eq_none (c := 'I') rfl _

/-- What is spelled like no number has no sign, and is no decimal. -/
theorem of_isSpelled_nan (h : isSpelled nanSpellings s = true) :
    readSign s = (false, s) ∧ Decimal.read? s = none := by
  obtain rfl | rfl | rfl := isSpelled_nan_iff.1 h
  · exact ⟨rfl, read?_point_eq_none (c := 'n') rfl _⟩
  · exact ⟨rfl, read?_point_eq_none (c := 'N') rfl _⟩
  · exact ⟨rfl, read?_point_eq_none (c := 'N') rfl _⟩

/-- Decimals are not read in another way. -/
theorem number?_of_finite? (hparts : readSign s = (negative, unsigned)) {d : Decimal}
    (hspelled : d.IsSpelled unsigned) (hfinite : finite? negative unsigned = some v) :
    number? s = some v := by
  have hread := Decimal.read?_eq_some_iff.2 hspelled
  have hmarked : marked? (integerLimit negative) unsigned = none := by
    refine Option.eq_none_iff_forall_ne_some.2 fun n hn => ?_
    obtain ⟨hmarked, -⟩ := marked?_integerLimit_iff.1 hn
    cases hread.symm.trans hmarked.read?_eq_none
  have hinfinity : isSpelled infinitySpellings unsigned = false :=
    Bool.eq_false_iff.2 fun h => nomatch hread.symm.trans (read?_infinity_eq_none h)
  have hnan : isSpelled nanSpellings s = false := by
    refine Bool.eq_false_iff.2 fun h => ?_
    obtain ⟨hnosign, hnone⟩ := of_isSpelled_nan h
    obtain ⟨-, rfl⟩ := Prod.mk.inj (hparts.symm.trans hnosign)
    cases hread.symm.trans hnone
  simp [number?, hparts, hmarked, hinfinity, hnan, hfinite]

/-- **A number is read as what it stands for.** -/
theorem number?_of_isNumber (h : IsNumber s v) : number? s = some v := by
  cases h with
  | @signed sign unsigned negative _ hsign hunsigned =>
    have hparts := readSign_append hsign hunsigned.startsNumber
    cases hunsigned with
    | marked hmarked hlimit =>
      have hread := marked?_integerLimit_iff.2 ⟨hmarked, hlimit⟩
      simp [number?, hparts, hread]
    | natural hdigits hne hlimit =>
      have hspelled := Decimal.isSpelled_digits hdigits hne
      exact number?_of_finite? hparts hspelled
        (finite?_eq_some_iff.2 ⟨_, hspelled, value_digits_lt hlimit, .inl ⟨hdigits, rfl⟩⟩)
    | decimal hspelled hmore hlimit =>
      exact number?_of_finite? hparts hspelled
        (finite?_eq_some_iff.2 ⟨_, hspelled, hlimit, .inr ⟨hmore, rfl⟩⟩)
    | infinity hcased =>
      have hinfinity := isSpelled_infinity_iff.2 ⟨_, rfl, hcased⟩
      simp [number?, hparts, hinfinity, marked?]
  | nan hspelled =>
    obtain rfl | rfl | rfl := hspelled
    · simp [number?, readSign, marked?, isSpelled, infinitySpellings, nanSpellings]
    · simp [number?, readSign, marked?, isSpelled, infinitySpellings, nanSpellings]
    · simp [number?, readSign, marked?, isSpelled, infinitySpellings, nanSpellings]

/-- **A text is read as a number exactly if it is one**, and as what it stands for. -/
theorem number?_eq_some_iff : number? s = some v ↔ IsNumber s v :=
  ⟨isNumber_of_number?, number?_of_isNumber⟩

/-- A text is one number at most. -/
theorem IsNumber.unique {v' : Value} (h : IsNumber s v) (h' : IsNumber s v') : v = v' :=
  Option.some.inj ((number?_eq_some_iff.2 h).symm.trans (number?_eq_some_iff.2 h'))

/-! ### What the writer quotes -/

/-- The limits of marked numerals are those of integers. -/
theorem isMarkedInteger_eq (s : List Char) :
    isMarkedInteger s = isMarkedNumeral (integerLimit (readSign s).1) (readSign s).2 := by
  unfold isMarkedInteger readSign
  split <;> simp_all [integerLimit]

/-- **The writer takes a text for a marked integer exactly if it is one**, behind a sign or none. -/
theorem isMarkedInteger_iff : isMarkedInteger s = true ↔
    ∃ n, IsMarked (readSign s).2 n ∧ n < integerLimit (readSign s).1 := by
  rw [isMarkedInteger_eq, isMarkedNumeral_eq, Option.isSome_iff_exists]
  exact exists_congr fun n => marked?_integerLimit_iff

/-- A minus sign does not make a decimal infinite. -/
theorem isFiniteDecimal_minus (rest : List Char) :
    isFiniteDecimal ('-' :: rest) = isFiniteUnsigned rest := by
  cases hread : Decimal.read? rest <;> simp [isFiniteDecimal, isFiniteUnsigned, hread]

/-- Without a minus sign in front, the text itself is read. -/
theorem isFiniteDecimal_of_head?_ne (h : ∀ rest, s ≠ '-' :: rest) :
    isFiniteDecimal s = isFiniteUnsigned s := by
  unfold isFiniteDecimal isFiniteUnsigned
  split
  · exact absurd rfl (h _)
  · cases hread : Decimal.read? s <;> simp [hread]

/-- A decimal has no sign of its own. -/
theorem isFiniteUnsigned_minus (rest : List Char) : isFiniteUnsigned ('-' :: rest) = false := by
  simp [isFiniteUnsigned, Decimal.read?]

/-- The writer takes off a sign as the reader does. -/
theorem isFloat_eq (s : List Char) :
    isFloat s = (isSpelled infinitySpellings (readSign s).2 || isSpelled nanSpellings s ||
      isFiniteUnsigned (readSign s).2) := by
  unfold isFloat
  split
  · next rest =>
    have hsign : readSign ('+' :: rest) = (false, rest) := rfl
    have hnan : isSpelled nanSpellings ('+' :: rest) = false := by simp [isSpelled, nanSpellings]
    rw [hsign, hnan, Bool.or_false]
    split
    · next after =>
      simp [isFiniteUnsigned_minus, isSpelled, infinitySpellings]
    · next hminus => rw [isFiniteDecimal_of_head?_ne hminus]
  · next rest =>
    have hsign : readSign ('-' :: rest) = (true, rest) := rfl
    have hnan : isSpelled nanSpellings ('-' :: rest) = false := by simp [isSpelled, nanSpellings]
    rw [hsign, hnan, Bool.or_false, isFiniteDecimal_minus]
  · next hplus hminus =>
    have hsign : readSign s = (false, s) := by
      rw [readSign]
      · exact hminus
      · exact hplus
    rw [hsign, isFiniteDecimal_of_head?_ne hminus]

/-- **The writer takes a text for a float exactly if it is infinity, no number or a decimal below
the limit.** -/
theorem isFloat_iff : isFloat s = true ↔
    isSpelled infinitySpellings (readSign s).2 = true ∨ isSpelled nanSpellings s = true ∨
      ∃ d : Decimal, d.IsSpelled (readSign s).2 ∧ d.value < floatLimit := by
  rw [isFloat_eq, Bool.or_eq_true, Bool.or_eq_true, isFiniteUnsigned_iff, or_assoc]

/-- A decimal below the limit is a number, behind a sign or none. -/
theorem exists_isUnsigned {d : Decimal} (hspelled : d.IsSpelled s) (hlimit : d.value < floatLimit)
    (negative : Bool) : ∃ v, IsUnsigned negative s v := by
  by_cases hdigits : AreDigits s
  · obtain ⟨hne, hlimit⟩ := of_isSpelled_digits hspelled hdigits hlimit
    exact ⟨_, .natural hdigits hne hlimit⟩
  · exact ⟨_, .decimal hspelled hdigits hlimit⟩

/-- **The writer takes a text for a number exactly if it is one.** -/
theorem exists_isNumber_iff :
    (∃ v, IsNumber s v) ↔ isMarkedInteger s = true ∨ isFloat s = true := by
  rw [isMarkedInteger_iff, isFloat_iff]
  constructor
  · rintro ⟨v, ⟨hsign, hunsigned⟩ | hspelled⟩
    · rw [readSign_append hsign hunsigned.startsNumber]
      cases hunsigned with
      | marked hmarked hlimit => exact .inl ⟨_, hmarked, hlimit⟩
      | natural hdigits hne hlimit =>
        exact .inr (.inr (.inr ⟨_, Decimal.isSpelled_digits hdigits hne, value_digits_lt hlimit⟩))
      | decimal hspelled _ hlimit => exact .inr (.inr (.inr ⟨_, hspelled, hlimit⟩))
      | infinity hcased => exact .inr (.inl (isSpelled_infinity_iff.2 ⟨_, rfl, hcased⟩))
    · exact .inr (.inr (.inl (isSpelled_nan_iff.2 hspelled)))
  · obtain ⟨sign, hsign, hs⟩ := exists_sign s
    have hnumber : (∃ v, IsUnsigned (readSign s).1 (readSign s).2 v) → ∃ v, IsNumber s v := by
      rintro ⟨v, hunsigned⟩
      exact ⟨v, hs ▸ .signed hsign hunsigned⟩
    rintro (⟨n, hmarked, hlimit⟩ | hinfinity | hnan | ⟨d, hspelled, hlimit⟩)
    · exact hnumber ⟨_, .marked hmarked hlimit⟩
    · obtain ⟨rest, hrest, hcased⟩ := isSpelled_infinity_iff.1 hinfinity
      refine hnumber ⟨.infinity (readSign s).1, ?_⟩
      rw [hrest]
      exact .infinity hcased
    · exact ⟨_, .nan (isSpelled_nan_iff.1 hnan)⟩
    · exact hnumber (exists_isUnsigned hspelled hlimit _)

end GpuPassthrough.Yaml
