/-!
# Numerals

Unsigned numbers as text. A numeral is an optional plus sign and at least one digit; it is read from
the left, and the first thing wrong with it decides which fault is reported.

## Main results

* `hexWord_inj`: words are told apart by their digits.
-/

namespace GpuPassthrough.Text

/-- Why a text is not a numeral of a field. -/
inductive NumeralFault where
  | empty
  | invalidDigit
  | tooLarge
  deriving DecidableEq

/-- The wording of a fault. -/
def NumeralFault.message : NumeralFault → String
  | .empty => "cannot parse integer from empty string"
  | .invalidDigit => "invalid digit found in string"
  | .tooLarge => "number too large to fit in target type"

/-- The value of an ASCII digit or letter of either case as a digit of a radix up to 36. -/
def digit? (radix : Nat) (c : Char) : Option Nat :=
  let n := c.toNat
  let value :=
    if 48 ≤ n ∧ n ≤ 57 then n - 48
    else if 97 ≤ n ∧ n ≤ 122 then n - 87
    else if 65 ≤ n ∧ n ≤ 90 then n - 55
    else radix
  if value < radix then some value else none

/-- Reads digits after those that made up `value`, below `limit`. -/
def readDigits (radix limit : Nat) (value : Nat) : List Char → Except NumeralFault Nat
  | [] => .ok value
  | c :: rest =>
    match digit? radix c with
    | none => .error .invalidDigit
    | some digit =>
      if value * radix + digit < limit then readDigits radix limit (value * radix + digit) rest
      else .error .tooLarge

/-- Reads a numeral of the given radix whose value is below `limit`. -/
def readNumeral (radix limit : Nat) : List Char → Except NumeralFault Nat
  | [] => .error .empty
  | ['+'] => .error .invalidDigit
  | '+' :: rest => readDigits radix limit 0 rest
  | digits => readDigits radix limit 0 digits

/-- Reads a decimal numeral below `limit`. -/
def decimal? (limit : Nat) (s : String) : Option Nat :=
  (readNumeral 10 limit s.toList).toOption

/-- A digit in lower case; sixteen and above have none. -/
def hexDigit (n : Nat) : Char :=
  if n < 10 then Char.ofNat (48 + n) else Char.ofNat (87 + n)

/-- A 16-bit number as four hexadecimal digits in lower case. -/
def hexWord (word : UInt16) : String :=
  let n := word.toNat
  String.ofList [hexDigit (n / 4096), hexDigit (n / 256 % 16), hexDigit (n / 16 % 16),
    hexDigit (n % 16)]

/-- Digits are told apart by their values. -/
theorem hexDigit_inj {m n : Nat} (hm : m < 16) (hn : n < 16) (h : hexDigit m = hexDigit n) :
    m = n := by
  have hall : ∀ m n : Fin 16, hexDigit m = hexDigit n → m = n := by decide
  exact congrArg Fin.val (hall ⟨m, hm⟩ ⟨n, hn⟩ h)

/-- A word is made of digits. -/
theorem exists_of_mem_hexWord {word : UInt16} {c : Char} (hc : c ∈ (hexWord word).toList) :
    ∃ n : Fin 16, c = hexDigit n := by
  have hword := word.toNat_lt
  simp only [hexWord, String.toList_ofList, List.mem_cons, List.not_mem_nil, or_false] at hc
  obtain rfl | rfl | rfl | rfl := hc
  · exact ⟨⟨word.toNat / 4096, by omega⟩, rfl⟩
  · exact ⟨⟨word.toNat / 256 % 16, by omega⟩, rfl⟩
  · exact ⟨⟨word.toNat / 16 % 16, by omega⟩, rfl⟩
  · exact ⟨⟨word.toNat % 16, by omega⟩, rfl⟩

/-- Words are told apart by their digits. -/
theorem hexWord_inj {a b : UInt16} : hexWord a = hexWord b ↔ a = b := by
  refine ⟨fun h => ?_, fun h => by rw [h]⟩
  have hdigits := congrArg String.toList h
  simp only [hexWord, String.toList_ofList, List.cons.injEq, and_true] at hdigits
  obtain ⟨h₃, h₂, h₁, h₀⟩ := hdigits
  have ha := a.toNat_lt
  have hb := b.toNat_lt
  have h₃ := hexDigit_inj (by omega) (by omega) h₃
  have h₂ := hexDigit_inj (by omega) (by omega) h₂
  have h₁ := hexDigit_inj (by omega) (by omega) h₁
  have h₀ := hexDigit_inj (by omega) (by omega) h₀
  exact UInt16.toNat_inj.1 (by omega)

end GpuPassthrough.Text
