import GpuPassthrough.Isolation.UnitKey
import GpuPassthrough.Proofs.Naming
import GpuPassthrough.Proofs.Text.Numerals

/-!
# The Number of a Key

The number of a key is the numeral behind its leading letters, if that is below 2⁶⁴. A key whose
letters are followed by anything else counts as zero, the key of letters alone among them.

## Main results

* `UnitKey.number_of_isNumeral`, `UnitKey.number_eq_zero`: the number of a key.
* `UnitKey.number_append_toString`: the number in the key of a handle.
* `UnitKey.number_toString`: the number in the key of a group is the number of the group.
-/

namespace GpuPassthrough.UnitKey

open Text (IsNumeral)

/-- The letters of keys are the ASCII letters. -/
theorem isLetter_eq_isAlpha (c : Char) : isLetter c = c.isAlpha := by
  have halpha : c.isAlpha = (c.isUpper || c.isLower) := rfl
  rw [Bool.eq_iff_iff, halpha, Bool.or_eq_true, Unicode.isUpper_iff, Unicode.isLower_iff]
  simp [isLetter]

/-- A numeral does not start with a letter. -/
theorem not_isAlpha_of_isNumeral {rest : List Char} {n : Nat} (hrest : IsNumeral 10 rest n) {c : Char}
    (hc : rest.head? = some c) : c.isAlpha = false := by
  have hall : ∀ n : Fin 10, (Text.hexDigit n).isAlpha = false ∧
      (Text.hexDigit n).toUpper.isAlpha = false := by decide
  obtain ⟨sign, digits, values, rfl, rfl | rfl, hne, hvalues, -⟩ := hrest
  · cases hvalues with
    | nil => exact absurd rfl hne
    | cons hdigit _ =>
      obtain rfl := Option.some.inj hc
      obtain ⟨hlt, rfl | rfl⟩ := hdigit
      · exact (hall ⟨_, hlt⟩).1
      · exact (hall ⟨_, hlt⟩).2
  · obtain rfl := Option.some.inj hc
    decide

variable {letters rest : List Char} {n : Nat} (hletters : ∀ c ∈ letters, c.isAlpha = true)

include hletters

/-- What follows the letters of a key. -/
theorem dropWhile_isLetter (hrest : ∀ c, rest.head? = some c → c.isAlpha = false) :
    (String.ofList (letters ++ rest)).toList.dropWhile isLetter = rest := by
  rw [String.toList_ofList]
  refine Text.dropWhile_append (fun c hc => ?_) fun c hc => ?_
  · rw [isLetter_eq_isAlpha, hletters c hc]
  · rw [isLetter_eq_isAlpha, hrest c hc]

/-- **The number of a key** whose letters are followed by a numeral. -/
theorem number_of_isNumeral (hrest : IsNumeral 10 rest n) (hn : n < UInt64.size) :
    number (String.ofList (letters ++ rest)) = n := by
  have hread : Text.readNumeral 10 UInt64.size rest = .ok n :=
    (Text.readNumeral_eq_ok_iff (by decide) (by decide) (by decide)).2 ⟨hrest, hn⟩
  rw [number, dropWhile_isLetter hletters fun c hc => not_isAlpha_of_isNumeral hrest hc, hread]

/-- **A key whose letters are followed by anything else counts as zero.** -/
theorem number_eq_zero (hrest : ∀ c, rest.head? = some c → c.isAlpha = false)
    (hnone : ∀ n < UInt64.size, ¬ IsNumeral 10 rest n) :
    number (String.ofList (letters ++ rest)) = 0 := by
  rw [number, dropWhile_isLetter hletters hrest]
  cases hread : Text.readNumeral 10 UInt64.size rest with
  | error fault => rfl
  | ok n =>
    obtain ⟨hnumeral, hlt⟩ :=
      (Text.readNumeral_eq_ok_iff (by decide) (by decide) (by decide)).1 hread
    exact absurd hnumeral (hnone n hlt)

/-- The number in the key of a handle. -/
theorem number_append_toString (hn : n < UInt64.size) :
    number (String.ofList letters ++ toString n) = n := by
  have hnumber := number_of_isNumeral hletters (Text.isNumeral_toString n) hn
  rwa [String.ofList_append, String.ofList_toList] at hnumber

omit hletters

/-- **The number in the key of a group** is the number of the group. -/
theorem number_toString (hn : n < UInt64.size) : number (toString n) = n := by
  have hnumber : number (String.ofList ([] ++ (toString n).toList)) = n :=
    number_of_isNumeral nofun (Text.isNumeral_toString n) hn
  rwa [List.nil_append, String.ofList_toList] at hnumber

end GpuPassthrough.UnitKey
