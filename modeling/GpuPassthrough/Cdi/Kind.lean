import GpuPassthrough.Error

/-!
# Kinds

The kind of a device specification is a vendor and a class with a slash between them. Either half is
ASCII letters, digits, hyphens, underscores and dots, with a letter or a digit at both ends.

## Main results

* `validate_eq_ok_iff`: which texts are halves of a kind.
-/

namespace GpuPassthrough.Cdi

/-- An ASCII letter or digit. -/
def isAlphanumeric (c : Char) : Bool :=
  let n := c.toNat
  (48 ≤ n && n ≤ 57) || (65 ≤ n && n ≤ 90) || (97 ≤ n && n ≤ 122)

/-- A character of a half of a kind. -/
def isKindChar (c : Char) : Bool := isAlphanumeric c || c == '_' || c == '-' || c == '.'

/-- Why a text is no half of a kind. -/
inductive KindFault where
  | empty
  | badEnds
  | badCharacter (c : Char)
  deriving DecidableEq

/-- The wording of a fault. -/
def KindFault.message : KindFault → String
  | empty => "name is empty"
  | badEnds => "name must start and end with a letter or digit"
  | badCharacter c => "invalid character " ++ Text.quoteChar c

/-- A fault of a name as an error of the plugin. -/
def KindFault.toError (name : String) (fault : KindFault) : PluginError :=
  .invalidClass name fault.message

/-- Whether a text has a letter or a digit at both ends. -/
def hasGoodEnds (s : List Char) : Bool :=
  (s.head?.map isAlphanumeric).getD false && (s.getLast?.map isAlphanumeric).getD false

/-- Refuses a text that is no half of a kind. -/
def validate (name : String) : Except KindFault Unit :=
  if name.toList.isEmpty then .error .empty
  else if !hasGoodEnds name.toList then .error .badEnds
  else match name.toList.find? fun c => !isKindChar c with
    | some c => .error (.badCharacter c)
    | none => .ok ()

/-- The halves of kinds are the texts of their characters with a letter or a digit at both ends. -/
theorem validate_eq_ok_iff {name : String} :
    validate name = .ok () ↔ hasGoodEnds name.toList = true ∧ ∀ c ∈ name.toList, isKindChar c := by
  unfold validate
  cases h : name.toList with
  | nil => simp [hasGoodEnds]
  | cons c rest =>
    simp only [List.isEmpty_cons, Bool.false_eq_true, if_false]
    by_cases hends : hasGoodEnds (c :: rest) = true
    · simp only [hends, Bool.not_true, Bool.false_eq_true, if_false, true_and]
      split
      · next d hd =>
        have hmem := List.mem_of_find?_eq_some hd
        have hbad := List.find?_some hd
        simp only [reduceCtorEq, false_iff]
        intro hall
        simp [hall d hmem] at hbad
      · next hnone =>
        simp only [true_iff]
        intro d hd
        simpa using List.find?_eq_none.1 hnone d hd
    · simp [hends]

end GpuPassthrough.Cdi
