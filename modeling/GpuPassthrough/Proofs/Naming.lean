import GpuPassthrough.Naming
import GpuPassthrough.Unicode.Range
import Mathlib.Data.List.DropRight

/-!
# What Resource Names Consist of

Upper case leaves no ASCII letter in lower case, also where it makes several characters of one, and
the passes that follow add underscores and drop characters. So a formatted name is made of capital
letters, digits, underscores and hyphens. Without the separators at its ends it begins and ends with
a letter or a digit, if anything is left.

## Main results

* `Unicode.not_isLower_of_mem_uppercase`: upper case leaves nothing in lower case.
* `Naming.isResourceChar_of_mem_formatChars`: the characters of a formatted name.
* `Naming.head?_trimSeparators`, `Naming.getLast?_trimSeparators`: the ends of a trimmed one.
-/

namespace GpuPassthrough

/-! ### Upper case -/

namespace Unicode

/-- A character is an ASCII letter in lower case by its number. -/
theorem isLower_iff {c : Char} : c.isLower = true ↔ 97 ≤ c.toNat ∧ c.toNat ≤ 122 := by
  delta Char.isLower
  simp only [Bool.and_eq_true, decide_eq_true_eq, ge_iff_le, UInt32.le_iff_toNat_le]
  rfl

/-- And one in upper case. -/
theorem isUpper_iff {c : Char} : c.isUpper = true ↔ 65 ≤ c.toNat ∧ c.toNat ≤ 90 := by
  delta Char.isUpper
  simp only [decide_eq_true_eq, ge_iff_le, UInt32.le_iff_toNat_le]
  rfl

/-- No run of the table ends among the ASCII letters in lower case. -/
theorem runs_apart : ∀ run ∈ uppercaseRuns,
    (run.2.1 : Int) + run.2.2.2 < 97 ∨ 122 < (run.1 : Int) + run.2.2.2 := by
  decide +kernel

/-- No expansion has an ASCII letter in lower case. -/
theorem expansions_apart : ∀ expansion ∈ uppercaseExpansions, ∀ n ∈ expansion.2,
    n < 97 ∨ 122 < n := by
  decide +kernel

/-- ASCII in upper case has no letters in lower case. -/
theorem not_isLower_toUpper {c : Char} (hascii : c.toNat < 0x80) : c.toUpper.isLower = false := by
  have hall : ∀ n : Fin 0x80, (Char.ofNat n).toUpper.isLower = false := by decide +kernel
  have hc := hall ⟨c.toNat, hascii⟩
  rwa [Char.ofNat_toNat] at hc

/-- **Upper case leaves no ASCII letter in lower case.** -/
theorem not_isLower_of_mem_uppercase {c d : Char} (hd : d ∈ uppercase c) : d.isLower = false := by
  rw [Bool.eq_false_iff]
  intro hlower
  rw [isLower_iff] at hlower
  rw [uppercase] at hd
  split at hd
  · next hascii =>
    obtain rfl := List.mem_singleton.1 hd
    exact absurd (isLower_iff.2 hlower) (by rw [not_isLower_toUpper hascii]; exact Bool.false_ne_true)
  · next hbeyond =>
    split at hd
    · next expansion hfind =>
      obtain ⟨n, hn, rfl⟩ := List.mem_map.1 hd
      have hapart := expansions_apart expansion (List.mem_of_find?_eq_some hfind) n hn
      obtain heq | heq := toNat_ofNat_or n <;> omega
    · split at hd
      · next run hfind =>
        obtain rfl := List.mem_singleton.1 hd
        have hapart := runs_apart run (List.mem_of_find?_eq_some hfind)
        have hrun := List.find?_some hfind
        simp only [inUppercaseRun, Bool.and_eq_true, decide_eq_true_eq] at hrun
        obtain heq | heq := toNat_ofNat_or (c.toNat + run.2.2.2).toNat <;> omega
      · obtain rfl := List.mem_singleton.1 hd
        omega

end Unicode

namespace Naming

/-! ### Formatted names -/

/-- **The characters of formatted names**: capital letters, digits, underscores and hyphens. -/
def IsResourceChar (c : Char) : Prop :=
  c.isUpper = true ∨ c.isDigit = true ∨ c = '_' ∨ c = '-'

/-- A character of resource names that is no letter in lower case. -/
theorem isResourceChar_of_isNameChar {c : Char} (hname : isNameChar c = true)
    (hlower : c.isLower = false) : IsResourceChar c := by
  have hlower' : ¬ (97 ≤ c.toNat ∧ c.toNat ≤ 122) := by
    rw [← Unicode.isLower_iff, hlower]
    exact Bool.false_ne_true
  have hdigit : c.isDigit = true ↔ 48 ≤ c.toNat ∧ c.toNat ≤ 57 := Char.isDigit_iff_toNat
  simp only [isNameChar, Bool.or_eq_true, Bool.and_eq_true, decide_eq_true_eq, beq_iff_eq] at hname
  rw [IsResourceChar, Unicode.isUpper_iff, hdigit]
  tauto

/-- Collapsing adds underscores and nothing else. -/
theorem mem_of_mem_collapse {blank : Bool} {s : List Char} {c : Char} (hc : c ∈ collapse blank s) :
    c = '_' ∨ c ∈ s := by
  induction s generalizing blank with
  | nil => cases hc
  | cons first rest ih =>
    rw [collapse] at hc
    split at hc
    · split at hc
      · exact (ih hc).imp_right (List.mem_cons_of_mem first)
      · obtain hc | hc := List.mem_cons.1 hc
        · exact .inl hc
        · exact (ih hc).imp_right (List.mem_cons_of_mem first)
    · obtain hc | hc := List.mem_cons.1 hc
      · exact .inr (hc ▸ List.mem_cons_self)
      · exact (ih hc).imp_right (List.mem_cons_of_mem first)

/-- **The characters of a formatted name** are capital letters, digits, underscores and hyphens. -/
theorem isResourceChar_of_mem_formatChars {s : List Char} {c : Char} (hc : c ∈ formatChars s) :
    IsResourceChar c := by
  obtain ⟨hcollapsed, hname⟩ := List.mem_filter.1 hc
  obtain hunderscore | hmem := mem_of_mem_collapse hcollapsed
  · exact .inr (.inr (.inl hunderscore))
  obtain ⟨upper, hupper, rfl⟩ := List.mem_map.1 hmem
  obtain ⟨first, -, hupper⟩ := List.mem_flatMap.1 hupper
  by_cases hseparator : (upper == '/' || upper == '.') = true
  · rw [separate, if_pos hseparator]
    exact .inr (.inr (.inl rfl))
  · rw [separate, if_neg hseparator] at hname ⊢
    exact isResourceChar_of_isNameChar hname (Unicode.not_isLower_of_mem_uppercase hupper)

/-! ### Trimmed names -/

/-- A trimmed name is what is left between its separators. -/
theorem toList_trimSeparators (name : String) :
    (trimSeparators name).toList = (name.toList.dropWhile isSeparator).rdropWhile isSeparator := by
  rw [trimSeparators, String.toList_ofList]
  rfl

/-- Trimming adds no characters. -/
theorem mem_of_mem_trimSeparators {name : String} {c : Char}
    (hc : c ∈ (trimSeparators name).toList) : c ∈ name.toList := by
  rw [toList_trimSeparators] at hc
  exact (List.dropWhile_suffix _).subset ((List.rdropWhile_prefix _ _).subset hc)

/-- A trimmed name does not end with a separator. -/
theorem getLast?_trimSeparators {name : String} {c : Char}
    (hc : (trimSeparators name).toList.getLast? = some c) : isSeparator c = false := by
  rw [toList_trimSeparators] at hc
  obtain ⟨hne, rfl⟩ := List.mem_getLast?_eq_getLast hc
  exact Bool.eq_false_iff.2 (List.rdropWhile_last_not _ _ hne)

/-- A trimmed name does not begin with a separator. -/
theorem head?_trimSeparators {name : String} {c : Char}
    (hc : (trimSeparators name).toList.head? = some c) : isSeparator c = false := by
  rw [toList_trimSeparators] at hc
  obtain ⟨rest, hrest⟩ := List.rdropWhile_prefix isSeparator (name.toList.dropWhile isSeparator)
  obtain ⟨others, hothers⟩ := List.head?_eq_some_iff.1 hc
  rw [hothers, List.cons_append] at hrest
  have hhead := List.head?_dropWhile_not isSeparator name.toList
  rw [← hrest] at hhead
  simpa using hhead

end Naming

end GpuPassthrough
