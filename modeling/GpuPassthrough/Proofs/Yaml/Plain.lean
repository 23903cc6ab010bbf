import GpuPassthrough.Proofs.Yaml.Numerals
import GpuPassthrough.Yaml.Line
import Mathlib.Data.List.Basic

/-!
# Plain Scalars Read Back

A plain scalar is a word for null or for a truth value, a number, or the text that it is. A text is
written plainly only if it is neither a word nor a number, so that a reader takes it for a text, and
finds all of it.

## Main results

* `plainValue_eq_iff`: a plain scalar is taken for what it stands for.
* `resolves_iff`: the writer quotes words, numbers and numerals with leading zeros.
* `plainValue_eq_text`: a text that need not be quoted is not taken for something else.
* `plainPart_eq_self`: a text without indicators inside is one scalar.
-/

namespace GpuPassthrough.Yaml

variable {s : List Char} {v : Value}

/-! ### What a plain scalar stands for -/

/-- **A word for null or for a truth value.** -/
inductive IsWord : List Char → Value → Prop
  | nothing : IsWord [] .null
  | tilde : IsWord ['~'] .null
  | null {s : List Char} (hcased : IsCased "null".toList s) : IsWord s .null
  | truth {s : List Char} (hcased : IsCased "true".toList s) : IsWord s (.truth true)
  | falsehood {s : List Char} (hcased : IsCased "false".toList s) : IsWord s (.truth false)

/-- **What a plain scalar stands for**: words and numbers for their values, any other text for
itself. -/
inductive StandsFor : List Char → Value → Prop
  | word {s : List Char} {v : Value} (hword : IsWord s v) : StandsFor s v
  | number {s : List Char} {v : Value} (hnumber : IsNumber s v) : StandsFor s v
  | text {s : List Char} (hword : ∀ v, ¬ IsWord s v) (hnumber : ∀ v, ¬ IsNumber s v) :
      StandsFor s (.text s)

/-- A number starts with a digit, a point or a sign. -/
theorem IsNumber.exists_head (h : IsNumber s v) :
    ∃ c rest, s = c :: rest ∧ (c.isDigit = true ∨ c ∈ ['.', '+', '-']) := by
  cases h with
  | signed hsign hunsigned =>
    obtain ⟨c, rest, rfl, hc⟩ := hunsigned.startsNumber
    cases hsign with
    | none =>
      refine ⟨c, rest, rfl, hc.imp_right ?_⟩
      rintro rfl
      exact List.mem_cons_self
    | plus => exact ⟨'+', _, rfl, .inr (by decide)⟩
    | minus => exact ⟨'-', _, rfl, .inr (by decide)⟩
  | nan hspelled => obtain rfl | rfl | rfl := hspelled <;> exact ⟨'.', _, rfl, .inr (by decide)⟩

/-- The first character of a word, if it has one, tells its value. -/
theorem IsWord.head? (h : IsWord s v) :
    v = .null ∧ s.head? ∈ [none, some '~', some 'n', some 'N'] ∨
      v = .truth true ∧ s.head? ∈ [some 't', some 'T'] ∨
        v = .truth false ∧ s.head? ∈ [some 'f', some 'F'] := by
  cases h with
  | nothing => exact .inl ⟨rfl, by decide⟩
  | tilde => exact .inl ⟨rfl, by decide⟩
  | null hcased => obtain rfl | rfl | rfl := hcased <;> simp
  | truth hcased => obtain rfl | rfl | rfl := hcased <;> simp
  | falsehood hcased => obtain rfl | rfl | rfl := hcased <;> simp

/-- A word has one value. -/
theorem IsWord.unique {v' : Value} (h : IsWord s v) (h' : IsWord s v') : v = v' := by
  have hfirst := h.head?
  have hother := h'.head?
  simp only [List.mem_cons, List.not_mem_nil, or_false] at hfirst hother
  grind

/-- No word is a number. -/
theorem IsWord.not_isNumber {v' : Value} (h : IsWord s v) : ¬ IsNumber s v' := by
  intro hnumber
  obtain ⟨c, rest, rfl, hc⟩ := hnumber.exists_head
  have hfirst : c ∈ ['~', 'n', 'N', 't', 'T', 'f', 'F'] := by
    have hhead := h.head?
    simp only [List.head?_cons, List.mem_cons, List.not_mem_nil, or_false, Option.some.injEq,
      reduceCtorEq, false_or] at hhead ⊢
    grind
  have hnone : ∀ c ∈ ['~', 'n', 'N', 't', 'T', 'f', 'F'],
      ¬ (c.isDigit = true ∨ c ∈ ['.', '+', '-']) := by simp
  exact hnone c hfirst hc

/-- A plain scalar stands for one value. -/
theorem StandsFor.unique {v' : Value} (h : StandsFor s v) (h' : StandsFor s v') : v = v' := by
  cases h with
  | word hword =>
    cases h' with
    | word hother => exact hword.unique hother
    | number hother => exact absurd hother hword.not_isNumber
    | text hnone => exact absurd hword (hnone _)
  | number hnumber =>
    cases h' with
    | word hother => exact absurd hnumber hother.not_isNumber
    | number hother => exact hnumber.unique hother
    | text _ hnone => exact absurd hnumber (hnone _)
  | text hword hnumber =>
    cases h' with
    | word hother => exact absurd hother (hword _)
    | number hother => exact absurd hother (hnumber _)
    | text => rfl

/-- The words for null are nothing and the spellings of null. -/
theorem isWord_null_iff : IsWord s .null ↔ s = [] ∨ isSpelled nullSpellings s = true := by
  have hspelled : isSpelled nullSpellings s = true ↔ IsCased "null".toList s ∨ s = ['~'] := by
    simp [isSpelled, nullSpellings, IsCased, eq_comm (b := s), or_assoc]
  rw [hspelled]
  constructor
  · rintro (_ | _ | hcased)
    · exact .inl rfl
    · exact .inr (.inr rfl)
    · exact .inr (.inl hcased)
  · rintro (rfl | hcased | rfl)
    · exact .nothing
    · exact .null hcased
    · exact .tilde

/-- The words for truth values are their spellings. -/
theorem isWord_truth_iff {holds : Bool} : IsWord s (.truth holds) ↔
    isSpelled (if holds then trueSpellings else falseSpellings) s = true := by
  have hspelled : isSpelled (if holds then trueSpellings else falseSpellings) s = true ↔
      IsCased (if holds then "true" else "false").toList s := by
    cases holds <;>
      simp [isSpelled, trueSpellings, falseSpellings, IsCased, eq_comm (b := s)]
  rw [hspelled]
  constructor
  · rintro (_ | _) <;> assumption
  · intro hcased
    cases holds
    · exact .falsehood hcased
    · exact .truth hcased

/-- The value that the reader gives a plain scalar is one that it stands for. -/
theorem standsFor_plainValue (s : List Char) : StandsFor s (plainValue s) := by
  rw [plainValue]
  split
  · next hnull => exact .word (isWord_null_iff.2 (by simpa using hnull))
  · next hnull =>
    split
    · next htrue => exact .word (isWord_truth_iff.2 htrue)
    · next htrue =>
      split
      · next hfalse => exact .word (isWord_truth_iff.2 hfalse)
      · next hfalse =>
        cases hnumber : number? s with
        | some v => exact .number (number?_eq_some_iff.1 hnumber)
        | none =>
          refine .text (fun v hword => ?_) fun v hv =>
            nomatch hnumber.symm.trans (number?_eq_some_iff.2 hv)
          obtain ⟨rfl, -⟩ | ⟨rfl, -⟩ | ⟨rfl, -⟩ := hword.head?
          · exact hnull (by simpa using isWord_null_iff.1 hword)
          · exact htrue (isWord_truth_iff.1 hword)
          · exact hfalse (isWord_truth_iff.1 hword)

/-- **A plain scalar is taken for what it stands for.** -/
theorem plainValue_eq_iff : plainValue s = v ↔ StandsFor s v :=
  ⟨fun hv => hv ▸ standsFor_plainValue s, (standsFor_plainValue s).unique⟩

/-! ### What is quoted -/

/-- A numeral with leading zeros, with a sign or without. -/
def HasLeadingZero (s : List Char) : Prop :=
  ∃ sign negative digits, IsSign sign negative ∧ Text.AreDigits digits ∧ digits ≠ [] ∧
    s = sign ++ '0' :: digits

/-- The writer finds leading zeros. -/
theorem hasLeadingZero_iff : hasLeadingZero s = true ↔ HasLeadingZero s := by
  have hsigned (s : List Char) : Text.dropSign s = (readSign s).2 := by
    unfold Text.dropSign readSign
    split <;> simp_all
  rw [hasLeadingZero, hsigned]
  constructor
  · intro hzero
    obtain ⟨sign, hsign, hs⟩ := exists_sign s
    split at hzero
    · next c rest heq =>
      exact ⟨sign, _, c :: rest, hsign, List.all_eq_true.1 hzero, List.cons_ne_nil c rest,
        heq ▸ hs⟩
    · cases hzero
  · rintro ⟨sign, negative, digits, hsign, hdigits, hne, rfl⟩
    obtain ⟨c, rest, rfl⟩ := List.exists_cons_of_ne_nil hne
    rw [readSign_append hsign ⟨'0', _, rfl, .inl rfl⟩]
    exact List.all_eq_true.2 hdigits

/-- The writer finds words. -/
theorem exists_isWord_iff : (∃ v, IsWord s v) ↔
    s = [] ∨ isSpelled nullSpellings s = true ∨ isSpelled truthSpellings s = true := by
  have htruth : isSpelled truthSpellings s =
      (isSpelled trueSpellings s || isSpelled falseSpellings s) := by
    have happend : truthSpellings = trueSpellings ++ falseSpellings := rfl
    rw [isSpelled, happend, List.any_append, isSpelled, isSpelled]
  rw [htruth, Bool.or_eq_true, ← or_assoc, ← isWord_null_iff]
  constructor
  · rintro ⟨v, hword⟩
    obtain ⟨rfl, -⟩ | ⟨rfl, -⟩ | ⟨rfl, -⟩ := hword.head?
    · exact .inl hword
    · exact .inr (.inl (isWord_truth_iff.1 hword))
    · exact .inr (.inr (isWord_truth_iff.1 hword))
  · rintro (hword | htrue | hfalse)
    · exact ⟨_, hword⟩
    · exact ⟨.truth true, isWord_truth_iff.2 htrue⟩
    · exact ⟨.truth false, isWord_truth_iff.2 hfalse⟩

/-- **A text is quoted exactly if it is a word or a number, or has leading zeros.** -/
theorem resolves_iff : resolves s = true ↔
    (∃ v, IsWord s v) ∨ (∃ v, IsNumber s v) ∨ HasLeadingZero s := by
  rw [exists_isWord_iff, exists_isNumber_iff, ← hasLeadingZero_iff]
  simp only [resolves, Bool.or_eq_true, List.isEmpty_iff]
  tauto

/-- **A text that need not be quoted is not taken for something else.** -/
theorem plainValue_eq_text (h : resolves s = false) : plainValue s = .text s := by
  have hplain : ¬ _ := fun hresolves => Bool.eq_false_iff.1 h (resolves_iff.2 hresolves)
  exact plainValue_eq_iff.2 (.text (fun v hword => hplain (.inl ⟨v, hword⟩))
    fun v hnumber => hplain (.inr (.inl ⟨v, hnumber⟩)))

/-! ### Where a plain scalar ends -/

/-- Whether a text starts with a colon in front of a blank. -/
def startsWithColon : List Char → Bool
  | [] => false
  | c :: rest => c == ':' && blankNext rest

/-- **A text without indicators inside is one scalar.** -/
theorem plainPart_eq_self (hcolon : startsWithColon s = false)
    (hinside : holdsIndicator s = false) : plainPart s = (s, []) := by
  induction s with
  | nil => rfl
  | cons c rest ih =>
    rw [holdsIndicator.eq_def] at hinside
    obtain ⟨hnext, hrest⟩ := Bool.or_eq_false_iff.1 hinside
    have hends : (c == ':' && blankNext rest || c == ' ' && rest.head? == some '#') = false := by
      rw [Bool.or_eq_false_iff]
      refine ⟨hcolon, ?_⟩
      cases rest with
      | nil => simp
      | cons d after =>
        by_contra hcomment
        simp only [Bool.not_eq_false, Bool.and_eq_true, beq_iff_eq, List.head?_cons,
          Option.some.injEq] at hcomment
        obtain ⟨rfl, rfl⟩ := hcomment
        simp [isBlank] at hnext
    have hcolon' : startsWithColon rest = false := by
      cases rest with
      | nil => rfl
      | cons d after => exact (Bool.or_eq_false_iff.1 hnext).1
    rw [plainPart, hends, if_neg Bool.false_ne_true, ih hcolon' hrest]
    rfl

end GpuPassthrough.Yaml
