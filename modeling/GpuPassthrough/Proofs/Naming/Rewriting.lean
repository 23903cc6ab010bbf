import GpuPassthrough.Proofs.Naming

/-!
# Names Rewritten from Left to Right

The passes that follow upper case come to one rewriting of the text from left to right: a run of
white space, a slash or a dot becomes an underscore, and of the other characters those of resource
names are kept. White space is collapsed before characters are dropped, so that two runs with nothing
between them but dropped characters are two underscores. What has been formatted consists of
characters of resource names, which none of the passes changes.

## Main results

* `rewrites_iff`: the passes come to the rewriting.
* `formatChars_eq_self`: characters of resource names stay as they are.
* `isFormatted_format`: what a formatted name is.
-/

namespace GpuPassthrough.Naming

open Unicode (isWhitespace)

/-- **The rewriting of a text** in upper case, from left to right. -/
inductive Rewrites : List Char → List Char → Prop
  | done : Rewrites [] []
  /-- A run of white space, as long as it is, becomes one underscore. -/
  | blanks {run rest out : List Char} (hne : run ≠ []) (hrun : ∀ c ∈ run, isWhitespace c = true)
      (hrest : ∀ c, rest.head? = some c → isWhitespace c = false) (hout : Rewrites rest out) :
      Rewrites (run ++ rest) ('_' :: out)
  /-- A slash or a dot becomes one, too. -/
  | separator {c : Char} {rest out : List Char} (hc : c = '/' ∨ c = '.') (hout : Rewrites rest out) :
      Rewrites (c :: rest) ('_' :: out)
  /-- Letters and digits of ASCII, underscores and hyphens are kept. -/
  | kept {c : Char} {rest out : List Char} (hc : c.isAlphanum = true ∨ c = '_' ∨ c = '-')
      (hout : Rewrites rest out) : Rewrites (c :: rest) (c :: out)
  /-- All other characters are dropped. -/
  | dropped {c : Char} {rest out : List Char} (hblank : isWhitespace c = false)
      (hseparator : ¬ (c = '/' ∨ c = '.')) (hother : ¬ (c.isAlphanum = true ∨ c = '_' ∨ c = '-'))
      (hout : Rewrites rest out) : Rewrites (c :: rest) out

/-! ### Characters -/

/-- The letters and digits of ASCII, by their classes. -/
theorem isAlphanum_iff {c : Char} :
    c.isAlphanum = true ↔ (c.isUpper = true ∨ c.isLower = true) ∨ c.isDigit = true := by
  have hclasses : c.isAlphanum = (c.isUpper || c.isLower || c.isDigit) := rfl
  rw [hclasses, Bool.or_eq_true, Bool.or_eq_true]

/-- The characters of resource names. -/
theorem isNameChar_iff {c : Char} :
    isNameChar c = true ↔ c.isAlphanum = true ∨ c = '_' ∨ c = '-' := by
  have hdigit : c.isDigit = true ↔ 48 ≤ c.toNat ∧ c.toNat ≤ 57 := Char.isDigit_iff_toNat
  simp only [isNameChar, isAlphanum_iff, Bool.or_eq_true, Bool.and_eq_true, decide_eq_true_eq,
    beq_iff_eq, Unicode.isUpper_iff, Unicode.isLower_iff, hdigit]
  tauto

/-- The character of a separator. -/
theorem separate_of_separator {c : Char} (hc : c = '/' ∨ c = '.') : separate c = '_' := by
  obtain rfl | rfl := hc <;> rfl

/-- Other characters are left alone. -/
theorem separate_of_ne {c : Char} (hc : ¬ (c = '/' ∨ c = '.')) : separate c = c := by
  rw [separate, if_neg]
  simpa using hc

/-- Separators are no white space, and do not become any. -/
theorem isWhitespace_separate (c : Char) : isWhitespace (separate c) = isWhitespace c := by
  by_cases hc : c = '/' ∨ c = '.'
  · rw [separate_of_separator hc]
    obtain rfl | rfl := hc <;> decide
  · rw [separate_of_ne hc]

/-- A character of resource names is no separator. -/
theorem not_separator_of_isNameChar {c : Char} (hc : isNameChar c = true) :
    ¬ (c = '/' ∨ c = '.') := by
  rintro (rfl | rfl) <;> revert hc <;> decide

/-- And no white space. -/
theorem not_isWhitespace_of_isNameChar {c : Char} (hc : isNameChar c = true) :
    isWhitespace c = false := by
  rw [Bool.eq_false_iff]
  intro hblank
  simp only [isNameChar, isWhitespace, Bool.or_eq_true, Bool.and_eq_true, decide_eq_true_eq,
    beq_iff_eq] at hc hblank
  obtain (hc | rfl) | rfl := hc
  · omega
  · revert hblank
    decide
  · revert hblank
    decide

/-! ### The passes after upper case -/

/-- The passes that follow upper case. -/
def clean (s : List Char) : List Char := (collapse false (s.map separate)).filter isNameChar

variable {s out : List Char}

/-- White space behind white space is skipped. -/
theorem collapse_true_append {run rest : List Char} (hrun : ∀ c ∈ run, isWhitespace c = true) :
    collapse true (run ++ rest) = collapse true rest := by
  induction run with
  | nil => rfl
  | cons c run ih =>
    obtain ⟨hc, hrun⟩ := List.forall_mem_cons.1 hrun
    rw [List.cons_append, collapse, if_pos hc, if_pos rfl, ih hrun]

/-- Where there is no white space it does not matter what is in front. -/
theorem collapse_true_of_head (hhead : ∀ c, s.head? = some c → isWhitespace c = false) :
    collapse true s = collapse false s := by
  cases s with
  | nil => rfl
  | cons c rest => simp only [collapse, hhead c rfl, Bool.false_eq_true, if_false]

/-- A run of white space is cleaned to an underscore. -/
theorem clean_append {run rest : List Char} (hne : run ≠ [])
    (hrun : ∀ c ∈ run, isWhitespace c = true)
    (hrest : ∀ c, rest.head? = some c → isWhitespace c = false) :
    clean (run ++ rest) = '_' :: clean rest := by
  cases run with
  | nil => exact absurd rfl hne
  | cons c run =>
    obtain ⟨hc, hrun⟩ := List.forall_mem_cons.1 hrun
    have hrun' : ∀ d ∈ run.map separate, isWhitespace d = true := by
      intro d hd
      obtain ⟨blank, hblank, rfl⟩ := List.mem_map.1 hd
      rw [isWhitespace_separate, hrun blank hblank]
    have hrest' : ∀ d, (rest.map separate).head? = some d → isWhitespace d = false := by
      intro d hd
      rw [List.head?_map] at hd
      obtain ⟨first, hfirst, rfl⟩ := Option.map_eq_some_iff.1 hd
      rw [isWhitespace_separate, hrest first hfirst]
    rw [clean, List.map_append, List.map_cons, List.cons_append, collapse,
      if_pos (by rwa [isWhitespace_separate]), if_neg Bool.false_ne_true,
      collapse_true_append hrun', collapse_true_of_head hrest']
    rfl

/-- A character that is no white space is cleaned on its own. -/
theorem clean_cons {c : Char} {rest : List Char} (hc : isWhitespace c = false) :
    clean (c :: rest) = [separate c].filter isNameChar ++ clean rest := by
  rw [clean, List.map_cons, collapse, if_neg (by rw [isWhitespace_separate, hc]; decide),
    ← List.singleton_append, List.filter_append]
  rfl

/-- A text that is rewritten is cleaned to what comes out. -/
theorem Rewrites.clean_eq (hrewrites : Rewrites s out) : clean s = out := by
  induction hrewrites with
  | done => rfl
  | blanks hne hrun hrest _ ih => rw [clean_append hne hrun hrest, ih]
  | @separator c rest out hc _ ih =>
    have hblank : isWhitespace c = false := by obtain rfl | rfl := hc <;> decide
    rw [clean_cons hblank, separate_of_separator hc, ih]
    rfl
  | @kept c rest out hc _ ih =>
    have hname := isNameChar_iff.2 hc
    rw [clean_cons (not_isWhitespace_of_isNameChar hname),
      separate_of_ne (not_separator_of_isNameChar hname), List.filter_singleton, hname, ih]
    rfl
  | @dropped c rest out hblank hseparator hother _ ih =>
    have hname : isNameChar c = false := Bool.eq_false_iff.2 fun h => hother (isNameChar_iff.1 h)
    rw [clean_cons hblank, separate_of_ne hseparator, List.filter_singleton, hname, ih]
    rfl

/-- Every text can be rewritten. -/
theorem exists_rewrites (s : List Char) : ∃ out, Rewrites s out := by
  induction hlength : s.length using Nat.strong_induction_on generalizing s with
  | h n ih =>
    cases s with
    | nil => exact ⟨[], .done⟩
    | cons c rest =>
      by_cases hblank : isWhitespace c = true
      · -- The run goes on as long as there is white space.
        have hrest : ∀ d, (rest.dropWhile isWhitespace).head? = some d → isWhitespace d = false := by
          intro d hd
          have hhead := List.head?_dropWhile_not isWhitespace rest
          rwa [hd] at hhead
        have hrun : ∀ d ∈ c :: rest.takeWhile isWhitespace, isWhitespace d = true :=
          List.forall_mem_cons.2 ⟨hblank, fun d hd => List.mem_takeWhile_imp hd⟩
        have hshorter : (rest.dropWhile isWhitespace).length < n := by
          have hle := (List.dropWhile_suffix isWhitespace (l := rest)).length_le
          rw [← hlength, List.length_cons]
          omega
        obtain ⟨out, hout⟩ := ih _ hshorter _ rfl
        have hrewrites := Rewrites.blanks (List.cons_ne_nil _ _) hrun hrest hout
        rw [List.cons_append, List.takeWhile_append_dropWhile] at hrewrites
        exact ⟨_, hrewrites⟩
      · obtain ⟨out, hout⟩ := ih rest.length (by simp [← hlength]) rest rfl
        rw [Bool.not_eq_true] at hblank
        by_cases hseparator : c = '/' ∨ c = '.'
        · exact ⟨_, .separator hseparator hout⟩
        by_cases hname : c.isAlphanum = true ∨ c = '_' ∨ c = '-'
        · exact ⟨_, .kept hname hout⟩
        · exact ⟨_, .dropped hblank hseparator hname hout⟩

/-- **The passes come to the rewriting.** -/
theorem rewrites_iff : Rewrites s out ↔ clean s = out := by
  refine ⟨Rewrites.clean_eq, ?_⟩
  rintro rfl
  obtain ⟨out, hout⟩ := exists_rewrites s
  exact hout.clean_eq ▸ hout

/-! ### Formatted names -/

/-- A capital letter, a digit, an underscore or a hyphen is a character of resource names. -/
theorem IsResourceChar.isNameChar {c : Char} (hc : IsResourceChar c) : isNameChar c = true := by
  rw [isNameChar_iff, isAlphanum_iff]
  obtain hc | hc | hc := hc
  · exact .inl (.inl (.inl hc))
  · exact .inl (.inr hc)
  · exact .inr hc

/-- It is its own upper case. -/
theorem IsResourceChar.uppercase_eq {c : Char} (hc : IsResourceChar c) :
    Unicode.uppercase c = [c] := by
  have hall : ∀ n : Fin 0x80, (Char.ofNat n).isLower = false →
      (Char.ofNat n).toUpper = Char.ofNat n := by decide +kernel
  have hascii : c.toNat < 0x80 ∧ c.isLower = false := by
    rw [IsResourceChar, Unicode.isUpper_iff] at hc
    rw [Bool.eq_false_iff, ne_eq, Unicode.isLower_iff]
    obtain hc | hc | rfl | rfl := hc
    · omega
    · have hdigit : 48 ≤ c.toNat ∧ c.toNat ≤ 57 := Char.isDigit_iff_toNat.1 hc
      omega
    · decide
    · decide
  have hupper := hall ⟨c.toNat, hascii.1⟩
  rw [Char.ofNat_toNat] at hupper
  rw [Unicode.uppercase_of_ascii hascii.1, hupper hascii.2]

/-- **Characters of resource names stay as they are.** -/
theorem formatChars_eq_self (hs : ∀ c ∈ s, IsResourceChar c) : formatChars s = s := by
  induction s with
  | nil => rfl
  | cons c rest ih =>
    obtain ⟨hc, hrest⟩ := List.forall_mem_cons.1 hs
    calc formatChars (c :: rest)
      _ = clean (Unicode.uppercase c ++ rest.flatMap Unicode.uppercase) := rfl
      _ = clean (c :: rest.flatMap Unicode.uppercase) := by
        rw [hc.uppercase_eq, List.singleton_append]
      _ = [c].filter isNameChar ++ formatChars rest := by
        rw [clean_cons (not_isWhitespace_of_isNameChar hc.isNameChar),
          separate_of_ne (not_separator_of_isNameChar hc.isNameChar)]
        rfl
      _ = c :: rest := by
        rw [ih hrest, List.filter_singleton, hc.isNameChar]
        rfl

/-- **What a formatted name is.** -/
structure IsFormatted (name formatted : String) : Prop where
  /-- It consists of capital letters, digits, underscores and hyphens. -/
  characters : ∀ c ∈ formatted.toList, c.isUpper = true ∨ c.isDigit = true ∨ c = '_' ∨ c = '-'
  /-- It is the name in upper case, rewritten from left to right, -/
  rewritten : Rewrites (name.toList.flatMap Unicode.uppercase) formatted.toList
  /-- in the only way there is. -/
  only : ∀ other, Rewrites (name.toList.flatMap Unicode.uppercase) other → other = formatted.toList
  /-- Formatting it again changes nothing. -/
  again : format formatted = formatted

/-- **Formatting a name** gives its formatted name. -/
theorem isFormatted_format (name : String) : IsFormatted name (format name) := by
  have hcharacters : ∀ c ∈ (format name).toList, IsResourceChar c := by
    intro c hc
    rw [format, String.toList_ofList] at hc
    exact isResourceChar_of_mem_formatChars hc
  have hclean : clean (name.toList.flatMap Unicode.uppercase) = (format name).toList := by
    rw [format, String.toList_ofList]
    rfl
  constructor
  case characters => exact hcharacters
  case rewritten => exact rewrites_iff.2 hclean
  case only => exact fun other hother => hother.clean_eq.symm.trans hclean
  case again =>
    rw [format, formatChars_eq_self hcharacters, String.ofList_toList]

/-- Runs of white space with dropped characters between them are separate underscores. -/
example : format "a ( ) \u00DFeta/1.b" = "A___SSETA_1_B" := by decide +kernel

end GpuPassthrough.Naming
