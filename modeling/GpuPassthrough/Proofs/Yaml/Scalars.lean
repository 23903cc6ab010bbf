import GpuPassthrough.Proofs.Yaml.Plain
import GpuPassthrough.Proofs.Yaml.Quoted

/-!
# Scalars Read Back

A text without line ends is written on one line, and a reader finds the text there, whatever it
looks like: plain where it is not taken for anything else, and between quotes otherwise.

## Main results

* `writtenAs_plain`, `writtenAs_single`, `writtenAs_double`: what is written in each of the styles.
* `exists_writtenAs`: every text without line ends is written on one line and read back from it.
-/

namespace GpuPassthrough.Yaml

/-- No character of a text ends a line that is not written as an escape. -/
def IsSingleLine (s : List Char) : Prop := ∀ c ∈ s, c ≠ '\n' ∧ c ≠ '\u2028' ∧ c ≠ '\u2029'

-- Going through the text, and not through all characters there are.
instance (s : List Char) : Decidable (IsSingleLine s) := List.decidableBAll _ s

/-- Characters that may stand in a line. -/
def IsLineText (s : List Char) : Prop := ∀ c ∈ s, isPrintable c = true ∧ isBreak c = false

instance (s : List Char) : Decidable (IsLineText s) := List.decidableBAll _ s

/-- The scalar as which a text is written. -/
def writtenScalar (s : List Char) : Scalar := ⟨style s != .plain, s⟩

/-- **A text is written in some way** at the end of a line, and read back from there. -/
structure WrittenAs (s written : List Char) : Prop where
  line : ∀ indent, scalarLine indent s = written ++ ['\n']
  text : IsLineText written
  value : ∀ column, readValue? column (' ' :: written) =
    some [⟨column, .leaf (.scalar (writtenScalar s))⟩]
  meaning : (writtenScalar s).text? = some s

variable {s : List Char}

/-! ### What may stand in a line -/

theorem isLineText_append {s t : List Char} : IsLineText (s ++ t) ↔ IsLineText s ∧ IsLineText t :=
  List.forall_mem_append

/-- What may stand in a line may stand there one after the other. -/
theorem isLineText_flatMap {f : Char → List Char} (h : ∀ c ∈ s, IsLineText (f c)) :
    IsLineText (s.flatMap f) := by
  intro d hd
  obtain ⟨c, hc, hmem⟩ := List.mem_flatMap.1 hd
  exact h c hc d hmem

/-- Hexadecimal digits may stand in a line. -/
theorem isLineText_hexDigits (width n : Nat) : IsLineText (hexDigits width n) := by
  have hall : ∀ n : Fin 16, IsLineText [upperHexDigit n] := by decide
  induction width generalizing n with
  | zero => exact List.forall_mem_nil _
  | succ width ih =>
    rw [hexDigits, isLineText_append]
    exact ⟨ih (n / 16), hall ⟨n % 16, Nat.mod_lt n (by omega)⟩⟩

/-- Escapes may stand in a line. -/
theorem isLineText_escape (c : Char) : IsLineText (escape c) := by
  have hletters : ∀ p ∈ letterEscapes, IsLineText ['\\', p.2] := by decide
  have hnumber (letter : Char) (hletter : IsLineText ['\\', letter]) (width : Nat) :
      IsLineText ('\\' :: letter :: hexDigits width c.toNat) :=
    isLineText_append.2 ⟨hletter, isLineText_hexDigits width c.toNat⟩
  rw [escape]
  split
  · next letter hlookup =>
    obtain ⟨before, after, hmem, -⟩ := List.lookup_eq_some_iff.1 hlookup
    exact hletters (c, letter) (by simp [hmem])
  · dsimp only
    split
    · exact hnumber 'x' (by decide) 2
    · split
      · exact hnumber 'u' (by decide) 4
      · exact hnumber 'U' (by decide) 8

/-- What a character becomes between double quotes may stand in a line. -/
theorem isLineText_doubleQuotedChar (c : Char) : IsLineText (doubleQuotedChar c) := by
  rw [doubleQuotedChar]
  split
  · exact isLineText_escape c
  · next hplain =>
    simp only [Bool.or_eq_true, not_or, Bool.not_eq_true', Bool.not_eq_false,
      Bool.not_eq_true] at hplain
    obtain ⟨⟨⟨hprintable, hbreak⟩, -⟩, -⟩ := hplain
    exact List.forall_mem_singleton.2 ⟨hprintable, hbreak⟩

/-- What a character becomes between single quotes may stand in a line if the character may. -/
theorem isLineText_singleQuotedChar {c : Char} (h : isPrintable c = true ∧ isBreak c = false) :
    IsLineText (singleQuotedChar c) := by
  rw [singleQuotedChar]
  split
  · exact List.forall_mem_cons.2 ⟨h, List.forall_mem_singleton.2 h⟩
  · exact List.forall_mem_singleton.2 h

/-! ### Values -/

/-- A scalar that takes up the rest of a line is the value there. -/
theorem readValue?_of_readScalar? {c : Char} {rest : List Char} {scalar : Scalar} (column : Nat)
    (hstart : c ∉ [' ', '#', '[', '\x7b']) (hread : readScalar? (c :: rest) = some (scalar, [])) :
    readValue? column (' ' :: c :: rest) = some [⟨column, .leaf (.scalar scalar)⟩] := by
  simp only [List.mem_cons, List.not_mem_nil, or_false, not_or] at hstart
  obtain ⟨hspace, hhash, hbracket, hbrace⟩ := hstart
  have hskip : skipSpaces (' ' :: c :: rest) = c :: rest := by
    simp [skipSpaces, hspace]
  have hleaf : readLeaf? (c :: rest) = some (.scalar scalar) := by
    rw [readLeaf?]
    · rw [hread]
      rfl
    · exact fun _ heq => hbracket (List.cons.inj heq).1
    · exact fun _ heq => hbrace (List.cons.inj heq).1
  simp [readValue?, endsLine, hskip, hhash, hleaf]

/-- In a text on a single line, what may be written as it is ends no line. -/
theorem isLineText_of_needsEscapes (hsingle : IsSingleLine s) (h : needsEscapes s = false) :
    IsLineText s := by
  intro c hc
  have hprintable : isPrintable c = true := by
    have hall := (Bool.or_eq_false_iff.1 h).1
    simpa using List.any_eq_false.1 hall c hc
  refine ⟨hprintable, ?_⟩
  obtain ⟨hfeed, hline, hparagraph⟩ := hsingle c hc
  have hreturn : c ≠ '\r' := by
    rintro rfl
    cases hprintable
  have hnext : c ≠ '\u0085' := by
    rintro rfl
    cases hprintable
  simp [isBreak, hfeed, hline, hparagraph, hreturn, hnext]

/-! ### The styles -/

/-- A text between double quotes. -/
theorem writtenAs_double (h : style s = .doubleQuoted) :
    WrittenAs s ('\x22' :: s.flatMap doubleQuotedChar ++ ['\x22']) where
  line indent := by
    rw [scalarLine, h]
    simp
  text := by
    have hinner := isLineText_flatMap fun c (_ : c ∈ s) => isLineText_doubleQuotedChar c
    have hquote : IsLineText ['\x22'] := by decide
    exact isLineText_append.2 ⟨isLineText_append.2 ⟨hquote, hinner⟩, hquote⟩
  value column := by
    refine readValue?_of_readScalar? column (by decide) ?_
    simp [readScalar?, readDouble?_escaped, writtenScalar, h]
  meaning := by
    rw [writtenScalar, h]
    rfl

/-- A text between single quotes. -/
theorem writtenAs_single (hsingle : IsSingleLine s) (h : style s = .singleQuoted)
    (hescapes : needsEscapes s = false) :
    WrittenAs s ('\x27' :: s.flatMap singleQuotedChar ++ ['\x27']) where
  line indent := by
    have htext := isLineText_of_needsEscapes hsingle hescapes
    rw [scalarLine, h]
    simp [singleQuotedChars_eq_flatMap indent fun c hc => (htext c hc).2]
  text := by
    have htext := isLineText_of_needsEscapes hsingle hescapes
    have hinner := isLineText_flatMap fun c hc => isLineText_singleQuotedChar (htext c hc)
    have hquote : IsLineText ['\x27'] := by decide
    exact isLineText_append.2 ⟨isLineText_append.2 ⟨hquote, hinner⟩, hquote⟩
  value column := by
    refine readValue?_of_readScalar? column (by decide) ?_
    simp [readScalar?, readSingle?_doubled, writtenScalar, h]
  meaning := by
    rw [writtenScalar, h]
    rfl

/-- A text without a space at its end has nothing to trim. -/
theorem trimEnd_eq_self (h : s.getLast? ≠ some ' ') : trimEnd s = s := by
  have hlast : s.reverse.head? ≠ some ' ' := by rwa [List.head?_reverse]
  have hkept : s.reverse.dropWhile (· == ' ') = s.reverse := by
    cases hreverse : s.reverse with
    | nil => rfl
    | cons c rest =>
      rw [hreverse] at hlast
      have hspace : c ≠ ' ' := fun heq => hlast (congrArg some heq)
      simp [hspace]
  rw [trimEnd, hkept, List.reverse_reverse]

/-- What does not start with an indicator, a blank or a space can start a plain scalar. -/
theorem startsPlain_of_not_startsWithIndicator {c : Char} {rest : List Char}
    (hblank : isBlank c = false) (h : startsWithIndicator (c :: rest) = false) :
    startsPlain (c :: rest) = true := by
  obtain ⟨-, hindicator⟩ := Bool.or_eq_false_iff.1 h
  obtain ⟨hcontains, hmark⟩ := Bool.or_eq_false_iff.1 hindicator
  rw [startsPlain, hblank, hcontains, hmark]
  rfl

/-- What starts a plain scalar is no blank and no other indicator. -/
theorem notMem_of_startsPlain {c : Char} {rest : List Char} (h : startsPlain (c :: rest) = true) :
    c ∉ [' ', '#', '[', '\x7b', '\x27', '\x22'] := by
  intro hmem
  have hall : [' ', '#', '[', '\x7b', '\x27', '\x22'].all
      (fun c => isBlank c || startIndicators.contains c) = true := rfl
  have hc := List.all_eq_true.1 hall c hmem
  simp only [startsPlain, Bool.not_eq_true', Bool.or_eq_false_iff] at h
  obtain ⟨⟨hblank, hcontains⟩, -⟩ := h
  rw [hblank, hcontains] at hc
  cases hc

/-- What starts a plain scalar is no colon in front of a blank. -/
theorem startsWithColon_of_startsPlain {c : Char} {rest : List Char}
    (h : startsPlain (c :: rest) = true) : startsWithColon (c :: rest) = false := by
  rw [startsWithColon, Bool.eq_false_iff]
  intro hcolon
  obtain ⟨hc, hblank⟩ := Bool.and_eq_true_iff.1 hcolon
  simp [startsPlain, hc, hblank] at h

/-- A plain text. -/
theorem writtenAs_plain (hsingle : IsSingleLine s) (h : style s = .plain)
    (hresolves : resolves s = false) (hplain : allowsPlain s = true) : WrittenAs s s := by
  simp only [allowsPlain, Bool.not_eq_true', Bool.or_eq_false_iff] at hplain
  obtain ⟨⟨⟨⟨hpadded, -⟩, hescapes⟩, hstart⟩, hinside⟩ := hplain
  have htext := isLineText_of_needsEscapes hsingle hescapes
  have hscalar : writtenScalar s = ⟨false, s⟩ := by
    rw [writtenScalar, h]
    rfl
  have hmeaning : Scalar.text? ⟨false, s⟩ = some s := by
    rw [Scalar.text?, Scalar.value, if_neg Bool.false_ne_true, plainValue_eq_text hresolves]
  refine ⟨fun indent => by rw [scalarLine, h], htext, fun column => ?_, hscalar ▸ hmeaning⟩
  rw [hscalar]
  obtain ⟨hfirst, hlast⟩ := Bool.or_eq_false_iff.1 hpadded
  have hend : s.getLast? ≠ some ' ' := by
    intro heq
    rw [heq] at hlast
    cases hlast
  cases s with
  | nil => cases hresolves
  | cons c rest =>
    obtain ⟨hprintable, hbreak⟩ := htext c List.mem_cons_self
    have hblank : isBlank c = false := by
      have hspace : c ≠ ' ' := by
        rintro rfl
        cases hfirst
      have htab : c ≠ '\t' := by
        rintro rfl
        cases hprintable
      simp [isBlank, hspace, htab, hbreak]
    have hplain := startsPlain_of_not_startsWithIndicator hblank hstart
    have hcolon := startsWithColon_of_startsPlain hplain
    have hnot := notMem_of_startsPlain hplain
    simp only [List.mem_cons, List.not_mem_nil, or_false, not_or] at hnot
    refine readValue?_of_readScalar? column (by simp [hnot]) ?_
    simp [readScalar?, hnot, hplain, plainPart_eq_self hcolon hinside, trimEnd_eq_self hend]

/-- Nothing is indented in a text without line ends. -/
theorem indents_eq_false (h : ∀ c ∈ s, isBreak c = false) : indents s = false := by
  induction s with
  | nil => rfl
  | cons c rest ih =>
    rw [List.forall_mem_cons] at h
    cases rest with
    | nil => rfl
    | cons d after =>
      have hrest := ih h.2
      rw [indents] at hrest ⊢
      rw [anyPair, hrest, h.1]
      rfl

/-- **Every text without line ends is written on one line**, and read back from it. -/
theorem exists_writtenAs (hsingle : IsSingleLine s) : ∃ written, WrittenAs s written := by
  have hquotes (h : style s = quotes s) : ∃ written, WrittenAs s written := by
    cases hescapes : needsEscapes s with
    | true =>
      refine ⟨_, writtenAs_double ?_⟩
      rw [h, quotes, hescapes, Bool.or_true, if_pos rfl]
    | false =>
      have htext := isLineText_of_needsEscapes hsingle hescapes
      refine ⟨_, writtenAs_single hsingle ?_ hescapes⟩
      rw [h, quotes, hescapes, indents_eq_false fun c hc => (htext c hc).2]
      rfl
  have hfeed : s.contains '\n' = false := by
    rw [List.contains_eq_mem, decide_eq_false_iff_not]
    exact fun hmem => (hsingle _ hmem).1 rfl
  have hstyle : style s =
      if resolves s then quotes s else if allowsPlain s then .plain else quotes s := by
    rw [style, hfeed, if_neg Bool.false_ne_true]
  cases hresolves : resolves s with
  | true => exact hquotes (by rw [hstyle, hresolves, if_pos rfl])
  | false =>
    rw [hresolves, if_neg Bool.false_ne_true] at hstyle
    cases hplain : allowsPlain s with
    | true =>
      have hstyle' : style s = .plain := by rw [hstyle, hplain, if_pos rfl]
      exact ⟨s, writtenAs_plain hsingle hstyle' hresolves hplain⟩
    | false => exact hquotes (by rw [hstyle, hplain, if_neg Bool.false_ne_true])

end GpuPassthrough.Yaml
