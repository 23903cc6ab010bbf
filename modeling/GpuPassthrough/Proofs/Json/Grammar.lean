import GpuPassthrough.Json.Reader
import Mathlib.Data.List.Basic

/-!
# The Grammar of JSON

Which texts are which documents, by rules. The reader counts down with every call, and the length of a
text gives it the count: that is enough for every document, however deep it is, since each rule takes
characters away.

## Main results

* `length_lt_of_readString`, `exists_of_readNumber`: tokens take characters.
* `Reads.of_isReadWith`: what is read with some count is read by the rules.
* `Reads.isReadWith`: what is read by the rules is read with any count that is large enough.
* `read?_eq_some_iff`: the reader of documents against the rules.
-/

namespace GpuPassthrough.Json

variable {s rest : List Char}

/-! ### Tokens take characters -/

/-- Blanks take what they are. -/
theorem length_skipBlanks_le (s : List Char) : (skipBlanks s).length ≤ s.length :=
  (List.dropWhile_suffix isBlank).length_le

/-- A token takes its first character. -/
theorem length_lt_of_skipBlanks {c : Char} (hstart : skipBlanks s = c :: rest) :
    rest.length < s.length := by
  have hle := length_skipBlanks_le s
  rwa [hstart] at hle

/-- **A string takes its closing quote at least.** -/
theorem length_lt_of_readPieces {pieces : List Piece} (hread : readPieces s = some (pieces, rest)) :
    rest.length < s.length := by
  fun_induction readPieces s generalizing pieces with
  | case1 => cases hread
  | case2 a b c d tail ih =>
    obtain ⟨n, -, hread⟩ := Option.bind_eq_some_iff.1 hread
    obtain ⟨⟨more, left⟩, hmore, hread⟩ := Option.bind_eq_some_iff.1 hread
    obtain ⟨-, rfl⟩ := Prod.mk.inj (Option.some.inj hread)
    have hlt := ih hmore
    simp only [List.length_cons]
    omega
  | case3 c tail _ ih =>
    obtain ⟨escaped, -, hread⟩ := Option.bind_eq_some_iff.1 hread
    obtain ⟨⟨more, left⟩, hmore, hread⟩ := Option.bind_eq_some_iff.1 hread
    obtain ⟨-, rfl⟩ := Prod.mk.inj (Option.some.inj hread)
    have hlt := ih hmore
    simp only [List.length_cons]
    omega
  | case4 =>
    obtain ⟨-, rfl⟩ := Prod.mk.inj (Option.some.inj hread)
    exact Nat.lt_succ_self _
  | case5 => cases hread
  | case6 c tail _ _ _ _ ih =>
    obtain ⟨⟨more, left⟩, hmore, hread⟩ := Option.bind_eq_some_iff.1 hread
    obtain ⟨-, rfl⟩ := Prod.mk.inj (Option.some.inj hread)
    exact Nat.lt_succ_of_lt (ih hmore)

/-- A string takes characters. -/
theorem length_lt_of_readString {units : List JsonUnit} (hread : readString s = some (units, rest)) :
    rest.length < s.length := by
  obtain ⟨⟨pieces, left⟩, hpieces, heq⟩ := Option.map_eq_some_iff.1 hread
  obtain ⟨-, rfl⟩ := Prod.mk.inj heq
  exact length_lt_of_readPieces hpieces

/-- The name of a member and its colon take characters. -/
theorem length_lt_of_name {text colon start : List Char} {name : List JsonUnit}
    (hstart : skipBlanks s = '\x22' :: text) (hname : readString text = some (name, colon))
    (hcolon : skipBlanks colon = ':' :: start) : start.length < s.length := by
  have hquote := length_lt_of_skipBlanks hstart
  have hstring := length_lt_of_readString hname
  have hlt := length_lt_of_skipBlanks hcolon
  omega

/-- Digits begin with one, and take it. -/
theorem exists_of_readDigits {digits : List Char} (hread : readDigits s = some (digits, rest)) :
    (∃ c tail, s = c :: tail ∧ c.isDigit = true) ∧ rest.length < s.length := by
  rw [readDigits] at hread
  split at hread
  · cases hread
  · next hne =>
    obtain ⟨-, rfl⟩ := Prod.mk.inj (Option.some.inj hread)
    cases s with
    | nil => exact absurd rfl hne
    | cons c tail =>
      by_cases hc : c.isDigit = true
      · rw [List.dropWhile_cons_of_pos hc]
        exact ⟨⟨c, tail, rfl, hc⟩, Nat.lt_succ_of_le (List.dropWhile_suffix _).length_le⟩
      · rw [List.takeWhile_cons_of_neg hc] at hne
        exact absurd rfl hne

/-- The digits before the point are digits. -/
theorem exists_of_readWhole {whole : List Char} (hread : readWhole s = some (whole, rest)) :
    (∃ c tail, s = c :: tail ∧ c.isDigit = true) ∧ rest.length < s.length := by
  unfold readWhole at hread
  split at hread
  · obtain ⟨-, rfl⟩ := Prod.mk.inj (Option.some.inj hread)
    exact ⟨⟨_, _, rfl, rfl⟩, Nat.lt_succ_self _⟩
  · exact exists_of_readDigits hread

/-- A fraction takes what it is. -/
theorem length_le_of_readFraction {fraction : List Char}
    (hread : readFraction s = some (fraction, rest)) : rest.length ≤ s.length := by
  unfold readFraction at hread
  split at hread
  · obtain ⟨⟨digits, left⟩, hdigits, heq⟩ := Option.map_eq_some_iff.1 hread
    obtain ⟨-, rfl⟩ := Prod.mk.inj heq
    exact Nat.le_succ_of_le (Nat.le_of_lt (exists_of_readDigits hdigits).2)
  · obtain ⟨-, rfl⟩ := Prod.mk.inj (Option.some.inj hread)
    exact Nat.le_refl _

/-- A sign takes what it is. -/
theorem length_readSign_le (s : List Char) : (readSign s).2.length ≤ s.length := by
  unfold readSign
  split
  · exact Nat.le_succ _
  · exact Nat.le_succ _
  · exact Nat.le_refl _

/-- An exponent takes what it is. -/
theorem length_le_of_readExponent {exponent : List Char}
    (hread : readExponent s = some (exponent, rest)) : rest.length ≤ s.length := by
  unfold readExponent at hread
  split at hread
  · next c tail =>
    split at hread
    · obtain ⟨⟨digits, left⟩, hdigits, heq⟩ := Option.map_eq_some_iff.1 hread
      obtain ⟨-, rfl⟩ := Prod.mk.inj heq
      have hsign := length_readSign_le tail
      have hlt : left.length < (readSign tail).2.length := (exists_of_readDigits hdigits).2
      simp only [List.length_cons]
      omega
    · obtain ⟨-, rfl⟩ := Prod.mk.inj (Option.some.inj hread)
      exact Nat.le_refl _
  · obtain ⟨-, rfl⟩ := Prod.mk.inj (Option.some.inj hread)
    exact Nat.le_refl _

/-- A number without a sign begins with a digit, and takes it. -/
theorem exists_of_readUnsigned {spelling : List Char}
    (hread : readUnsigned s = some (spelling, rest)) :
    (∃ c tail, s = c :: tail ∧ c.isDigit = true) ∧ rest.length < s.length := by
  obtain ⟨⟨whole, afterWhole⟩, hwhole, hread⟩ := Option.bind_eq_some_iff.1 hread
  obtain ⟨⟨fraction, afterFraction⟩, hfraction, hread⟩ := Option.bind_eq_some_iff.1 hread
  obtain ⟨⟨exponent, afterExponent⟩, hexponent, hread⟩ := Option.bind_eq_some_iff.1 hread
  obtain ⟨-, rfl⟩ := Prod.mk.inj (Option.some.inj hread)
  obtain ⟨hstart, hlt⟩ := exists_of_readWhole hwhole
  have hle := length_le_of_readFraction hfraction
  have hle' := length_le_of_readExponent hexponent
  exact ⟨hstart, by omega⟩

/-- **A number begins with a sign or a digit**, and takes it. -/
theorem exists_of_readNumber {spelling : List Char}
    (hread : readNumber s = some (spelling, rest)) :
    (∃ c tail, s = c :: tail ∧ (c = '-' ∨ c.isDigit = true)) ∧ rest.length < s.length := by
  unfold readNumber at hread
  split at hread
  · obtain ⟨⟨digits, left⟩, hdigits, heq⟩ := Option.map_eq_some_iff.1 hread
    obtain ⟨-, rfl⟩ := Prod.mk.inj heq
    exact ⟨⟨_, _, rfl, .inl rfl⟩, Nat.lt_succ_of_lt (exists_of_readUnsigned hdigits).2⟩
  · obtain ⟨⟨c, tail, rfl, hc⟩, hlt⟩ := exists_of_readUnsigned hread
    exact ⟨⟨c, tail, rfl, .inr hc⟩, hlt⟩

/-! ### Rules -/

/-- A part of a document: a value, or what is inside of an array or of an object. -/
inductive Part where
  | value (value : Json)
  | elements (elements : List Json)
  | members (members : List (List JsonUnit × Json))

/-- **The rules of JSON**: which part a text begins with, and what is left of the text behind it. The
inside of an array or of an object goes up to its closing bracket, and is not empty. -/
inductive Reads : List Char → Part → List Char → Prop
  | null {s rest : List Char} (hstart : skipBlanks s = 'n' :: 'u' :: 'l' :: 'l' :: rest) :
      Reads s (.value .null) rest
  | true {s rest : List Char} (hstart : skipBlanks s = 't' :: 'r' :: 'u' :: 'e' :: rest) :
      Reads s (.value (.bool true)) rest
  | false {s rest : List Char} (hstart : skipBlanks s = 'f' :: 'a' :: 'l' :: 's' :: 'e' :: rest) :
      Reads s (.value (.bool false)) rest
  | string {s text rest : List Char} {units : List JsonUnit}
      (hstart : skipBlanks s = '\x22' :: text)
      (hstring : readString text = some (units, rest)) : Reads s (.value (.string units)) rest
  | number {s spelling rest : List Char}
      (hnumber : readNumber (skipBlanks s) = some (spelling, rest)) :
      Reads s (.value (.number spelling)) rest
  | emptyArray {s inside rest : List Char} (hstart : skipBlanks s = '[' :: inside)
      (hend : skipBlanks inside = ']' :: rest) : Reads s (.value (.array [])) rest
  | array {s inside rest : List Char} {elements : List Json}
      (hstart : skipBlanks s = '[' :: inside)
      (hinside : (skipBlanks inside).head? ≠ some ']')
      (helements : Reads (skipBlanks inside) (.elements elements) rest) :
      Reads s (.value (.array elements)) rest
  | emptyObject {s inside rest : List Char} (hstart : skipBlanks s = '\x7b' :: inside)
      (hend : skipBlanks inside = '\x7d' :: rest) : Reads s (.value (.object [])) rest
  | object {s inside rest : List Char} {members : List (List JsonUnit × Json)}
      (hstart : skipBlanks s = '\x7b' :: inside)
      (hinside : (skipBlanks inside).head? ≠ some '\x7d')
      (hmembers : Reads (skipBlanks inside) (.members members) rest) :
      Reads s (.value (.object members)) rest
  | lastElement {s after rest : List Char} {element : Json}
      (helement : Reads s (.value element) after)
      (hend : skipBlanks after = ']' :: rest) : Reads s (.elements [element]) rest
  | element {s after next rest : List Char} {element : Json} {elements : List Json}
      (helement : Reads s (.value element) after)
      (hcomma : skipBlanks after = ',' :: next) (helements : Reads next (.elements elements) rest) :
      Reads s (.elements (element :: elements)) rest
  | lastMember {s text colon start after rest : List Char} {name : List JsonUnit} {value : Json}
      (hstart : skipBlanks s = '\x22' :: text)
      (hname : readString text = some (name, colon)) (hcolon : skipBlanks colon = ':' :: start)
      (hvalue : Reads start (.value value) after) (hend : skipBlanks after = '\x7d' :: rest) :
      Reads s (.members [(name, value)]) rest
  | member {s text colon start after next rest : List Char} {name : List JsonUnit}
      {value : Json} {members : List (List JsonUnit × Json)}
      (hstart : skipBlanks s = '\x22' :: text) (hname : readString text = some (name, colon))
      (hcolon : skipBlanks colon = ':' :: start) (hvalue : Reads start (.value value) after)
      (hcomma : skipBlanks after = ',' :: next) (hmembers : Reads next (.members members) rest) :
      Reads s (.members ((name, value) :: members)) rest

/-- A part that the reader reads with a count. -/
def IsReadWith (fuel : Nat) (s : List Char) (part : Part) (rest : List Char) : Prop :=
  match part with
  | .value value => readValue fuel s = some (value, rest)
  | .elements elements => readElements fuel s = some (elements, rest)
  | .members members => readMembers fuel s = some (members, rest)

/-- How far the count for a part may stay below twice its length. -/
def Part.spare : Part → Nat
  | .value _ => 0
  | .elements _ => 1
  | .members _ => 1

variable {part : Part} {fuel : Nat}

/-- **Every part takes characters.** -/
theorem Reads.length_lt (hreads : Reads s part rest) : rest.length < s.length := by
  induction hreads with
  | null hstart | true hstart | false hstart =>
    have hlt := length_lt_of_skipBlanks hstart
    simp only [List.length_cons] at hlt
    omega
  | string hstart hstring =>
    have hlt := length_lt_of_skipBlanks hstart
    have hlt' := length_lt_of_readString hstring
    omega
  | @number s _ _ hnumber =>
    exact Nat.lt_of_lt_of_le (exists_of_readNumber hnumber).2 (length_skipBlanks_le s)
  | emptyArray hstart hend | emptyObject hstart hend =>
    have hlt := length_lt_of_skipBlanks hstart
    have hlt' := length_lt_of_skipBlanks hend
    omega
  | @array _ inside _ _ hstart _ _ ih | @object _ inside _ _ hstart _ _ ih =>
    have hle := length_skipBlanks_le inside
    have hlt := length_lt_of_skipBlanks hstart
    omega
  | lastElement _ hend ih =>
    have hlt := length_lt_of_skipBlanks hend
    omega
  | element _ hcomma _ ihElement ihElements =>
    have hlt := length_lt_of_skipBlanks hcomma
    omega
  | lastMember hstart hname hcolon _ hend ih =>
    have hlt := length_lt_of_name hstart hname hcolon
    have hlt' := length_lt_of_skipBlanks hend
    omega
  | member hstart hname hcolon _ hcomma _ ihValue ihMembers =>
    have hlt := length_lt_of_name hstart hname hcolon
    have hlt' := length_lt_of_skipBlanks hcomma
    omega

/-- A count that is large enough is no zero. -/
theorem Reads.exists_succ (hreads : Reads s part rest)
    (hfuel : 2 * s.length ≤ fuel + part.spare + 2 * rest.length) : ∃ count, fuel = count + 1 := by
  have hlt := hreads.length_lt
  have hspare : part.spare ≤ 1 := by cases part <;> simp [Part.spare]
  exact Nat.exists_eq_add_one.2 (by omega)

/-- A number begins like no other value. -/
theorem readValue_of_number {spelling : List Char}
    (hnumber : readNumber (skipBlanks s) = some (spelling, rest)) :
    readValue (fuel + 1) s = some (.number spelling, rest) := by
  obtain ⟨⟨c, tail, hstart, hc⟩, -⟩ := exists_of_readNumber hnumber
  have hother : ∀ d, d ≠ '-' → d.isDigit = false → ∀ text, skipBlanks s ≠ d :: text := by
    rintro d hsign hdigit text heq
    obtain rfl := (List.cons.inj (hstart.symm.trans heq)).1
    obtain rfl | hc := hc
    · exact hsign rfl
    · cases hc.symm.trans hdigit
  rw [readValue]
  split
  · next heq => exact absurd heq (hother 'n' (by decide) rfl _)
  · next heq => exact absurd heq (hother 't' (by decide) rfl _)
  · next heq => exact absurd heq (hother 'f' (by decide) rfl _)
  · next heq => exact absurd heq (hother '\x22' (by decide) rfl _)
  · next heq => exact absurd heq (hother '[' (by decide) rfl _)
  · next heq => exact absurd heq (hother '\x7b' (by decide) rfl _)
  · rw [hnumber]
    rfl

/-- An array that does not end at once has its elements read. -/
theorem readValue_of_elements {inside : List Char} {elements : List Json}
    (hstart : skipBlanks s = '[' :: inside) (hinside : (skipBlanks inside).head? ≠ some ']')
    (helements : readElements fuel (skipBlanks inside) = some (elements, rest)) :
    readValue (fuel + 1) s = some (.array elements, rest) := by
  simp only [readValue, hstart]
  split
  · next heq => exact absurd (heq ▸ rfl) hinside
  · simp only [helements, Option.map_some]

/-- An object that does not end at once has its members read. -/
theorem readValue_of_members {inside : List Char} {members : List (List JsonUnit × Json)}
    (hstart : skipBlanks s = '\x7b' :: inside) (hinside : (skipBlanks inside).head? ≠ some '\x7d')
    (hmembers : readMembers fuel (skipBlanks inside) = some (members, rest)) :
    readValue (fuel + 1) s = some (.object members, rest) := by
  simp only [readValue, hstart]
  split
  · next heq => exact absurd (heq ▸ rfl) hinside
  · simp only [hmembers, Option.map_some]

/-- **What is read by the rules is read with any count that is large enough.** -/
theorem Reads.isReadWith (hreads : Reads s part rest)
    (hfuel : 2 * s.length ≤ fuel + part.spare + 2 * rest.length) : IsReadWith fuel s part rest := by
  -- A bracket that was taken already pays for the call that reads what is inside of it.
  have hcount := hreads.exists_succ hfuel
  induction hreads generalizing fuel with
  | null hstart | true hstart | false hstart =>
    obtain ⟨count, rfl⟩ := hcount
    simp only [IsReadWith, readValue, hstart]
  | string hstart hstring =>
    obtain ⟨count, rfl⟩ := hcount
    simp only [IsReadWith, readValue, hstart, hstring, Option.map_some]
  | number hnumber =>
    obtain ⟨count, rfl⟩ := hcount
    exact readValue_of_number hnumber
  | emptyArray hstart hend | emptyObject hstart hend =>
    obtain ⟨count, rfl⟩ := hcount
    simp only [IsReadWith, readValue, hstart, hend]
  | @array s inside rest elements hstart hinside helements ih =>
    obtain ⟨count, rfl⟩ := hcount
    have hlt := length_lt_of_skipBlanks hstart
    have hle := length_skipBlanks_le inside
    simp only [Part.spare] at hfuel
    have hless : 2 * (skipBlanks inside).length ≤ count + 1 + 2 * rest.length := by omega
    exact readValue_of_elements hstart hinside (ih hless (helements.exists_succ hless))
  | @object s inside rest members hstart hinside hmembers ih =>
    obtain ⟨count, rfl⟩ := hcount
    have hlt := length_lt_of_skipBlanks hstart
    have hle := length_skipBlanks_le inside
    simp only [Part.spare] at hfuel
    have hless : 2 * (skipBlanks inside).length ≤ count + 1 + 2 * rest.length := by omega
    exact readValue_of_members hstart hinside (ih hless (hmembers.exists_succ hless))
  | @lastElement s after rest element helement hend ih =>
    obtain ⟨count, rfl⟩ := hcount
    have hlt := length_lt_of_skipBlanks hend
    simp only [Part.spare] at hfuel
    have hless : 2 * s.length ≤ count + 0 + 2 * after.length := by omega
    have hvalue : readValue count s = some (element, after) :=
      ih hless (helement.exists_succ hless)
    simp [IsReadWith, readElements, hvalue, hend]
  | @element s after next rest element elements helement hcomma helements ihElement ihElements =>
    obtain ⟨count, rfl⟩ := hcount
    have hlt := length_lt_of_skipBlanks hcomma
    have htaken := helement.length_lt
    have hrest := helements.length_lt
    simp only [Part.spare] at hfuel
    have hless : 2 * s.length ≤ count + 0 + 2 * after.length := by omega
    have hless' : 2 * next.length ≤ count + 1 + 2 * rest.length := by omega
    have hvalue : readValue count s = some (element, after) :=
      ihElement hless (helement.exists_succ hless)
    have hothers : readElements count next = some (elements, rest) :=
      ihElements hless' (helements.exists_succ hless')
    simp [IsReadWith, readElements, hvalue, hcomma, hothers]
  | @lastMember s text colon start after rest name value hstart hname hcolon hvalue hend ih =>
    obtain ⟨count, rfl⟩ := hcount
    have hlt := length_lt_of_skipBlanks hend
    have hshorter := length_lt_of_name hstart hname hcolon
    simp only [Part.spare] at hfuel
    have hless : 2 * start.length ≤ count + 0 + 2 * after.length := by omega
    have hvalue : readValue count start = some (value, after) := ih hless (hvalue.exists_succ hless)
    simp [IsReadWith, readMembers, hstart, hname, hcolon, hvalue, hend]
  | @member s text colon start after next rest name value members hstart hname hcolon hvalue hcomma
      hmembers ihValue ihMembers =>
    obtain ⟨count, rfl⟩ := hcount
    have hlt := length_lt_of_skipBlanks hcomma
    have hshorter := length_lt_of_name hstart hname hcolon
    have htaken := hvalue.length_lt
    have hrest := hmembers.length_lt
    simp only [Part.spare] at hfuel
    have hless : 2 * start.length ≤ count + 0 + 2 * after.length := by omega
    have hless' : 2 * next.length ≤ count + 1 + 2 * rest.length := by omega
    have hvalue : readValue count start = some (value, after) :=
      ihValue hless (hvalue.exists_succ hless)
    have hothers : readMembers count next = some (members, rest) :=
      ihMembers hless' (hmembers.exists_succ hless')
    simp [IsReadWith, readMembers, hstart, hname, hcolon, hvalue, hcomma, hothers]

/-- What a value is read as is read by the rules, if what is inside of it is. -/
theorem Reads.of_readValue {value : Json}
    (helements : ∀ {s elements rest}, readElements fuel s = some (elements, rest) →
      Reads s (.elements elements) rest)
    (hmembers : ∀ {s members rest}, readMembers fuel s = some (members, rest) →
      Reads s (.members members) rest)
    (hread : readValue (fuel + 1) s = some (value, rest)) : Reads s (.value value) rest := by
  rw [readValue] at hread
  split at hread
  · next hstart =>
    obtain ⟨rfl, rfl⟩ := Prod.mk.inj (Option.some.inj hread)
    exact .null hstart
  · next hstart =>
    obtain ⟨rfl, rfl⟩ := Prod.mk.inj (Option.some.inj hread)
    exact .true hstart
  · next hstart =>
    obtain ⟨rfl, rfl⟩ := Prod.mk.inj (Option.some.inj hread)
    exact .false hstart
  · next hstart =>
    obtain ⟨⟨units, left⟩, hstring, heq⟩ := Option.map_eq_some_iff.1 hread
    obtain ⟨rfl, rfl⟩ := Prod.mk.inj heq
    exact .string hstart hstring
  · next hstart =>
    split at hread
    · next hend =>
      obtain ⟨rfl, rfl⟩ := Prod.mk.inj (Option.some.inj hread)
      exact .emptyArray hstart hend
    · next hinside =>
      obtain ⟨⟨elements, left⟩, hinner, heq⟩ := Option.map_eq_some_iff.1 hread
      obtain ⟨rfl, rfl⟩ := Prod.mk.inj heq
      refine .array hstart (fun hhead => ?_) (helements hinner)
      obtain ⟨tail, htail⟩ := List.head?_eq_some_iff.1 hhead
      exact hinside tail htail
  · next hstart =>
    split at hread
    · next hend =>
      obtain ⟨rfl, rfl⟩ := Prod.mk.inj (Option.some.inj hread)
      exact .emptyObject hstart hend
    · next hinside =>
      obtain ⟨⟨members, left⟩, hinner, heq⟩ := Option.map_eq_some_iff.1 hread
      obtain ⟨rfl, rfl⟩ := Prod.mk.inj heq
      refine .object hstart (fun hhead => ?_) (hmembers hinner)
      obtain ⟨tail, htail⟩ := List.head?_eq_some_iff.1 hhead
      exact hinside tail htail
  · obtain ⟨⟨spelling, left⟩, hnumber, heq⟩ := Option.map_eq_some_iff.1 hread
    obtain ⟨rfl, rfl⟩ := Prod.mk.inj heq
    exact .number hnumber

/-- What elements are read as is read by the rules, if each of them and the others are. -/
theorem Reads.of_readElements {elements : List Json}
    (hvalue : ∀ {s value rest}, readValue fuel s = some (value, rest) → Reads s (.value value) rest)
    (helements : ∀ {s elements rest}, readElements fuel s = some (elements, rest) →
      Reads s (.elements elements) rest)
    (hread : readElements (fuel + 1) s = some (elements, rest)) :
    Reads s (.elements elements) rest := by
  rw [readElements] at hread
  obtain ⟨⟨element, after⟩, helement, hread⟩ := Option.bind_eq_some_iff.1 hread
  dsimp only at hread
  split at hread
  · next hcomma =>
    obtain ⟨⟨others, left⟩, hothers, hread⟩ := Option.bind_eq_some_iff.1 hread
    obtain ⟨rfl, rfl⟩ := Prod.mk.inj (Option.some.inj hread)
    exact .element (hvalue helement) hcomma (helements hothers)
  · next hend =>
    obtain ⟨rfl, rfl⟩ := Prod.mk.inj (Option.some.inj hread)
    exact .lastElement (hvalue helement) hend
  · cases hread

/-- What members are read as is read by the rules, if their values and the others are. -/
theorem Reads.of_readMembers {members : List (List JsonUnit × Json)}
    (hvalue : ∀ {s value rest}, readValue fuel s = some (value, rest) → Reads s (.value value) rest)
    (hmembers : ∀ {s members rest}, readMembers fuel s = some (members, rest) →
      Reads s (.members members) rest)
    (hread : readMembers (fuel + 1) s = some (members, rest)) : Reads s (.members members) rest := by
  rw [readMembers] at hread
  split at hread
  · next hstart =>
    obtain ⟨⟨name, colon⟩, hname, hread⟩ := Option.bind_eq_some_iff.1 hread
    dsimp only at hread
    split at hread
    · next hcolon =>
      obtain ⟨⟨value, after⟩, hread₁, hread⟩ := Option.bind_eq_some_iff.1 hread
      dsimp only at hread
      split at hread
      · next hcomma =>
        obtain ⟨⟨others, left⟩, hothers, hread⟩ := Option.bind_eq_some_iff.1 hread
        obtain ⟨rfl, rfl⟩ := Prod.mk.inj (Option.some.inj hread)
        exact .member hstart hname hcolon (hvalue hread₁) hcomma (hmembers hothers)
      · next hend =>
        obtain ⟨rfl, rfl⟩ := Prod.mk.inj (Option.some.inj hread)
        exact .lastMember hstart hname hcolon (hvalue hread₁) hend
      · cases hread
    · cases hread
  · cases hread

/-- **What is read with some count is read by the rules.** -/
theorem Reads.of_isReadWith (hread : IsReadWith fuel s part rest) : Reads s part rest := by
  induction fuel generalizing s part rest with
  | zero => cases part <;> cases hread
  | succ fuel ih =>
    have hvalue : ∀ {s value rest}, readValue fuel s = some (value, rest) →
        Reads s (.value value) rest := fun hread => ih hread
    have helements : ∀ {s elements rest}, readElements fuel s = some (elements, rest) →
        Reads s (.elements elements) rest := fun hread => ih hread
    have hmembers : ∀ {s members rest}, readMembers fuel s = some (members, rest) →
        Reads s (.members members) rest := fun hread => ih hread
    cases part with
    | value value => exact .of_readValue helements hmembers hread
    | elements elements => exact .of_readElements hvalue helements hread
    | members members => exact .of_readMembers hvalue hmembers hread

/-- **A text of a document**: by the rules it is the value and blanks behind it. -/
def IsTextOf (text : String) (document : Json) : Prop :=
  ∃ rest, Reads text.toList (.value document) rest ∧ skipBlanks rest = []

/-- **The reader of documents against the rules.** -/
theorem read?_eq_some_iff {text : String} {document : Json} :
    read? text = some document ↔ IsTextOf text document := by
  constructor
  · intro hread
    obtain ⟨⟨value, rest⟩, hvalue, hread⟩ := Option.bind_eq_some_iff.1 hread
    dsimp only at hread
    split at hread
    · next hend =>
      obtain rfl := Option.some.inj hread
      have hreads : Reads text.toList (.value value) rest := .of_isReadWith hvalue
      exact ⟨rest, hreads, List.isEmpty_iff.1 hend⟩
    · cases hread
  · rintro ⟨rest, hreads, hend⟩
    have hcount : 2 * text.toList.length ≤ 2 * text.length + 2 + 0 + 2 * rest.length := by
      rw [String.length_toList]
      omega
    have hvalue : readValue (2 * text.length + 2) text.toList = some (document, rest) :=
      hreads.isReadWith hcount
    simp [read?, hvalue, hend]

end GpuPassthrough.Json
