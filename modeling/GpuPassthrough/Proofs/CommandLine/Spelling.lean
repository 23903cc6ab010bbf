import GpuPassthrough.CommandLine.Reader
import Mathlib.Data.List.Nodup

/-!
# How Arguments Spell Flags

A flag is spelled by its name or its letter. Its value is attached to it or is the next argument,
which must not look like a flag itself. Arguments that are accepted spell flags with values, no flag
twice, and each value is read as its flag asks for. What is dealt with late, as the reader waits for a
value or for the next flag, is dealt with in the order of the arguments all the same.

## Main results

* `Spells.unique`: arguments spell flags in one way.
* `names_of_long`, `names_of_short`: what one argument spells.
* `Reader.continues_of_readAll`: what arguments spell, from any point on.
* `exists_spells`: what arguments that are accepted spell.
-/

namespace GpuPassthrough

/-! ### Names and letters -/

namespace Flag

variable {flag other : Flag}

/-- Different flags have different names. -/
theorem name_inj : flag.name = other.name ↔ flag = other := by
  refine ⟨?_, congrArg name⟩
  revert other
  cases flag <;> intro other <;> cases other <;> decide

/-- No flag goes without a name. -/
theorem name_ne_nil (flag : Flag) : flag.name.toList ≠ [] := by
  cases flag <;> decide

/-- There is no equals sign in a name. -/
theorem equals_not_mem_name (flag : Flag) : '=' ∉ flag.name.toList := by
  cases flag <;> decide

/-- Different flags have different letters. -/
theorem eq_of_letter {letter : Char} (hflag : flag.letter? = some letter)
    (hother : other.letter? = some letter) : flag = other := by
  cases flag <;> cases hflag
  cases other <;> cases hother
  rfl

/-- No letter is a hyphen. -/
theorem letter?_ne_hyphen (flag : Flag) : flag.letter? ≠ some '-' := by
  cases flag <;> decide

end Flag

namespace CommandLine

/-! ### Spellings -/

/-- **An argument that names a flag**, with the value that is attached to it, if there is one. -/
inductive Names : List Char → Flag → Option String → Prop
  | long (flag : Flag) : Names ('-' :: '-' :: flag.name.toList) flag none
  | longEquals (flag : Flag) (value : List Char) :
      Names ('-' :: '-' :: (flag.name.toList ++ '=' :: value)) flag (some (String.ofList value))
  | short {flag : Flag} {letter : Char} (hletter : flag.letter? = some letter) :
      Names ['-', letter] flag none
  | shortEquals {flag : Flag} {letter : Char} (hletter : flag.letter? = some letter)
      (value : List Char) :
      Names ('-' :: letter :: '=' :: value) flag (some (String.ofList value))
  | shortAttached {flag : Flag} {letter first : Char} (hletter : flag.letter? = some letter)
      (hfirst : first ≠ '=') (value : List Char) :
      Names ('-' :: letter :: first :: value) flag (some (String.ofList (first :: value)))

/-- An argument that can be the value of the flag before it: one without a hyphen in front, or a
hyphen alone. -/
def StandsAlone (s : List Char) : Prop := s.head? ≠ some '-' ∨ s = ['-']

/-- **Arguments that spell flags with values**, in their order. Two hyphens may end them. -/
inductive Spells : List (List Char) → List (Flag × String) → Prop
  | nil : Spells [] []
  | closed : Spells [['-', '-']] []
  | attached {word : List Char} {flag : Flag} {value : String} {args : List (List Char)}
      {spelled : List (Flag × String)} (hword : Names word flag (some value))
      (hargs : Spells args spelled) : Spells (word :: args) ((flag, value) :: spelled)
  | apart {word value : List Char} {flag : Flag} {args : List (List Char)}
      {spelled : List (Flag × String)} (hword : Names word flag none) (hvalue : StandsAlone value)
      (hargs : Spells args spelled) :
      Spells (word :: value :: args) ((flag, String.ofList value) :: spelled)

/-- **Values that were read** after some others: each is what its flag makes of its spelling, and no
flag comes twice. -/
inductive Reads : Arguments → List (Flag × String) → Arguments → Prop
  | nil (given : Arguments) : Reads given [] given
  | cons {given read : Arguments} {flag : Flag} {s : String} {value : FlagValue}
      {spelled : List (Flag × String)} (hnew : flag ∉ given.map Prod.fst)
      (hvalue : flag.read s = .ok value) (hrest : Reads (given ++ [(flag, value)]) spelled read) :
      Reads given ((flag, s) :: spelled) read

/-! ### One spelling only -/

section Unique

open Reader (attachedTo)

variable {word tail : List Char} {flag other : Flag} {attached attached' : Option String}

/-- **What names a flag** is its name or its letter with what comes after that: nothing, or the value
that is attached. After a name the value comes behind an equals sign. -/
theorem Names.cases (hword : Names word flag attached) :
    (∃ tail, word = '-' :: '-' :: (flag.name.toList ++ tail) ∧
        tail.takeWhile (· ≠ '=') = [] ∧ attached = attachedTo tail) ∨
      ∃ letter tail, flag.letter? = some letter ∧ word = '-' :: letter :: tail ∧
        attached = attachedTo tail := by
  cases hword with
  | long => exact .inl ⟨[], by rw [List.append_nil], rfl, rfl⟩
  | longEquals _ value => exact .inl ⟨'=' :: value, rfl, by simp, rfl⟩
  | short hletter => exact .inr ⟨_, [], hletter, rfl, rfl⟩
  | shortEquals hletter value => exact .inr ⟨_, '=' :: value, hletter, rfl, rfl⟩
  | @shortAttached _ _ first hletter hfirst value =>
    refine .inr ⟨_, first :: value, hletter, rfl, ?_⟩
    rw [attachedTo]
    · exact nofun
    · rintro rest ⟨rfl, -⟩
      exact hfirst rfl

/-- What names a flag by its letter has no second hyphen. -/
theorem letter_ne_hyphen {letter : Char} (hletter : flag.letter? = some letter) {rest : List Char} :
    '-' :: '-' :: rest ≠ '-' :: letter :: tail := by
  intro heq
  obtain ⟨rfl, -⟩ := List.cons.inj (List.cons.inj heq).2
  exact flag.letter?_ne_hyphen hletter

/-- A name ends where an equals sign comes, or with the argument. -/
theorem takeWhile_name (flag : Flag) (htail : tail.takeWhile (· ≠ '=') = []) :
    (flag.name.toList ++ tail).takeWhile (· ≠ '=') = flag.name.toList := by
  rw [List.takeWhile_append_of_pos, htail, List.append_nil]
  intro c hc
  exact decide_eq_true fun heq => flag.equals_not_mem_name (heq ▸ hc)

/-- **An argument names one flag**, with one value or with none. -/
theorem Names.unique (hword : Names word flag attached) (hother : Names word other attached') :
    flag = other ∧ attached = attached' := by
  obtain ⟨tail, rfl, htail, rfl⟩ | ⟨letter, tail, hletter, rfl, rfl⟩ := hword.cases
  · obtain ⟨tail', heq, htail', rfl⟩ | ⟨letter', tail', hletter', heq, rfl⟩ := hother.cases
    · have htexts : flag.name.toList ++ tail = other.name.toList ++ tail' := by simpa using heq
      have hnames := congrArg (List.takeWhile (· ≠ '=')) htexts
      rw [takeWhile_name flag htail, takeWhile_name other htail', String.toList_inj,
        Flag.name_inj] at hnames
      subst hnames
      exact ⟨rfl, congrArg attachedTo (List.append_cancel_left htexts)⟩
    · exact absurd heq (letter_ne_hyphen hletter')
  · obtain ⟨tail', heq, -, rfl⟩ | ⟨letter', tail', hletter', heq, rfl⟩ := hother.cases
    · exact absurd heq.symm (letter_ne_hyphen hletter)
    · obtain ⟨rfl, rfl⟩ := List.cons.inj (List.cons.inj heq).2
      exact ⟨Flag.eq_of_letter hletter hletter', rfl⟩

/-- Two hyphens alone name no flag. -/
theorem not_names_hyphens : ¬ Names ['-', '-'] flag attached := by
  intro hword
  obtain ⟨tail, heq, -⟩ | ⟨letter, tail, hletter, heq, -⟩ := hword.cases
  · have hempty : flag.name.toList ++ tail = [] := by simpa using heq
    exact flag.name_ne_nil (List.append_eq_nil_iff.1 hempty).1
  · exact letter_ne_hyphen hletter heq

/-- **Arguments spell flags in one way.** -/
theorem Spells.unique {args : List (List Char)} {spelled others : List (Flag × String)}
    (hargs : Spells args spelled) (hothers : Spells args others) : spelled = others := by
  induction hargs generalizing others with
  | nil =>
    cases hothers
    rfl
  | closed =>
    cases hothers with
    | closed => rfl
    | attached hword _ => exact absurd hword not_names_hyphens
  | attached hword _ ih =>
    cases hothers with
    | closed => exact absurd hword not_names_hyphens
    | attached hother hrest =>
      obtain ⟨rfl, heq⟩ := hword.unique hother
      rw [Option.some.inj heq, ih hrest]
    | apart hother _ _ => cases (hword.unique hother).2
  | apart hword _ _ ih =>
    cases hothers with
    | attached hother _ => cases (hword.unique hother).2
    | apart hother _ hrest =>
      obtain ⟨rfl, -⟩ := hword.unique hother
      rw [ih hrest]

end Unique

/-! ### Flags that are read -/

/-- A flag that is accepted is new, and its value is read. -/
theorem accept_eq_ok_iff {given read : Arguments} {flag : Flag} {s : String} :
    accept given flag s = .ok read ↔
      flag ∉ given.map Prod.fst ∧ ∃ value, flag.read s = .ok value ∧
        read = given ++ [(flag, value)] := by
  rw [accept]
  split
  · next hgiven =>
    refine ⟨fun haccept => ?_, fun h => absurd hgiven h.1⟩
    cases haccept
  · next hnew =>
    cases hvalue : flag.read s with
    | error fault => simp [Bind.bind, Except.bind]
    | ok value => simp [Bind.bind, Except.bind, Pure.pure, Except.pure, hnew, eq_comm]

/-- The flag of a name has that name. -/
theorem name_of_ofName? {s : List Char} {flag : Flag} (hflag : Flag.ofName? s = some flag) :
    flag.name.toList = s := by
  rw [Flag.ofName?] at hflag
  simpa using List.find?_some hflag

/-- The flag of a letter has that letter. -/
theorem letter_of_ofLetter? {letter : Char} {flag : Flag}
    (hflag : Flag.ofLetter? letter = some flag) : flag.letter? = some letter := by
  rw [Flag.ofLetter?] at hflag
  simpa using List.find?_some hflag

namespace Reader

variable {r r' : Reader} {given : Arguments}

/-! ### One argument -/

/-- A request for help is not accepted. -/
theorem help_ne_ok (r r' : Reader) : r.help ≠ .ok r' := by
  rw [help]
  cases r.resolve <;> nofun

/-- Neither is one with a value. -/
theorem help_if_ne_ok (attached : Bool) (r r' : Reader) :
    (if attached = true then Except.error .tooManyValues else r.help) ≠ .ok r' := by
  cases attached with
  | true => nofun
  | false => exact help_ne_ok r r'

/-- **What an argument with two hyphens spells.** -/
theorem names_of_long {s : List Char} (hlong : r.long s = .ok r') :
    ∃ flag attached, Names ('-' :: '-' :: s) flag attached ∧ r.meet flag attached = .ok r' := by
  have hsplit : s.takeWhile (· ≠ '=') ++ s.dropWhile (· ≠ '=') = s := List.takeWhile_append_dropWhile
  rw [long] at hlong
  by_cases hhelp : s.takeWhile (· ≠ '=') = "help".toList
  · rw [if_pos hhelp] at hlong
    exact absurd hlong (help_if_ne_ok _ r r')
  rw [if_neg hhelp] at hlong
  split at hlong
  · next flag hflag =>
    have hname := name_of_ofName? hflag
    cases hdrop : s.dropWhile (· ≠ '=') with
    | nil =>
      rw [hdrop] at hlong hsplit
      rw [← hsplit, ← hname, List.append_nil]
      exact ⟨flag, none, .long flag, hlong⟩
    | cons c value =>
      have hequals : c = '=' := by
        have hhead := List.head?_dropWhile_not (fun c : Char => decide (c ≠ '=')) s
        rw [hdrop] at hhead
        simpa using hhead
      rw [hdrop] at hlong hsplit
      rw [← hsplit, ← hname, hequals]
      exact ⟨flag, some (String.ofList value), .longEquals flag value, hlong⟩
  · cases hlong

/-- **What an argument with one hyphen spells.** -/
theorem names_of_short {s : List Char} (hshort : r.short s = .ok r') :
    ∃ flag attached, Names ('-' :: s) flag attached ∧ r.meet flag attached = .ok r' := by
  unfold short at hshort
  split at hshort
  · cases hshort
  · exact absurd hshort (help_ne_ok r r')
  · next letter rest _ =>
    split at hshort
    · next flag hflag =>
      have hletter := letter_of_ofLetter? hflag
      refine ⟨flag, attachedTo rest, ?_, hshort⟩
      cases rest with
      | nil => exact .short hletter
      | cons first value =>
        by_cases hequals : first = '='
        · subst hequals
          exact .shortEquals hletter value
        · rw [attachedTo]
          · exact .shortAttached hletter hequals value
          · exact nofun
          · rintro other ⟨rfl, -⟩
            exact hequals rfl
    · cases hshort

/-- A value is that of the flag that waits for one. -/
theorem value_eq_ok {s : List Char} (hvalue : r.value s = .ok r') :
    ∃ flag, r.last = some (flag, none) ∧
      r' = ⟨r.given, some (flag, some (String.ofList s))⟩ := by
  rw [value] at hvalue
  split at hvalue
  · next flag hlast => exact ⟨flag, hlast, (Except.ok.inj hvalue).symm⟩
  · cases hvalue

/-- A flag that is met comes after the last one was dealt with. -/
theorem meet_eq_ok {flag : Flag} {attached : Option String}
    (hmeet : r.meet flag attached = .ok r') :
    ∃ given, r.resolve = .ok given ∧
      match attached with
      | none => r' = ⟨given, some (flag, none)⟩
      | some s => ∃ read, accept given flag s = .ok read ∧ r' = ⟨read, none⟩ := by
  rw [meet] at hmeet
  cases hresolve : r.resolve with
  | error fault =>
    rw [hresolve] at hmeet
    cases hmeet
  | ok given =>
    rw [hresolve] at hmeet
    refine ⟨given, rfl, ?_⟩
    cases attached with
    | none => exact (Except.ok.inj hmeet).symm
    | some s =>
      simp only [Bind.bind, Except.bind, Pure.pure, Except.pure] at hmeet
      cases haccept : accept given flag s with
      | error fault =>
        rw [haccept] at hmeet
        cases hmeet
      | ok read =>
        rw [haccept] at hmeet
        exact ⟨read, haccept, (Except.ok.inj hmeet).symm⟩

/-! ### Many arguments -/

/-- **What arguments spell where a flag may have been met already**: it has its value, or the first
of them is its value. -/
inductive Continues : Option (Flag × Option String) → List (List Char) → List (Flag × String) → Prop
  | fresh {args : List (List Char)} {spelled : List (Flag × String)} (hargs : Spells args spelled) :
      Continues none args spelled
  | owed {flag : Flag} {s : String} {args : List (List Char)} {spelled : List (Flag × String)}
      (hargs : Spells args spelled) : Continues (some (flag, some s)) args ((flag, s) :: spelled)
  | waits {flag : Flag} {value : List Char} {args : List (List Char)}
      {spelled : List (Flag × String)} (hvalue : StandsAlone value) (hargs : Spells args spelled) :
      Continues (some (flag, none)) (value :: args) ((flag, String.ofList value) :: spelled)

/-- Where the last flag was dealt with, the others are read after it. -/
theorem continues_of_resolve {dealt : Arguments} {args : List (List Char)}
    {spelled : List (Flag × String)} (hresolve : r.resolve = .ok dealt)
    (hargs : Spells args spelled) (hreads : Reads dealt spelled given) :
    ∃ spelled, Continues r.last args spelled ∧ Reads r.given spelled given := by
  rw [resolve] at hresolve
  split at hresolve
  · next hlast =>
    obtain rfl := Except.ok.inj hresolve
    exact ⟨spelled, hlast ▸ .fresh hargs, hreads⟩
  · cases hresolve
  · next flag s hlast =>
    obtain ⟨hnew, value, hvalue, rfl⟩ := accept_eq_ok_iff.1 hresolve
    exact ⟨(flag, s) :: spelled, hlast ▸ .owed hargs, .cons hnew hvalue hreads⟩

/-- Where a flag was met, what it spells comes before the others. -/
theorem continues_of_meet {word : List Char} {flag : Flag} {attached : Option String}
    {args : List (List Char)} {spelled : List (Flag × String)} (hword : Names word flag attached)
    (hmeet : r.meet flag attached = .ok r') (hargs : Continues r'.last args spelled)
    (hreads : Reads r'.given spelled given) :
    ∃ spelled, Continues r.last (word :: args) spelled ∧ Reads r.given spelled given := by
  obtain ⟨dealt, hresolve, hmet⟩ := meet_eq_ok hmeet
  cases attached with
  | none =>
    obtain rfl : r' = ⟨dealt, some (flag, none)⟩ := hmet
    cases hargs with
    | waits hvalue hargs => exact continues_of_resolve hresolve (.apart hword hvalue hargs) hreads
  | some s =>
    obtain ⟨read, haccept, rfl⟩ := hmet
    obtain ⟨hnew, value, hvalue, rfl⟩ := accept_eq_ok_iff.1 haccept
    cases hargs with
    | fresh hargs =>
      exact continues_of_resolve hresolve (.attached hword hargs) (.cons hnew hvalue hreads)

/-- Where a step was taken, it succeeded and so did the rest. -/
theorem exists_of_bind {step : Except UsageFault Reader} {args : List (List Char)}
    (hread : (step >>= fun next => next.readAll args) = .ok given) :
    ∃ next, step = .ok next ∧ next.readAll args = .ok given := by
  cases step with
  | error fault => cases hread
  | ok next => exact ⟨next, rfl, hread⟩

/-- Where a value was taken, it is that of the flag before it. -/
theorem continues_of_value {s : List Char} {args : List (List Char)}
    {spelled : List (Flag × String)} (halone : StandsAlone s) (hvalue : r.value s = .ok r')
    (hargs : Continues r'.last args spelled) (hreads : Reads r'.given spelled given) :
    ∃ spelled, Continues r.last (s :: args) spelled ∧ Reads r.given spelled given := by
  obtain ⟨flag, hlast, rfl⟩ := value_eq_ok hvalue
  cases hargs with
  | owed hargs => exact ⟨_, hlast ▸ .waits halone hargs, hreads⟩

/-- **What arguments that are accepted spell**, from any point on. -/
theorem continues_of_readAll {args : List (List Char)} (hread : r.readAll args = .ok given) :
    ∃ spelled, Continues r.last args spelled ∧ Reads r.given spelled given := by
  fun_induction readAll r args with
  | case1 r => exact continues_of_resolve hread .nil (.nil given)
  | case2 r rest hend =>
    obtain rfl := List.isEmpty_iff.1 hend
    exact continues_of_resolve hread .closed (.nil given)
  | case3 => cases hread
  | case4 r s rest _ ih =>
    obtain ⟨next, hnext, hrest⟩ := exists_of_bind hread
    obtain ⟨flag, attached, hword, hmeet⟩ := names_of_long hnext
    obtain ⟨spelled, hargs, hreads⟩ := ih next hrest
    exact continues_of_meet hword hmeet hargs hreads
  | case5 r rest ih =>
    obtain ⟨next, hnext, hrest⟩ := exists_of_bind hread
    obtain ⟨spelled, hargs, hreads⟩ := ih next hrest
    exact continues_of_value (.inr rfl) hnext hargs hreads
  | case6 r s rest _ _ _ ih =>
    obtain ⟨next, hnext, hrest⟩ := exists_of_bind hread
    obtain ⟨flag, attached, hword, hmeet⟩ := names_of_short hnext
    obtain ⟨spelled, hargs, hreads⟩ := ih next hrest
    exact continues_of_meet hword hmeet hargs hreads
  | case7 r s rest _ _ _ hhyphen ih =>
    have halone : StandsAlone s := by
      refine .inl fun hhead => ?_
      obtain ⟨other, rfl⟩ := List.head?_eq_some_iff.1 hhead
      exact hhyphen other rfl
    obtain ⟨next, hnext, hrest⟩ := exists_of_bind hread
    obtain ⟨spelled, hargs, hreads⟩ := ih next hrest
    exact continues_of_value halone hnext hargs hreads

end Reader

/-- **What arguments that are accepted spell.** -/
theorem exists_spells {args : List String} {given : Arguments}
    (hread : Reader.readAll {} (args.map String.toList) = .ok given) :
    ∃ spelled, Spells (args.map String.toList) spelled ∧ Reads [] spelled given := by
  obtain ⟨spelled, hargs, hreads⟩ := Reader.continues_of_readAll hread
  cases hargs with
  | fresh hargs => exact ⟨spelled, hargs, hreads⟩

end CommandLine

end GpuPassthrough
