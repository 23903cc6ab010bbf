import GpuPassthrough.Proofs.CommandLine.Spelling
import GpuPassthrough.Proofs.Snapshot.Index
import Mathlib.Data.Option.Basic

/-!
# Flags before the Environment

A flag that was given has the value that it was given with. One that was not has the value of the
environment variable that stands in for it, if that is set. Either way the value is what the flag
makes of its text, and a text of which it makes nothing is not accepted.

## Main results

* `Reads.rel_lookup`: the flags that were given.
* `rel_lookup_foldlM`: the flags that the environment stands in for.
* `exists_isAccepted`: what a command line means that is accepted.
-/

namespace GpuPassthrough.CommandLine

/-- A value is what a flag makes of a text. -/
def IsReadAs (flag : Flag) (s : String) (value : FlagValue) : Prop := flag.read s = .ok value

/-- **Where a flag has its text from**: what was given, before the environment. -/
def source? (spelled : List (Flag × String)) (env : Environment) (flag : Flag) : Option String :=
  (spelled.lookup flag).or (env.lookup flag.environmentName)

variable {given read : Arguments} {spelled : List (Flag × String)} {env : Environment} {flag : Flag}

/-- A flag is new exactly if it has no value. -/
theorem lookup_eq_none_iff : given.lookup flag = none ↔ flag ∉ given.map Prod.fst := by
  rw [← Option.not_isSome_iff_eq_none, Index.lookup_isSome_iff]

/-- A flag that comes last changes no other flag. -/
theorem lookup_concat_of_ne {other : Flag} (hne : other ≠ flag) (value : FlagValue) :
    (given ++ [(flag, value)]).lookup other = given.lookup other := by
  rw [List.lookup_append, List.lookup_cons, beq_false_of_ne hne]
  exact Option.or_none

/-- A flag that comes last for the first time has its value. -/
theorem lookup_concat_self (hnew : flag ∉ given.map Prod.fst) (value : FlagValue) :
    (given ++ [(flag, value)]).lookup flag = some value := by
  rw [List.lookup_append, lookup_eq_none_iff.2 hnew, List.lookup_cons_self, Option.none_or]

/-! ### Flags that were given -/

/-- A flag that has a value keeps it. -/
theorem Reads.lookup_of_mem (hreads : Reads given spelled read) (hgiven : flag ∈ given.map Prod.fst) :
    flag ∈ read.map Prod.fst ∧ read.lookup flag = given.lookup flag := by
  induction hreads with
  | nil given => exact ⟨hgiven, rfl⟩
  | @cons given read other s value spelled hnew _ _ ih =>
    have hne : flag ≠ other := fun heq => hnew (heq ▸ hgiven)
    rw [lookup_concat_of_ne hne] at ih
    refine ih ?_
    rw [List.map_append]
    exact List.mem_append_left _ hgiven

/-- **A flag that was given has the value that it was given with**, and one that was not has none. -/
theorem Reads.rel_lookup (hreads : Reads given spelled read) (hnew : flag ∉ given.map Prod.fst) :
    Option.Rel (IsReadAs flag) (spelled.lookup flag) (read.lookup flag) := by
  induction hreads with
  | nil given =>
    rw [lookup_eq_none_iff.2 hnew, List.lookup_nil]
    exact .none
  | @cons given read other s value spelled hother hvalue hrest ih =>
    by_cases heq : flag = other
    · subst heq
      have hmem : flag ∈ (given ++ [(flag, value)]).map Prod.fst := by simp
      rw [(hrest.lookup_of_mem hmem).2, lookup_concat_self hother, List.lookup_cons_self]
      exact .some hvalue
    · rw [List.lookup_cons, beq_false_of_ne heq]
      refine ih ?_
      rw [List.map_append, List.mem_append, not_or]
      exact ⟨hnew, by simpa using heq⟩

/-- No flag is given twice. -/
theorem Reads.nodup (hreads : Reads given spelled read) :
    (spelled.map Prod.fst).Nodup ∧ ∀ flag ∈ spelled.map Prod.fst, flag ∉ given.map Prod.fst := by
  induction hreads with
  | nil given => exact ⟨List.nodup_nil, nofun⟩
  | @cons given read flag s value spelled hnew _ _ ih =>
    obtain ⟨hnodup, hapart⟩ := ih
    have hlater : ∀ other ∈ spelled.map Prod.fst, other ∉ given.map Prod.fst ∧ other ≠ flag := by
      intro other hother
      have hnot := hapart other hother
      rw [List.map_append, List.mem_append, not_or] at hnot
      exact ⟨hnot.1, by simpa using hnot.2⟩
    refine ⟨List.nodup_cons.2 ⟨fun hmem => (hlater flag hmem).2 rfl, hnodup⟩, ?_⟩
    exact List.forall_mem_cons.2 ⟨hnew, fun other hother => (hlater other hother).1⟩

/-! ### The environment -/

/-- **The environment stands in for a flag that was not given**, and changes no other. -/
structure IsAsked (env : Environment) (flag : Flag) (given read : Arguments) : Prop where
  others : ∀ other, other ≠ flag → read.lookup other = given.lookup other
  kept : flag ∈ given.map Prod.fst → read = given
  asked : flag ∉ given.map Prod.fst →
    Option.Rel (IsReadAs flag) (env.lookup flag.environmentName) (read.lookup flag)

/-- Asking the environment for a flag. -/
theorem isAsked_fromEnvironment (hread : fromEnvironment env given flag = .ok read) :
    IsAsked env flag given read := by
  rw [fromEnvironment] at hread
  by_cases hgiven : flag ∈ given.map Prod.fst
  · rw [if_pos hgiven] at hread
    obtain rfl := Except.ok.inj hread
    exact ⟨fun _ _ => rfl, fun _ => rfl, fun hnew => absurd hgiven hnew⟩
  · rw [if_neg hgiven] at hread
    cases henv : env.lookup flag.environmentName with
    | none =>
      rw [henv] at hread
      obtain rfl := Except.ok.inj hread
      refine ⟨fun _ _ => rfl, fun _ => rfl, fun hnew => ?_⟩
      rw [henv, lookup_eq_none_iff.2 hnew]
      exact .none
    | some s =>
      rw [henv] at hread
      obtain ⟨hnew, value, hvalue, rfl⟩ := accept_eq_ok_iff.1 hread
      refine ⟨fun other hne => lookup_concat_of_ne hne value, fun hmem => absurd hmem hgiven, ?_⟩
      intro _
      rw [henv, lookup_concat_self hnew]
      exact .some hvalue

/-- A flag that is asked for has a value afterwards if it had one before. -/
theorem IsAsked.lookup_of_mem {other : Flag} (hasked : IsAsked env flag given read)
    (hgiven : other ∈ given.map Prod.fst) :
    other ∈ read.map Prod.fst ∧ read.lookup other = given.lookup other := by
  by_cases heq : other = flag
  · subst heq
    rw [hasked.kept hgiven]
    exact ⟨hgiven, rfl⟩
  · have hlookup := hasked.others other heq
    rw [← Index.lookup_isSome_iff] at hgiven ⊢
    exact ⟨hlookup ▸ hgiven, hlookup⟩

/-- The first of some flags is asked for before the others. -/
theorem exists_of_foldlM_cons {flags : List Flag}
    (hread : (flag :: flags).foldlM (fromEnvironment env) given = .ok read) :
    ∃ next, IsAsked env flag given next ∧
      flags.foldlM (fromEnvironment env) next = .ok read := by
  rw [List.foldlM_cons] at hread
  cases hnext : fromEnvironment env given flag with
  | error fault =>
    rw [hnext] at hread
    cases hread
  | ok next =>
    rw [hnext] at hread
    exact ⟨next, isAsked_fromEnvironment hnext, hread⟩

/-- Asking for some flags leaves the others as they are, and those that were given. -/
theorem lookup_foldlM {flags : List Flag}
    (hread : flags.foldlM (fromEnvironment env) given = .ok read)
    (hflag : flag ∉ flags ∨ flag ∈ given.map Prod.fst) : read.lookup flag = given.lookup flag := by
  induction flags generalizing given with
  | nil =>
    obtain rfl := Except.ok.inj hread
    rfl
  | cons first rest ih =>
    obtain ⟨next, hasked, hrest⟩ := exists_of_foldlM_cons hread
    obtain hother | hgiven := hflag
    · obtain ⟨hne, hother⟩ := not_or.1 (List.mem_cons.not.1 hother)
      rw [ih hrest (.inl hother), hasked.others flag hne]
    · obtain ⟨hmem, hlookup⟩ := hasked.lookup_of_mem hgiven
      rw [ih hrest (.inr hmem), hlookup]

/-- **A flag that was not given has the value of its environment variable.** -/
theorem rel_lookup_foldlM {flags : List Flag} (hnodup : flags.Nodup)
    (hread : flags.foldlM (fromEnvironment env) given = .ok read) (hflag : flag ∈ flags)
    (hnew : flag ∉ given.map Prod.fst) :
    Option.Rel (IsReadAs flag) (env.lookup flag.environmentName) (read.lookup flag) := by
  induction flags generalizing given with
  | nil => cases hflag
  | cons first rest ih =>
    obtain ⟨next, hasked, hrest⟩ := exists_of_foldlM_cons hread
    obtain ⟨hfirst, hnodup⟩ := List.nodup_cons.1 hnodup
    by_cases heq : flag = first
    · subst heq
      rw [lookup_foldlM hrest (.inl hfirst)]
      exact hasked.asked hnew
    · refine ih hnodup hrest ((List.mem_cons.1 hflag).resolve_left heq) ?_
      rw [← lookup_eq_none_iff] at hnew ⊢
      rw [hasked.others flag heq, hnew]

/-! ### Both together -/

/-- Every flag is asked for. -/
theorem mem_all (flag : Flag) : flag ∈ Flag.all := by
  cases flag <;> decide

/-- **What an accepted command line means**: its arguments spell flags with values, no flag twice,
and a flag has what was given, before the environment. -/
structure IsAccepted (args : List String) (env : Environment) (spelled : List (Flag × String))
    (read : Arguments) : Prop where
  spells : Spells (args.map String.toList) spelled
  nodup : (spelled.map Prod.fst).Nodup
  values : ∀ flag, Option.Rel (IsReadAs flag) (source? spelled env flag) (read.lookup flag)

/-- A flag has the value that it was given with, or it is asked for. -/
theorem rel_source? (hgiven : Option.Rel (IsReadAs flag) (spelled.lookup flag) (given.lookup flag))
    (hkept : given.lookup flag ≠ none → read.lookup flag = given.lookup flag)
    (hasked : given.lookup flag = none →
      Option.Rel (IsReadAs flag) (env.lookup flag.environmentName) (read.lookup flag)) :
    Option.Rel (IsReadAs flag) (source? spelled env flag) (read.lookup flag) := by
  rw [source?]
  generalize spelled.lookup flag = s at hgiven
  generalize given.lookup flag = value at hgiven hkept hasked
  cases hgiven with
  | none =>
    rw [Option.none_or]
    exact hasked rfl
  | some hread =>
    rw [Option.some_or, hkept (Option.some_ne_none _)]
    exact .some hread

/-- **A command line that is accepted has a meaning.** -/
theorem exists_isAccepted {args : List String} (haccepted : CommandLine.read args env = .ok read) :
    ∃ spelled, IsAccepted args env spelled read := by
  rw [CommandLine.read] at haccepted
  cases hgiven : Reader.readAll {} (args.map String.toList) with
  | error fault =>
    rw [hgiven] at haccepted
    cases haccepted
  | ok given =>
    rw [hgiven] at haccepted
    obtain ⟨spelled, hspells, hreads⟩ := exists_spells hgiven
    refine ⟨spelled, hspells, hreads.nodup.1, fun flag => ?_⟩
    refine rel_source? (hreads.rel_lookup List.not_mem_nil) (fun hsome => ?_) fun hnone => ?_
    · exact lookup_foldlM haccepted (.inr (not_not.1 (mt lookup_eq_none_iff.2 hsome)))
    · exact rel_lookup_foldlM (by decide) haccepted (mem_all flag) (lookup_eq_none_iff.1 hnone)

end GpuPassthrough.CommandLine
