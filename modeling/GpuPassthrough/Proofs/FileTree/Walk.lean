import GpuPassthrough.FileTree.Resolve
import Mathlib.Data.List.Basic

/-!
# Walks

A walk takes one turn at each name, and a turn reads nothing but the directory it is in and what
stands at the name. So a walk ends at an entry of the directory that all names but the last lead to,
it ends where it did in a tree that has more directories, and a walk into a directory is one in every
tree that has the same directories and links and perhaps more of them.

## Main results

* `walkNames_cons`: what a walk does at a name.
* `walk_concat`: a walk ends at an entry of the directory before its last name.
* `exists_walk_entry`: what a path leads to begins at something that the path names.
* `walk_target_of_entry`: and ends there, unless it is a link.
* `Grows.walk`: new directories do not change where a walk ends.
* `Narrows.walk`, `Shrinks.walk`: where entries went, a walk does not lead elsewhere.
-/

namespace GpuPassthrough.FileTree

open Text (Octets)

/-! ### Turns -/

/-- What a walk does at a name. -/
inductive Turn where
  | fails (cause : IoFailure)
  /-- It goes on from a place. -/
  | moves (place : Location)
  /-- It goes on through the names of a link. -/
  | jumps (place : Location) (names : List Octets)
  | ends (place : Location)

/-- What a walk does at a name where a given entry stands. -/
def Turn.onto (goal : Goal) (place : Location) (name : Octets) (rest : List Octets) :
    Option Entry → Turn
  | some (.link target) =>
    if rest = [] ∧ goal = .entry then .ends (place ++ [name])
    else .jumps (if (Route.ofOctets target).absolute then [] else place)
      (Route.ofOctets target).steps
  | _ => .moves (place ++ [name])

/-- What a walk does at a name in front of others. -/
def turn (t : FileTree) (goal : Goal) (place : Location) (name : Octets) (rest : List Octets) :
    Turn :=
  match t.find? place with
  | none => .fails .notFound
  | some .directory =>
    if name = Route.dot ∨ name = Route.slash then .moves place
    else if name = Route.dotDot then .moves place.dropLast
    else if goal = .file ∧ rest = [Route.slash] then .fails .isDirectory
    else if name.size > nameLimit then .fails .nameTooLong
    else .onto goal place name rest (t.find? (place ++ [name]))
  | some _ => .fails .notDirectory

/-- How a walk goes on after a turn. -/
def Turn.goOn (rest : List Octets) (move : Location → Except IoFailure Location)
    (jump : Location → List Octets → Except IoFailure Location) : Turn → Except IoFailure Location
  | fails cause => .error cause
  | moves place => move place
  | jumps place names => jump place (names ++ rest)
  | ends place => .ok place

variable {t t' : FileTree} {goal : Goal} {name : Octets}
  {jump jump' : Location → List Octets → Except IoFailure Location}

/-- **A walk takes a turn at its first name** and goes on from there. -/
theorem walkNames_cons (t : FileTree) (goal : Goal)
    (jump : Location → List Octets → Except IoFailure Location) (place : Location) (name : Octets)
    (rest : List Octets) :
    walkNames t goal jump place (name :: rest) =
      (t.turn goal place name rest).goOn rest (fun place => walkNames t goal jump place rest)
        jump := by
  rw [walkNames, turn]
  cases t.find? place with
  | none => rfl
  | some entry =>
    cases entry with
    | directory =>
      dsimp only
      by_cases hstay : name = Route.dot ∨ name = Route.slash
      · rw [if_pos hstay, if_pos hstay, Turn.goOn]
      rw [if_neg hstay, if_neg hstay]
      by_cases hup : name = Route.dotDot
      · rw [if_pos hup, if_pos hup, Turn.goOn]
      rw [if_neg hup, if_neg hup]
      by_cases hslash : goal = .file ∧ rest = [Route.slash]
      · rw [if_pos hslash, if_pos hslash, Turn.goOn]
      rw [if_neg hslash, if_neg hslash]
      by_cases hsize : name.size > nameLimit
      · rw [if_pos hsize, if_pos hsize, Turn.goOn]
      rw [if_neg hsize, if_neg hsize]
      cases t.find? (place ++ [name]) with
      | none => rfl
      | some next =>
        cases next with
        | link target => dsimp only [Turn.onto]; split <;> rfl
        | directory => rfl
        | file content => rfl
        | socket => rfl
    | file content => rfl
    | link target => rfl
    | socket => rfl

/-- What leads from one turn to the same place leads there from another turn of its kind. -/
theorem Turn.goOn_imp {rest rest' : List Octets} {move move' : Location → Except IoFailure Location}
    {turn : Turn} {spot : Location} (hgo : turn.goOn rest move jump = .ok spot)
    (hmove : ∀ place, move place = .ok spot → move' place = .ok spot)
    (hjump : ∀ place names, jump place (names ++ rest) = .ok spot →
      jump' place (names ++ rest') = .ok spot) :
    turn.goOn rest' move' jump' = .ok spot := by
  cases turn with
  | fails cause => cases hgo
  | moves place => exact hmove place hgo
  | jumps place names => exact hjump place names hgo
  | ends place => exact hgo

/-- What a walk does in a directory at a name that is not one of its entries. -/
def Turn.ofName? (goal : Goal) (place : Location) (name : Octets) (rest : List Octets) :
    Option Turn :=
  if name = Route.dot ∨ name = Route.slash then some (.moves place)
  else if name = Route.dotDot then some (.moves place.dropLast)
  else if goal = .file ∧ rest = [Route.slash] then some (.fails .isDirectory)
  else if name.size > nameLimit then some (.fails .nameTooLong)
  else none

/-- In a directory the name decides a turn, or what stands at it. -/
theorem turn_of_directory {place : Location} (hplace : t.find? place = some .directory)
    (goal : Goal) (name : Octets) (rest : List Octets) :
    t.turn goal place name rest = (Turn.ofName? goal place name rest).getD
      (.onto goal place name rest (t.find? (place ++ [name]))) := by
  rw [turn, hplace, Turn.ofName?]
  dsimp only
  split_ifs <;> rfl

/-- A walk does not end at such a name. -/
theorem Turn.ne_ends_of_ofName? {goal : Goal} {place : Location} {rest : List Octets} {turn : Turn}
    (hname : Turn.ofName? goal place name rest = some turn) (spot : Location) :
    turn ≠ .ends spot := by
  rintro rfl
  rw [Turn.ofName?] at hname
  split_ifs at hname <;> cases hname

/-- A walk for an entry does the same at such a name as one that follows links. -/
theorem Turn.ofName?_entry (place : Location) (name : Octets) (rest : List Octets) :
    Turn.ofName? .entry place name rest = Turn.ofName? .target place name rest := by
  simp only [Turn.ofName?, reduceCtorEq, false_and]

/-- In a directory a turn is the same in every tree, or what stands at the name decides it. -/
theorem turn_cases (goal : Goal) (place : Location) (name : Octets) (rest : List Octets) :
    (∃ result, (∀ spot, result ≠ .ends spot) ∧ ∀ t : FileTree,
        t.find? place = some .directory → t.turn goal place name rest = result) ∨
      ∀ t : FileTree, t.find? place = some .directory →
        t.turn goal place name rest =
          .onto goal place name rest (t.find? (place ++ [name])) := by
  cases hname : Turn.ofName? goal place name rest with
  | some result =>
    refine .inl ⟨result, Turn.ne_ends_of_ofName? hname, fun t hplace => ?_⟩
    rw [turn_of_directory hplace, hname, Option.getD_some]
  | none =>
    refine .inr fun t hplace => ?_
    rw [turn_of_directory hplace, hname, Option.getD_none]

/-- A turn comes to what stands at the name if that is no link. -/
theorem Turn.onto_of_no_link {goal : Goal} {place : Location} {name : Octets} {rest : List Octets}
    {next : Option Entry} (hnext : ∀ target, next ≠ some (.link target)) :
    Turn.onto goal place name rest next = .moves (place ++ [name]) := by
  rw [Turn.onto]
  exact fun target hlink => hnext target hlink

/-- Every turn fails alike where there is no directory. -/
theorem turn_of_not_directory {place : Location} (hplace : t.find? place ≠ some .directory) :
    ∃ cause, ∀ goal name rest, t.turn goal place name rest = .fails cause := by
  cases hentry : t.find? place with
  | none => exact ⟨.notFound, fun goal name rest => by rw [turn, hentry]⟩
  | some entry =>
    refine ⟨.notDirectory, fun goal name rest => ?_⟩
    rw [turn, hentry]
    cases entry with
    | directory => exact absurd hentry hplace
    | file content => rfl
    | link target => rfl
    | socket => rfl

/-- Only a walk for an entry ends at a link, and only at its last name. -/
theorem eq_of_turn_ends {place spot : Location} {rest : List Octets}
    (hturn : t.turn goal place name rest = .ends spot) : rest = [] ∧ goal = .entry := by
  by_cases hplace : t.find? place = some .directory
  · obtain ⟨result, hresult, hsame⟩ | honto := turn_cases goal place name rest
    · exact absurd ((hsame t hplace).symm.trans hturn) (hresult spot)
    · rw [honto t hplace] at hturn
      by_cases hlink : ∃ target, t.find? (place ++ [name]) = some (.link target)
      · obtain ⟨target, hlink⟩ := hlink
        rw [hlink, Turn.onto] at hturn
        by_contra hgoal
        rw [if_neg hgoal] at hturn
        cases hturn
      · rw [Turn.onto_of_no_link (not_exists.1 hlink)] at hturn
        cases hturn
  · obtain ⟨cause, hfails⟩ := turn_of_not_directory hplace
    cases (hfails goal name rest).symm.trans hturn

/-- A walk goes nowhere else, or starts from a directory. -/
theorem eq_or_directory_of_walkNames {place spot : Location} {names : List Octets}
    (hwalk : walkNames t goal jump place names = .ok spot) :
    place = spot ∨ t.find? place = some .directory := by
  cases names with
  | nil =>
    rw [walkNames_nil] at hwalk
    exact .inl (Except.ok.inj hwalk)
  | cons name rest =>
    refine .inr ?_
    by_contra hplace
    obtain ⟨cause, hfails⟩ := turn_of_not_directory hplace
    rw [walkNames_cons, hfails] at hwalk
    cases hwalk

/-! ### The last name -/

/-- A name of an entry, and none that stays in a directory or leaves it. -/
structure IsEntryName (name : Octets) : Prop where
  ne_dot : name ≠ Route.dot
  ne_slash : name ≠ Route.slash
  ne_dotDot : name ≠ Route.dotDot

/-- The place of a name in a directory. -/
def entryIn (t : FileTree) (name : Octets) (directory : Location) : Except IoFailure Location :=
  match t.find? directory with
  | none => .error .notFound
  | some .directory =>
    if name.size > nameLimit then .error .nameTooLong else .ok (directory ++ [name])
  | some _ => .error .notDirectory

/-- A name has a place in a directory, if it is not too long. -/
theorem entryIn_eq_ok_iff {directory place : Location} :
    t.entryIn name directory = .ok place ↔
      t.find? directory = some .directory ∧ name.size ≤ nameLimit ∧
        place = directory ++ [name] := by
  rw [entryIn]
  split
  · next hnone => simp [hnone]
  · next hdirectory =>
    by_cases hsize : name.size > nameLimit
    · simp [hsize, Nat.not_le.2 hsize]
    · simp [hdirectory, hsize, Nat.not_lt.1 hsize, eq_comm]
  · next entry hne hentry =>
    have hother : entry ≠ .directory := hne
    simp [hentry, hother]

/-- Whether a walk ends at a name in the directory that it has come to: it seeks the entry, or there
is no link. -/
def EndsAt (t : FileTree) (goal : Goal) (name : Octets) (way : Except IoFailure Location) : Prop :=
  goal ≠ .entry → ∀ place target, way.bind (t.entryIn name) = .ok place →
    t.find? place ≠ some (.link target)

/-- Names in front of the last one are walked as if it were not there, links followed. -/
theorem turn_concat (hname : name ≠ Route.slash) (place : Location) (first : Octets)
    (rest : List Octets) :
    t.turn goal place first (rest ++ [name]) = t.turn .target place first rest := by
  have hlast : rest ++ [name] ≠ [Route.slash] := by
    intro heq
    have hlast := congrArg List.getLast? heq
    rw [List.getLast?_concat] at hlast
    exact hname (Option.some.inj hlast)
  simp [turn, Turn.onto, hlast]

/-- At the last name a walk ends. -/
theorem walkNames_last (hname : IsEntryName name) {place : Location}
    (hend : EndsAt t goal name (.ok place)) :
    walkNames t goal jump place [name] = t.entryIn name place := by
  rw [walkNames_cons, turn, entryIn]
  cases hplace : t.find? place with
  | none => rfl
  | some entry =>
    cases entry with
    | directory =>
      dsimp only
      rw [if_neg (not_or.2 ⟨hname.ne_dot, hname.ne_slash⟩), if_neg hname.ne_dotDot,
        if_neg (by simp)]
      by_cases hsize : name.size > nameLimit
      · rw [if_pos hsize, if_pos hsize, Turn.goOn]
      rw [if_neg hsize, if_neg hsize]
      by_cases hlink : ∃ target, t.find? (place ++ [name]) = some (.link target)
      · obtain ⟨target, hlink⟩ := hlink
        have hgoal : goal = .entry := by
          by_contra hgoal
          have hentry := entryIn_eq_ok_iff.2 ⟨hplace, Nat.not_lt.1 hsize, rfl⟩
          exact hend hgoal _ target hentry hlink
        rw [hlink, Turn.onto, if_pos ⟨rfl, hgoal⟩, Turn.goOn]
      · rw [Turn.onto_of_no_link (not_exists.1 hlink), Turn.goOn, walkNames_nil]
    | file content => rfl
    | link target => rfl
    | socket => rfl

/-- A walk ends at an entry of the directory before its last name, if its jumps do. -/
theorem walkNames_concat (hname : IsEntryName name)
    (hjump : ∀ place names, EndsAt t goal name (jump' place names) →
      jump place (names ++ [name]) = (jump' place names).bind (t.entryIn name))
    (place : Location) (names : List Octets)
    (hend : EndsAt t goal name (walkNames t .target jump' place names)) :
    walkNames t goal jump place (names ++ [name]) =
      (walkNames t .target jump' place names).bind (t.entryIn name) := by
  induction names generalizing place with
  | nil =>
    rw [walkNames_nil] at hend ⊢
    exact walkNames_last hname hend
  | cons first rest ih =>
    rw [walkNames_cons] at hend
    rw [List.cons_append, walkNames_cons, walkNames_cons, turn_concat hname.ne_slash]
    cases hturn : t.turn .target place first rest with
    | fails cause => rfl
    | moves next =>
      rw [hturn] at hend
      exact ih next hend
    | jumps next names =>
      rw [hturn] at hend
      rw [Turn.goOn, Turn.goOn, ← List.append_assoc]
      exact hjump next (names ++ rest) hend
    | ends spot => cases (eq_of_turn_ends hturn).2

/-- **A walk ends at an entry of the directory before its last name**, unless it goes on from a link
there. -/
theorem walk_concat (hname : IsEntryName name) (links : Nat) (place : Location)
    (names : List Octets) (hend : EndsAt t goal name (t.walk .target links place names)) :
    t.walk goal links place (names ++ [name]) =
      (t.walk .target links place names).bind (t.entryIn name) := by
  induction links generalizing place names with
  | zero => exact walkNames_concat hname (fun _ _ _ => rfl) place names hend
  | succ links ih => exact walkNames_concat hname ih place names hend

/-! ### The first thing that a path names -/

/-- Where links are followed, it does not matter what comes behind a name. -/
theorem turn_target (place : Location) (name : Octets) (rest rest' : List Octets) :
    t.turn .target place name rest = t.turn .target place name rest' := by
  simp [turn, Turn.onto]

/-- Where the entry is sought, a walk takes the same turns, but for a link at the end. -/
theorem turn_entry (place : Location) (name : Octets) (rest : List Octets) :
    t.turn .entry place name rest = t.turn .target place name rest ∨
      ∃ spot target, t.turn .entry place name rest = .ends spot ∧
        t.find? spot = some (.link target) := by
  by_cases hplace : t.find? place = some .directory
  · rw [turn_of_directory hplace, turn_of_directory hplace, Turn.ofName?_entry]
    cases Turn.ofName? .target place name rest with
    | some turn => exact .inl rfl
    | none =>
      rw [Option.getD_none, Option.getD_none]
      by_cases hlink : ∃ target, t.find? (place ++ [name]) = some (.link target)
      · obtain ⟨target, hlink⟩ := hlink
        by_cases hlast : rest = []
        · exact .inr ⟨_, target, by rw [hlink, Turn.onto, if_pos ⟨hlast, rfl⟩], hlink⟩
        · exact .inl (by simp only [hlink, Turn.onto, hlast, false_and, if_false])
      · exact .inl (by rw [Turn.onto_of_no_link (not_exists.1 hlink),
          Turn.onto_of_no_link (not_exists.1 hlink)])
  · obtain ⟨cause, hfails⟩ := turn_of_not_directory hplace
    exact .inl ((hfails .entry name rest).trans (hfails .target name rest).symm)

/-- What a walk leads to begins at something that its names lead to, if that holds of its jumps. -/
theorem exists_walkNames_entry
    (hjump : ∀ place names spot, jump' place names = .ok spot → t.find? spot ≠ none →
      ∃ first, jump place names = .ok first ∧ t.find? first ≠ none)
    {place spot : Location} {names : List Octets}
    (hwalk : walkNames t .target jump' place names = .ok spot) (hspot : t.find? spot ≠ none) :
    ∃ first, walkNames t .entry jump place names = .ok first ∧ t.find? first ≠ none := by
  induction names generalizing place with
  | nil =>
    rw [walkNames_nil, Except.ok.injEq] at hwalk
    exact ⟨place, walkNames_nil, hwalk ▸ hspot⟩
  | cons name rest ih =>
    rw [walkNames_cons] at hwalk
    rw [walkNames_cons]
    obtain hsame | ⟨first, target, hends, hlink⟩ := turn_entry (t := t) place name rest
    · rw [hsame]
      cases hturn : t.turn .target place name rest with
      | fails cause =>
        rw [hturn] at hwalk
        cases hwalk
      | moves next =>
        rw [hturn] at hwalk
        exact ih hwalk
      | jumps next names =>
        rw [hturn] at hwalk
        exact hjump next (names ++ rest) spot hwalk hspot
      | ends last => cases (eq_of_turn_ends hturn).2
    · rw [hends]
      exact ⟨first, rfl, by rw [hlink]; exact Option.some_ne_none _⟩

/-- **What a path leads to begins at something that the path names.** -/
theorem exists_walk_entry {links : Nat} {place spot : Location} {names : List Octets}
    (hwalk : t.walk .target links place names = .ok spot) (hspot : t.find? spot ≠ none) :
    ∃ first, t.walk .entry links place names = .ok first ∧ t.find? first ≠ none := by
  induction links generalizing place names spot with
  | zero => exact exists_walkNames_entry (fun _ _ _ hjump => by cases hjump) hwalk hspot
  | succ links ih => exact exists_walkNames_entry (fun _ _ _ => ih) hwalk hspot

/-- A slash at the end of a walk does not lead elsewhere, if that holds of its jumps. -/
theorem walkNames_of_slash
    (hjump : ∀ place names spot, jump place (names ++ [Route.slash]) = .ok spot →
      jump' place names = .ok spot)
    {place spot : Location} {names : List Octets}
    (hwalk : walkNames t .target jump place (names ++ [Route.slash]) = .ok spot) :
    walkNames t .target jump' place names = .ok spot := by
  induction names generalizing place with
  | nil =>
    rw [List.nil_append, walkNames_cons, turn] at hwalk
    split at hwalk
    · cases hwalk
    · rw [if_pos (.inr rfl), Turn.goOn, walkNames_nil] at hwalk
      rw [walkNames_nil, hwalk]
    · cases hwalk
  | cons name rest ih =>
    rw [List.cons_append, walkNames_cons, turn_target place name _ rest] at hwalk
    rw [walkNames_cons]
    refine Turn.goOn_imp hwalk (fun _ => ih) fun next names hnext => ?_
    rw [← List.append_assoc] at hnext
    exact hjump next (names ++ rest) spot hnext

/-- A slash at the end of a walk does not lead elsewhere. -/
theorem walk_of_slash {links : Nat} {place spot : Location} {names : List Octets}
    (hwalk : t.walk .target links place (names ++ [Route.slash]) = .ok spot) :
    t.walk .target links place names = .ok spot := by
  induction links generalizing place names spot with
  | zero => exact walkNames_of_slash (fun _ _ _ hjump => by cases hjump) hwalk
  | succ links ih => exact walkNames_of_slash (fun _ _ _ => ih) hwalk

/-- A slash behind a walk to a directory leads there, too, if that holds of its jumps. -/
theorem walkNames_slash
    (hjump : ∀ place names spot, jump place names = .ok spot → t.find? spot = some .directory →
      jump' place (names ++ [Route.slash]) = .ok spot)
    {place spot : Location} {names : List Octets}
    (hwalk : walkNames t .target jump place names = .ok spot)
    (hspot : t.find? spot = some .directory) :
    walkNames t .target jump' place (names ++ [Route.slash]) = .ok spot := by
  induction names generalizing place with
  | nil =>
    obtain rfl : place = spot := by rwa [walkNames_nil, Except.ok.injEq] at hwalk
    rw [List.nil_append, walkNames_cons, turn, hspot]
    dsimp only
    rw [if_pos (.inr rfl), Turn.goOn, walkNames_nil]
  | cons name rest ih =>
    rw [walkNames_cons] at hwalk
    rw [List.cons_append, walkNames_cons, turn_target place name _ rest]
    refine Turn.goOn_imp hwalk (fun _ => ih) fun next names hnext => ?_
    rw [← List.append_assoc]
    exact hjump next (names ++ rest) spot hnext hspot

/-- A slash behind a walk to a directory leads there, too. -/
theorem walk_slash {links : Nat} {place spot : Location} {names : List Octets}
    (hwalk : t.walk .target links place names = .ok spot) (hspot : t.find? spot = some .directory) :
    t.walk .target links place (names ++ [Route.slash]) = .ok spot := by
  induction links generalizing place names spot with
  | zero => exact walkNames_slash (fun _ _ _ hjump => by cases hjump) hwalk hspot
  | succ links ih => exact walkNames_slash (fun place names spot => @ih place spot names) hwalk hspot

/-- What stands at the end of a walk is what is looked up there, unless it is a link, if that holds
of the jumps of the walk. -/
theorem walkNames_target_of_entry
    (hjump : ∀ place names spot, jump place names = .ok spot →
      (∀ target, t.find? spot ≠ some (.link target)) → jump' place names = .ok spot)
    {place spot : Location} {names : List Octets}
    (hwalk : walkNames t .entry jump place names = .ok spot)
    (hspot : ∀ target, t.find? spot ≠ some (.link target)) :
    walkNames t .target jump' place names = .ok spot := by
  induction names generalizing place with
  | nil => rwa [walkNames_nil] at hwalk ⊢
  | cons name rest ih =>
    rw [walkNames_cons] at hwalk
    rw [walkNames_cons]
    obtain hsame | ⟨last, target, hends, hlink⟩ := turn_entry (t := t) place name rest
    · rw [hsame] at hwalk
      exact Turn.goOn_imp hwalk (fun _ => ih) fun next names hnext =>
        hjump next (names ++ rest) spot hnext hspot
    · rw [hends, Turn.goOn, Except.ok.injEq] at hwalk
      exact absurd (hwalk ▸ hlink) (hspot target)

/-- What stands at the end of a walk is what is looked up there, unless it is a link. -/
theorem walk_target_of_entry {links : Nat} {place spot : Location} {names : List Octets}
    (hwalk : t.walk .entry links place names = .ok spot)
    (hspot : ∀ target, t.find? spot ≠ some (.link target)) :
    t.walk .target links place names = .ok spot := by
  induction links generalizing place names spot with
  | zero => exact walkNames_target_of_entry (fun _ _ _ hjump => by cases hjump) hwalk hspot
  | succ links ih =>
    exact walkNames_target_of_entry (fun place names spot => @ih place spot names) hwalk hspot

/-! ### Other trees -/

/-- A tree with more directories. -/
structure Grows (t t' : FileTree) : Prop where
  workingDirectory : t'.workingDirectory = t.workingDirectory
  /-- Directories are new where nothing stood, and nothing else is. -/
  entries : ∀ place, t'.find? place = t.find? place ∨
    t.find? place = none ∧ t'.find? place = some .directory

namespace Grows

/-- A turn that does not fail is the same in a tree with more directories. -/
theorem turn (hgrows : t.Grows t') (goal : Goal) (place : Location) (name : Octets)
    (rest : List Octets) :
    (∃ cause, t.turn goal place name rest = .fails cause) ∨
      t'.turn goal place name rest = t.turn goal place name rest := by
  by_cases hplace : t.find? place = some .directory
  · have hplace' : t'.find? place = some .directory := by
      obtain hsame | ⟨hnone, -⟩ := hgrows.entries place
      · exact hsame.trans hplace
      · cases hnone.symm.trans hplace
    refine .inr ?_
    obtain ⟨result, -, hresult⟩ | honto := turn_cases goal place name rest
    · rw [hresult t hplace, hresult t' hplace']
    · rw [honto t hplace, honto t' hplace']
      obtain hsame | ⟨hnone, hnew⟩ := hgrows.entries (place ++ [name])
      · rw [hsame]
      · rw [hnone, hnew]
        rfl
  · obtain ⟨cause, hfails⟩ := turn_of_not_directory hplace
    exact .inl ⟨cause, hfails goal name rest⟩

/-- New directories do not change where a walk ends, if that holds of its jumps. -/
theorem walkNames (hgrows : t.Grows t')
    (hjump : ∀ place names spot, jump place names = .ok spot → jump' place names = .ok spot)
    {place spot : Location} {names : List Octets}
    (hwalk : FileTree.walkNames t goal jump place names = .ok spot) :
    FileTree.walkNames t' goal jump' place names = .ok spot := by
  induction names generalizing place with
  | nil => rwa [walkNames_nil] at hwalk ⊢
  | cons name rest ih =>
    rw [walkNames_cons] at hwalk
    rw [walkNames_cons]
    obtain ⟨cause, hfails⟩ | hsame := hgrows.turn goal place name rest
    · rw [hfails] at hwalk
      cases hwalk
    rw [hsame]
    exact Turn.goOn_imp hwalk (fun _ => ih) fun next names => hjump next (names ++ rest) spot

/-- **New directories do not change where a walk ends.** -/
theorem walk (hgrows : t.Grows t') {links : Nat} {place spot : Location} {names : List Octets}
    (hwalk : t.walk goal links place names = .ok spot) :
    t'.walk goal links place names = .ok spot := by
  induction links generalizing place names spot with
  | zero => exact hgrows.walkNames (fun _ _ _ hjump => by cases hjump) hwalk
  | succ links ih => exact hgrows.walkNames (fun _ _ _ => ih) hwalk

end Grows

/-- A tree that has entries of some kinds only where another one has the same. The kinds include
all that a walk follows. -/
structure Keeps (counts : Entry → Prop) (t t' : FileTree) : Prop where
  directory : counts .directory
  link : ∀ target, counts (.link target)
  workingDirectory : t'.workingDirectory = t.workingDirectory
  entries : ∀ place entry, counts entry → t'.find? place = some entry →
    t.find? place = some entry

namespace Keeps

variable {counts : Entry → Prop}

/-- A turn is one of the other tree, unless it fails, or comes to what does not count. -/
theorem turn (hkeeps : Keeps counts t t') (goal : Goal) (place : Location) (name : Octets)
    (rest : List Octets) :
    (∃ cause, t'.turn goal place name rest = .fails cause) ∨
      t'.turn goal place name rest = t.turn goal place name rest ∨
      ∃ next, t'.turn goal place name rest = .moves next ∧
        ∀ entry, counts entry → t'.find? next ≠ some entry := by
  by_cases hplace : t'.find? place = some .directory
  · have hwide := hkeeps.entries place _ hkeeps.directory hplace
    refine .inr ?_
    obtain ⟨result, -, hresult⟩ | honto := turn_cases goal place name rest
    · exact .inl (by rw [hresult t hwide, hresult t' hplace])
    rw [honto t hwide, honto t' hplace]
    by_cases hnext : ∃ entry, counts entry ∧ t'.find? (place ++ [name]) = some entry
    · obtain ⟨entry, hcounts, hnext⟩ := hnext
      exact .inl (by rw [hnext, hkeeps.entries _ entry hcounts hnext])
    · have hnone : ∀ entry, counts entry → t'.find? (place ++ [name]) ≠ some entry :=
        fun entry hcounts hfind => hnext ⟨entry, hcounts, hfind⟩
      rw [Turn.onto_of_no_link fun target => hnone _ (hkeeps.link target)]
      exact .inr ⟨place ++ [name], rfl, hnone⟩
  · obtain ⟨cause, hfails⟩ := turn_of_not_directory hplace
    exact .inl ⟨cause, hfails goal name rest⟩

/-- A walk to what counts is one of the other tree, if that holds of its jumps. -/
theorem walkNames (hkeeps : Keeps counts t t')
    (hjump : ∀ place names spot, jump' place names = .ok spot →
      (∃ entry, counts entry ∧ t'.find? spot = some entry) → jump place names = .ok spot)
    {place spot : Location} {names : List Octets}
    (hwalk : FileTree.walkNames t' goal jump' place names = .ok spot)
    (hspot : ∃ entry, counts entry ∧ t'.find? spot = some entry) :
    FileTree.walkNames t goal jump place names = .ok spot := by
  induction names generalizing place with
  | nil => rwa [walkNames_nil] at hwalk ⊢
  | cons name rest ih =>
    rw [walkNames_cons] at hwalk
    rw [walkNames_cons]
    obtain ⟨cause, hfails⟩ | hsame | ⟨next, hmoves, hnext⟩ := hkeeps.turn goal place name rest
    · rw [hfails] at hwalk
      cases hwalk
    · rw [← hsame]
      exact Turn.goOn_imp hwalk (fun _ => ih) fun next names hnext =>
        hjump next (names ++ rest) spot hnext hspot
    · rw [hmoves] at hwalk
      obtain rfl | hdirectory := eq_or_directory_of_walkNames hwalk
      · obtain ⟨entry, hcounts, hfind⟩ := hspot
        exact absurd hfind (hnext entry hcounts)
      · exact absurd hdirectory (hnext _ hkeeps.directory)

/-- **A walk to what counts is one of the other tree.** -/
theorem walk (hkeeps : Keeps counts t t') {links : Nat} {place spot : Location}
    {names : List Octets} (hwalk : t'.walk goal links place names = .ok spot)
    (hspot : ∃ entry, counts entry ∧ t'.find? spot = some entry) :
    t.walk goal links place names = .ok spot := by
  induction links generalizing place names spot with
  | zero => exact hkeeps.walkNames (fun _ _ _ hjump => by cases hjump) hwalk hspot
  | succ links ih => exact hkeeps.walkNames (fun _ _ _ => ih) hwalk hspot

end Keeps

/-- A tree without some directories and links, or with other things in their place. -/
structure Narrows (t t' : FileTree) : Prop where
  workingDirectory : t'.workingDirectory = t.workingDirectory
  directories : ∀ place, t'.find? place = some .directory → t.find? place = some .directory
  links : ∀ place target, t'.find? place = some (.link target) →
    t.find? place = some (.link target)

/-- **A walk into a directory is one of the wider tree.** -/
theorem Narrows.walk (hnarrows : t.Narrows t') {links : Nat} {place spot : Location}
    {names : List Octets} (hwalk : t'.walk goal links place names = .ok spot)
    (hspot : t'.find? spot = some .directory) : t.walk goal links place names = .ok spot := by
  have hkeeps : Keeps (fun entry => entry = .directory ∨ ∃ target, entry = .link target) t t' :=
    { directory := .inl rfl
      link := fun target => .inr ⟨target, rfl⟩
      workingDirectory := hnarrows.workingDirectory
      entries := fun place entry hcounts hfind => by
        obtain rfl | ⟨target, rfl⟩ := hcounts
        · exact hnarrows.directories place hfind
        · exact hnarrows.links place target hfind }
  exact hkeeps.walk hwalk ⟨.directory, .inl rfl, hspot⟩

/-- A tree without some of the entries. -/
structure Shrinks (t t' : FileTree) : Prop where
  workingDirectory : t'.workingDirectory = t.workingDirectory
  entries : ∀ place entry, t'.find? place = some entry → t.find? place = some entry

/-- **A walk to something is one of the tree with more entries.** -/
theorem Shrinks.walk (hshrinks : t.Shrinks t') {links : Nat} {place spot : Location}
    {names : List Octets} (hwalk : t'.walk goal links place names = .ok spot) {entry : Entry}
    (hspot : t'.find? spot = some entry) : t.walk goal links place names = .ok spot := by
  have hkeeps : Keeps (fun _ => True) t t' :=
    ⟨trivial, fun _ => trivial, hshrinks.workingDirectory, fun place entry _ => hshrinks.entries _ _⟩
  exact hkeeps.walk hwalk ⟨entry, trivial, hspot⟩

end GpuPassthrough.FileTree
