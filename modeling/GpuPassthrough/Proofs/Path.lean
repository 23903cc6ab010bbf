import GpuPassthrough.Path
import Mathlib.Data.List.Basic

/-!
# File Names below a Directory

A text without slashes is one piece of every path that ends in it, whether the directory before it
is empty, ends in a slash or neither. So a file keeps its name below every directory, and files of
different names are different places.

## Main results

* `Path.components_join`: a path below a directory goes on from the directory.
* `Path.fileName?_join`: a file below a directory is called by its name.
* `Path.eq_of_samePath_join`: files below a directory are told apart by their names.
* `Path.isName_iff`: a path that is one name has no slashes.
-/

namespace GpuPassthrough

namespace Path

/-- A slash separates the pieces before it from those after it. -/
theorem splitSlashes_append_slash (before after : List Char) :
    splitSlashes (before ++ '/' :: after) = splitSlashes before ++ splitSlashes after := by
  induction before with
  | nil =>
    obtain ⟨piece, rest, hsplit⟩ := List.exists_cons_of_ne_nil (splitSlashes_ne_nil after)
    simp [splitSlashes, hsplit]
  | cons c before ih =>
    obtain ⟨piece, rest, hsplit⟩ := List.exists_cons_of_ne_nil (splitSlashes_ne_nil before)
    rw [List.cons_append, splitSlashes, ih, hsplit, splitSlashes, hsplit]
    by_cases hslash : c = '/' <;> simp [hslash]

/-- A text without slashes is one piece. -/
theorem splitSlashes_of_not_mem {s : List Char} (hslash : '/' ∉ s) : splitSlashes s = [s] := by
  induction s with
  | nil => rfl
  | cons c rest ih =>
    obtain ⟨hc, hrest⟩ := not_or.1 (List.mem_cons.not.1 hslash)
    rw [splitSlashes, ih hrest]
    simp [Ne.symm hc]

/-- A name without slashes is the one piece of its path. -/
theorem pieces_of_not_mem {name : String} (hslash : '/' ∉ name.toList) : pieces name = [name] := by
  rw [pieces, splitSlashes_of_not_mem hslash, List.map_singleton, String.ofList_toList]

/-- A text without slashes in front of another goes to the first piece of that one. -/
theorem exists_splitSlashes_append {front : List Char} (hslash : '/' ∉ front) (s : List Char) :
    ∃ piece rest, splitSlashes s = piece :: rest ∧
      splitSlashes (front ++ s) = (front ++ piece) :: rest := by
  obtain ⟨piece, rest, hsplit⟩ := List.exists_cons_of_ne_nil (splitSlashes_ne_nil s)
  refine ⟨piece, rest, hsplit, ?_⟩
  induction front with
  | nil => exact hsplit
  | cons c front ih =>
    obtain ⟨hc, hfront⟩ := not_or.1 (List.mem_cons.not.1 hslash)
    rw [List.cons_append, splitSlashes, ih hfront]
    simp [Ne.symm hc]

/-- A text without slashes is no absolute path. -/
theorem not_isAbsolute {name : String} (hslash : '/' ∉ name.toList) : isAbsolute name = false := by
  rw [isAbsolute, beq_eq_false_iff_ne]
  exact fun hhead => hslash (List.mem_of_mem_head? hhead)

/-- The pieces of a path below a directory are those of the directory, but for an empty one at their
end, and those of the second part. -/
theorem exists_pieces_join_append {part : String} (hrelative : isAbsolute part = false)
    (directory : String) :
    ∃ before, (pieces directory = before ∨ pieces directory = before ++ [""]) ∧
      pieces (join directory part) = before ++ pieces part := by
  have hpieces : ∀ before : List Char,
      (splitSlashes (before ++ '/' :: part.toList)).map String.ofList =
        (splitSlashes before).map String.ofList ++ pieces part := by
    intro before
    rw [splitSlashes_append_slash, List.map_append, pieces]
  rw [join, hrelative, if_neg Bool.false_ne_true]
  split
  · next hend =>
    rw [Bool.or_eq_true, beq_iff_eq, beq_iff_eq] at hend
    rw [pieces, pieces, String.toList_append]
    rcases hend with hempty | hslash'
    · rw [List.getLast?_eq_none_iff.1 hempty, List.nil_append]
      exact ⟨[], .inr rfl, rfl⟩
    · obtain ⟨before, hbefore⟩ := List.getLast?_eq_some_iff.1 hslash'
      rw [hbefore, List.append_assoc, splitSlashes_append_slash]
      exact ⟨(splitSlashes before).map String.ofList, .inr (by simp [splitSlashes]),
        hpieces before⟩
  · rw [pieces, pieces, String.toList_append, String.toList_append, List.append_assoc]
    exact ⟨_, .inl rfl, hpieces directory.toList⟩

/-- The pieces of a path below a directory are those of the directory, but for an empty one at their
end, and the name. -/
theorem exists_pieces_join {name : String} (hslash : '/' ∉ name.toList) (directory : String) :
    ∃ before, (pieces directory = before ∨ pieces directory = before ++ [""]) ∧
      pieces (join directory name) = before ++ [name] := by
  rw [← pieces_of_not_mem hslash]
  exact exists_pieces_join_append (not_isAbsolute hslash) directory

/-- A path below a directory is the name behind the same text for every name. -/
theorem exists_join_eq (directory : String) :
    ∃ front, ∀ name : String, '/' ∉ name.toList → join directory name = front ++ name := by
  by_cases hend : (directory.toList.getLast? == none || directory.toList.getLast? == some '/') = true
  · refine ⟨directory, fun name hslash => ?_⟩
    rw [join, not_isAbsolute hslash, if_neg Bool.false_ne_true, if_pos hend]
  · refine ⟨directory ++ "/", fun name hslash => ?_⟩
    rw [join, not_isAbsolute hslash, if_neg Bool.false_ne_true, if_neg hend]

/-- A path below a directory starts where that of the directory does. -/
theorem isAbsolute_join {part : String} (hrelative : isAbsolute part = false)
    (directory : String) : isAbsolute (join directory part) = isAbsolute directory := by
  rw [join, hrelative, if_neg Bool.false_ne_true]
  split
  · next hend =>
    rw [isAbsolute, isAbsolute, String.toList_append]
    cases hlist : directory.toList with
    | nil => exact hrelative
    | cons c rest => rfl
  · next hend =>
    rw [isAbsolute, isAbsolute, String.toList_append, String.toList_append]
    cases hlist : directory.toList with
    | nil => simp [hlist] at hend
    | cons c rest => rfl

/-- **A path below a directory goes on from the directory** by the components of its second part, if
that starts neither from the root nor with a dot. -/
theorem components_join {part : String} (hrelative : isAbsolute part = false)
    (hdot : (pieces part).head? ≠ some ".") (directory : String) :
    components (join directory part) =
      components directory ++ (pieces part).filterMap component? := by
  obtain ⟨before, hdirectory, hpieces⟩ := exists_pieces_join_append hrelative directory
  have hidle : (pieces directory).filterMap component? = before.filterMap component? := by
    rcases hdirectory with hsame | hsame <;> simp [hsame, component?]
  -- Whether a path starts with a dot is told by its first piece, which is one of the directory.
  have hstart : ((pieces (join directory part)).head? == some ".") =
      ((pieces directory).head? == some ".") := by
    rw [hpieces]
    cases before with
    | cons piece rest => rcases hdirectory with hsame | hsame <;> simp [hsame]
    | nil =>
      rcases hdirectory with hsame | hsame
      · simp [pieces, splitSlashes_ne_nil] at hsame
      · simpa [hsame] using hdot
  simp only [components, isAbsolute_join hrelative, hstart]
  rw [hpieces, List.filterMap_append, hidle, List.append_assoc]

/-- Whether a path leads to an entry of a directory. -/
def IsChild (directory path : String) : Prop :=
  ∃ name, components path = components directory ++ [.name name]

/-- A file below a directory is an entry of it. -/
theorem isChild_join {name : String} (hslash : '/' ∉ name.toList)
    (hname : component? name = some (.name name)) (directory : String) :
    IsChild directory (join directory name) := by
  have hpieces := pieces_of_not_mem hslash
  have hdot : (pieces name).head? ≠ some "." := by
    rw [hpieces]
    rintro ⟨rfl⟩
    cases hname
  refine ⟨name, ?_⟩
  rw [components_join (not_isAbsolute hslash) hdot, hpieces, List.filterMap_cons_some hname,
    List.filterMap_nil]

/-- Of paths of one place both lead to an entry of a directory, or none. -/
theorem isChild_congr {directory a b : String} (hsame : SamePath a b) :
    IsChild directory a ↔ IsChild directory b := by
  rw [SamePath] at hsame
  rw [IsChild, IsChild, hsame]

/-- A file name ends its path. -/
theorem getLast?_join {name : String} (hslash : '/' ∉ name.toList) (hne : name.toList ≠ [])
    (directory : String) : (join directory name).toList.getLast? = name.toList.getLast? := by
  obtain ⟨front, hfront⟩ := exists_join_eq directory
  rw [hfront name hslash, String.toList_append, List.getLast?_append_of_ne_nil _ hne]

/-- A file name is the last piece of its path. -/
theorem pieces_join_getLast? {name : String} (hslash : '/' ∉ name.toList) (directory : String) :
    (pieces (join directory name)).getLast? = some name := by
  obtain ⟨before, -, hpieces⟩ := exists_pieces_join hslash directory
  rw [hpieces, List.getLast?_concat]

/-- **A file below a directory is called by its name.** -/
theorem fileName?_join {name : String} (hslash : '/' ∉ name.toList)
    (hname : component? name = some (.name name)) (directory : String) :
    fileName? (join directory name) = some name := by
  obtain ⟨before, hpieces⟩ := List.getLast?_eq_some_iff.1 (pieces_join_getLast? hslash directory)
  rw [fileName?, components, hpieces, List.filterMap_append, List.filterMap_cons_some hname,
    List.filterMap_nil, ← List.append_assoc, List.getLast?_concat]

/-- A text of three characters or more is a name, if it is a component at all. -/
theorem component?_of_lt_length {piece : String} (hlong : 2 < piece.length) :
    component? piece = some (.name piece) := by
  have hne : ∀ short : String, short.length ≤ 2 → piece ≠ short := by
    rintro short hshort rfl
    omega
  rw [component?]
  · exact hne "" (by decide)
  · exact hne "." (by decide)
  · exact hne ".." (by decide)

/-- Paths of one place have one file name. -/
theorem fileName?_of_samePath {a b : String} (hsame : SamePath a b) :
    fileName? a = fileName? b := by
  rw [SamePath] at hsame
  rw [fileName?, fileName?, hsame]

/-- **Files below a directory are told apart by their names.** -/
theorem eq_of_samePath_join {a b : String} (ha : '/' ∉ a.toList)
    (ha' : component? a = some (.name a)) (hb : '/' ∉ b.toList)
    (hb' : component? b = some (.name b)) {directory : String}
    (hsame : SamePath (join directory a) (join directory b)) : a = b := by
  have hnames := fileName?_of_samePath hsame
  rwa [fileName?_join ha ha', fileName?_join hb hb', Option.some.injEq] at hnames

/-! ### Names -/

/-- **Whether a text is a name**: as a path it has one component, which is the text itself. -/
def IsName (name : String) : Prop := components name = [.name name]

instance (name : String) : Decidable (IsName name) :=
  inferInstanceAs (Decidable (components name = [.name name]))

/-- The pieces of a text between its slashes have none. -/
theorem not_mem_of_mem_splitSlashes {s piece : List Char} (hpiece : piece ∈ splitSlashes s) :
    '/' ∉ piece := by
  induction s generalizing piece with
  | nil =>
    rw [splitSlashes, List.mem_singleton] at hpiece
    exact hpiece ▸ List.not_mem_nil
  | cons c rest ih =>
    obtain ⟨first, others, hsplit⟩ := List.exists_cons_of_ne_nil (splitSlashes_ne_nil rest)
    rw [hsplit] at ih
    simp only [splitSlashes, hsplit] at hpiece
    split at hpiece
    · rcases List.mem_cons.1 hpiece with rfl | hmem
      · exact List.not_mem_nil
      · exact ih hmem
    · next hslash =>
      rcases List.mem_cons.1 hpiece with rfl | hmem
      · exact List.mem_cons.not.2 (not_or.2 ⟨Ne.symm hslash, ih List.mem_cons_self⟩)
      · exact ih (List.mem_cons_of_mem _ hmem)

/-- A piece that stands for a name is that name. -/
theorem eq_of_component?_eq_name {piece name : String} (hname : component? piece = some (.name name)) :
    piece = name := by
  unfold component? at hname
  split at hname <;> simp_all

/-- **A path that is one name has no slashes** and is no dots. -/
theorem isName_iff {name : String} :
    IsName name ↔ '/' ∉ name.toList ∧ component? name = some (.name name) := by
  rw [IsName]
  constructor
  · intro hcomponents
    have hmem : PathComponent.name name ∈ (pieces name).filterMap component? := by
      have hall : PathComponent.name name ∈ components name :=
        hcomponents ▸ List.mem_singleton_self _
      rw [components, List.mem_append] at hall
      refine hall.resolve_left fun hstart => ?_
      split at hstart
      · simp at hstart
      · split at hstart <;> simp at hstart
    obtain ⟨piece, hpiece, hname⟩ := List.mem_filterMap.1 hmem
    obtain rfl := eq_of_component?_eq_name hname
    obtain ⟨chars, hchars, heq⟩ := List.mem_map.1 hpiece
    refine ⟨?_, hname⟩
    rw [← heq, String.toList_ofList]
    exact not_mem_of_mem_splitSlashes hchars
  · rintro ⟨hslash, hname⟩
    have hdot : (pieces name).head? ≠ some "." := by
      rw [pieces_of_not_mem hslash]
      rintro ⟨rfl⟩
      cases hname
    rw [components, not_isAbsolute hslash, if_neg Bool.false_ne_true,
      if_neg (by simpa using hdot), pieces_of_not_mem hslash, List.filterMap_cons_some hname]
    rfl

/-- Entries of one directory are told apart by their names. -/
theorem IsName.eq_of_samePath {a b directory : String} (ha : IsName a) (hb : IsName b)
    (hsame : SamePath (join directory a) (join directory b)) : a = b :=
  eq_of_samePath_join (isName_iff.1 ha).1 (isName_iff.1 ha).2 (isName_iff.1 hb).1
    (isName_iff.1 hb).2 hsame

/-- The path of a name below a directory is an entry of it. -/
theorem IsName.isChild {name : String} (hname : IsName name) (directory : String) :
    IsChild directory (join directory name) :=
  isChild_join (isName_iff.1 hname).1 (isName_iff.1 hname).2 directory

end Path

end GpuPassthrough
