import GpuPassthrough.Proofs.Cdi.Files
import GpuPassthrough.Proofs.FileTree.Directory

/-!
# Writing One Specification

A specification is written under a name with a dot in front, which no specification has, and renamed
into its place. The first write may fail; then nothing has changed. The renaming fails only where a
directory stands; then the file under the first name is taken away again.

## Main results

* `Spec.fileName_ne_temporaryName`: no specification is written first where another one ends.
* `Store.writeSpec_cases`: the three ways in which writing a specification ends.
-/

namespace GpuPassthrough.Cdi

open Text (Octets)

namespace Spec

/-- The name under which a specification is written first. -/
def temporaryName (spec : Spec) : String := "." ++ spec.fileName ++ ".tmp"

/-- A temporary name is a file name between a dot and an ending. -/
theorem toList_temporaryName (spec : Spec) :
    spec.temporaryName.toList = '.' :: (spec.fileName.toList ++ ".tmp".toList) := by
  rw [temporaryName, String.toList_append, String.toList_append]
  rfl

/-- A temporary name has no slash. -/
theorem slash_not_mem_temporaryName (spec : Spec) : '/' ∉ spec.temporaryName.toList := by
  rw [toList_temporaryName, List.mem_cons, List.mem_append]
  rintro (hdot | hname | hend)
  · cases hdot
  · exact slash_not_mem_fileName spec hname
  · revert hend
    decide

/-- A temporary name is a name. -/
theorem component?_temporaryName (spec : Spec) :
    Path.component? spec.temporaryName = some (.name spec.temporaryName) := by
  refine Path.component?_of_lt_length ?_
  have hsuffix : ".tmp".length = 4 := rfl
  rw [temporaryName, String.length_append]
  omega

/-- **No specification is written first where another one ends**: the vendor begins with a letter or
a digit. -/
theorem fileName_ne_temporaryName {a : Spec} (hvendor : validate a.vendor = .ok ()) (b : Spec) :
    a.fileName ≠ b.temporaryName := by
  intro hnames
  have hends := (validate_eq_ok_iff.1 hvendor).1
  cases hlist : a.vendor.toList with
  | nil =>
    rw [hlist] at hends
    cases hends
  | cons first rest =>
    have hlists := congrArg String.toList hnames
    rw [toList_fileName, toList_temporaryName, kind, String.toList_append, String.toList_append,
      hlist] at hlists
    have hfirst : hyphenate first = '.' := (List.cons.inj hlists).1
    have hdot : first = '.' := by
      rw [hyphenate] at hfirst
      split at hfirst
      · cases hfirst
      · exact hfirst
    rw [hlist, hdot] at hends
    revert hends
    simp [hasGoodEnds, isAlphanumeric]

end Spec

namespace Store

open FileTree

variable {s : Store} {t : FileTree} {cdiRoot : String} {spec : Spec} {temporary place : Location}

/-- A path is taken if that of the temporary file is. -/
theorem specPath_taken (htaken : refusal? (temporaryPath cdiRoot spec) = none) :
    refusal? (specPath cdiRoot spec) = none := by
  obtain ⟨front, hfront⟩ := Path.exists_join_eq cdiRoot
  have htemporary : temporaryPath cdiRoot spec = front ++ ("." ++ spec.fileName ++ ".tmp") :=
    hfront _ (Spec.slash_not_mem_temporaryName spec)
  have hspec : specPath cdiRoot spec = front ++ spec.fileName :=
    hfront _ (Spec.slash_not_mem_fileName spec)
  obtain ⟨hnul, -, hsize⟩ := refusal?_eq_none_iff.1 htaken
  rw [htemporary] at hnul hsize
  rw [hspec]
  refine refusal?_eq_none_iff.2 ⟨?_, ?_, ?_⟩
  · simp only [Route.ofText, List.contains_eq_mem, decide_eq_false_iff_not, String.toList_append,
      List.mem_append, not_or] at hnul ⊢
    exact ⟨hnul.1, hnul.2.1.2⟩
  · simp only [Route.ofText, Spec.fileName, String.utf8ByteSize_append]
    have hend : ".yaml".utf8ByteSize = 5 := rfl
    omega
  · simp only [Route.ofText, String.utf8ByteSize_append] at hsize ⊢
    omega

/-- **A specification fits where it was written first.** -/
theorem exists_resolve_specPath
    (hresolve : t.resolve .entry (temporaryPath cdiRoot spec) = .ok temporary) :
    ∃ place, t.resolve .entry (specPath cdiRoot spec) = .ok place := by
  obtain ⟨htaken, above, hbase, habove, hsize, -⟩ :=
    (resolve_join_eq_ok_iff (Spec.slash_not_mem_temporaryName spec)
      (Spec.component?_temporaryName spec)).1 hresolve
  refine ⟨_, (resolve_join_eq_ok_iff (Spec.slash_not_mem_fileName spec)
    (Spec.component?_fileName spec)).2 ⟨specPath_taken htaken, above, hbase, habove, ?_, rfl⟩⟩
  refine Nat.le_trans ?_ hsize
  simp only [Octets.size, Spec.temporaryName, String.utf8ByteSize_append]
  omega

/-- The first file of a specification and the last are at different places. -/
theorem place_ne {a b : Spec} (hvendor : validate a.vendor = .ok ())
    (hplace : t.resolve .entry (specPath cdiRoot a) = .ok place)
    (htemporary : t.resolve .entry (temporaryPath cdiRoot b) = .ok temporary) :
    place ≠ temporary := by
  rintro rfl
  exact Spec.fileName_ne_temporaryName hvendor b
    (eq_of_resolve_join (Spec.slash_not_mem_fileName a) (Spec.component?_fileName a)
      (Spec.slash_not_mem_temporaryName b) (Spec.component?_temporaryName b) hplace htemporary)

/-- A place that a path leads to is not the root. -/
theorem temporary_ne_nil
    (hresolve : t.resolve .entry (temporaryPath cdiRoot spec) = .ok temporary) :
    temporary ≠ [] := by
  obtain ⟨-, above, -, -, -, rfl⟩ :=
    (resolve_join_eq_ok_iff (Spec.slash_not_mem_temporaryName spec)
      (Spec.component?_temporaryName spec)).1 hresolve
  exact List.append_ne_nil_of_right_ne_nil above (List.cons_ne_nil _ _)

/-- The place of a specification is not the root. -/
theorem place_ne_nil (hresolve : t.resolve .entry (specPath cdiRoot spec) = .ok place) :
    place ≠ [] := by
  obtain ⟨-, above, -, -, -, rfl⟩ :=
    (resolve_join_eq_ok_iff (Spec.slash_not_mem_fileName spec)
      (Spec.component?_fileName spec)).1 hresolve
  exact List.append_ne_nil_of_right_ne_nil above (List.cons_ne_nil _ _)

/-- A file that was written and was no link replaced what does not count on a way. -/
theorem written_of_write (hlink : ∀ target, t.readLink (temporaryPath cdiRoot spec) ≠ .ok target)
    {content : Octets} {written : FileTree}
    (hwrite : t.write (temporaryPath cdiRoot spec) content = .ok written) :
    ∃ temporary, t.resolve .entry (temporaryPath cdiRoot spec) = .ok temporary ∧
      IsIdle (t.find? temporary) ∧ written = t.set temporary (.file content) := by
  obtain ⟨temporary, hresolve, hdirectory, -, rfl⟩ := write_eq_ok_iff.1 hwrite
  have hentry : t.resolve .entry (temporaryPath cdiRoot spec) = .ok temporary :=
    (resolve_join_of_no_link (Spec.slash_not_mem_temporaryName spec)
      (Spec.component?_temporaryName spec) .file hlink).symm.trans hresolve
  refine ⟨temporary, hentry, ⟨hdirectory, fun target hfind => hlink target ?_⟩, rfl⟩
  rw [readLink, hentry]
  simp only [Bind.bind, Except.bind, hfind]

/-- A file is written where nothing stands. -/
theorem write_of_none (hresolve : t.resolve .entry (temporaryPath cdiRoot spec) = .ok temporary)
    (hnone : t.find? temporary = none) (content : Octets) :
    t.write (temporaryPath cdiRoot spec) content = .ok (t.set temporary (.file content)) := by
  have hlink := readLink_ne_ok hresolve (by rw [hnone]; exact nofun)
  refine write_eq_ok_iff.2 ⟨temporary, ?_, by rw [hnone]; exact nofun, by rw [hnone]; exact nofun,
    rfl⟩
  exact (resolve_join_of_no_link (Spec.slash_not_mem_temporaryName spec)
    (Spec.component?_temporaryName spec) .file hlink).trans hresolve

/-- The tree without the file under the first name, which was written there. -/
def cleared (t : FileTree) (temporary : Location) (content : Octets) : FileTree :=
  (t.set temporary (.file content)).erase temporary

/-- Nothing is left under the first name, and else nothing has changed. -/
theorem find?_cleared (hne : temporary ≠ []) (content : Octets) (other : Location) :
    (cleared t temporary content).find? other =
      if other = temporary then none else t.find? other := by
  rw [cleared]
  by_cases hother : other = temporary
  · rw [if_pos hother, hother, find?_erase_self hne]
  · rw [if_neg hother, find?_erase_of_ne hother, find?_set_of_ne hother]

/-- Where directories and links went, the first name of a specification does not lead elsewhere. -/
theorem resolve_temporaryPath_of_narrows {t' : FileTree} (hnarrows : t.Narrows t')
    (hresolve : t'.resolve .entry (temporaryPath cdiRoot spec) = .ok temporary) :
    t.resolve .entry (temporaryPath cdiRoot spec) = .ok temporary :=
  hnarrows.resolve_join (Spec.slash_not_mem_temporaryName spec)
    (Spec.component?_temporaryName spec) hresolve

/-- Neither does its path. -/
theorem resolve_specPath_of_narrows {t' : FileTree} (hnarrows : t.Narrows t')
    (hresolve : t'.resolve .entry (specPath cdiRoot spec) = .ok place) :
    t.resolve .entry (specPath cdiRoot spec) = .ok place :=
  hnarrows.resolve_join (Spec.slash_not_mem_fileName spec) (Spec.component?_fileName spec) hresolve

/-- A file in the place of what does not count on a way does not change where paths lead. -/
theorem narrows_set (hidle : IsIdle (t.find? temporary)) (content : Octets) :
    (t.set temporary (.file content)).Narrows t :=
  .of_change rfl (fun _ hother => (find?_set_of_ne hother).symm) hidle

/-- Neither does its removal. -/
theorem narrows_cleared (hne : temporary ≠ []) (hidle : IsIdle (t.find? temporary))
    (content : Octets) : (cleared t temporary content).Narrows t := by
  refine .of_change rfl (fun other hother => ?_) hidle
  rw [find?_cleared hne, if_neg hother]

section Renaming

variable (htemporary : t.resolve .entry (temporaryPath cdiRoot spec) = .ok temporary)
  (hidle : IsIdle (t.find? temporary)) (content : Octets)

include htemporary hidle

/-- A file that was written is renamed, unless a directory stands in its place. -/
theorem rename_of_set (hvendor : validate spec.vendor = .ok ())
    (hplace : t.resolve .entry (specPath cdiRoot spec) = .ok place) :
    (t.set temporary (.file content)).rename (temporaryPath cdiRoot spec)
        (specPath cdiRoot spec) =
      if t.find? place = some .directory then .error .isDirectory
      else .ok ((cleared t temporary content).set place (.file content)) := by
  have hnarrows := narrows_set hidle content
  have hold := resolve_temporaryPath_of_narrows hnarrows htemporary
  have hnew := resolve_specPath_of_narrows hnarrows hplace
  have hne : place ≠ temporary := place_ne hvendor hplace htemporary
  have hsource : (t.set temporary (.file content)).find? temporary = some (.file content) :=
    find?_set_self (temporary_ne_nil htemporary)
  rw [rename_of_file hold hnew hsource hne.symm, find?_set_of_ne hne, cleared]

/-- A file that was written is taken away. -/
theorem discard_set :
    discard (t.set temporary (.file content)) (temporaryPath cdiRoot spec) =
      cleared t temporary content := by
  have hold := resolve_temporaryPath_of_narrows (narrows_set hidle content) htemporary
  have hsource : (t.set temporary (.file content)).find? temporary = some (.file content) :=
    find?_set_self (temporary_ne_nil htemporary)
  have hremove : (t.set temporary (.file content)).remove (temporaryPath cdiRoot spec) =
      .ok (cleared t temporary content) :=
    remove_eq_ok_iff.2 ⟨temporary, .file content, hold, hsource, nofun, rfl⟩
  rw [discard, hremove]

end Renaming

/-- **Writing a specification ends in one of three ways**: it could not be written under its first
name, and nothing has changed; or a directory stands in its place; or it is in its place. In the last
two nothing is left under its first name. -/
theorem writeSpec_cases (hvendor : validate spec.vendor = .ok ())
    (hlink : ∀ target, s.tree.readLink (temporaryPath cdiRoot spec) ≠ .ok target) :
    (∃ cause, s.tree.write (temporaryPath cdiRoot spec) (.text spec.toYaml) = .error cause ∧
        s.writeSpec cdiRoot spec = (s, .error (.io (temporaryPath cdiRoot spec) cause))) ∨
      ∃ temporary place,
        s.tree.resolve .entry (temporaryPath cdiRoot spec) = .ok temporary ∧
        s.tree.resolve .entry (specPath cdiRoot spec) = .ok place ∧
        IsIdle (s.tree.find? temporary) ∧
        ((s.tree.find? place = some .directory ∧
            s.writeSpec cdiRoot spec =
              ({ s with tree := cleared s.tree temporary (.text spec.toYaml) },
                .error (.io (specPath cdiRoot spec) .isDirectory))) ∨
          (s.tree.find? place ≠ some .directory ∧
            s.writeSpec cdiRoot spec =
              (⟨(cleared s.tree temporary (.text spec.toYaml)).set place (.file (.text spec.toYaml)),
                s.metrics.increment .specsWritten⟩, .ok (specPath cdiRoot spec)))) := by
  cases hwrite : s.tree.write (temporaryPath cdiRoot spec) (.text spec.toYaml) with
  | error cause =>
    refine .inl ⟨cause, rfl, ?_⟩
    unfold writeSpec
    simp only [hwrite]
  | ok written =>
    obtain ⟨temporary, htemporary, hidle, rfl⟩ := written_of_write hlink hwrite
    obtain ⟨place, hplace⟩ := exists_resolve_specPath htemporary
    refine .inr ⟨temporary, place, htemporary, hplace, hidle, ?_⟩
    have hrename := rename_of_set htemporary hidle (.text spec.toYaml) hvendor hplace
    by_cases hdirectory : s.tree.find? place = some .directory
    · rw [if_pos hdirectory] at hrename
      refine .inl ⟨hdirectory, ?_⟩
      unfold writeSpec
      simp only [hwrite, hrename, discard_set htemporary hidle]
    · rw [if_neg hdirectory] at hrename
      refine .inr ⟨hdirectory, ?_⟩
      unfold writeSpec
      simp only [hwrite, hrename]

end Store

end GpuPassthrough.Cdi
