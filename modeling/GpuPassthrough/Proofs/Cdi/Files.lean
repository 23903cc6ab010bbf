import GpuPassthrough.Proofs.Cdi.Pass
import GpuPassthrough.Proofs.Cdi.Plan
import GpuPassthrough.Proofs.Path
import Mathlib.Data.List.Pairwise

/-!
# A File for Every Specification

Specifications are written under their kind, so those of one vendor have files of their own if their
classes have names of their own. A plan gives two specifications one name exactly where an alias of
one category is a name that the other goes by; then the later one replaces the earlier.

## Main results

* `Spec.className_eq_of_fileName`, `Spec.className_eq_of_samePath`: valid classes whose specifications
  share a file name or a place are one.
* `pairwise_files`: names of their own make files of their own.
* `apart_iff`: no specification replaces another exactly if no alias is taken.
* `sharedAlias_replaces`: under an alias for both categories the switches replace the GPUs.
-/

namespace GpuPassthrough.Cdi

/-- The half of a kind has no slash. -/
theorem slash_not_mem_of_validate {name : String} (hvalid : validate name = .ok ()) :
    '/' ∉ name.toList := by
  intro hslash
  have hkind := (validate_eq_ok_iff.1 hvalid).2 '/' hslash
  revert hkind
  decide

namespace Spec

/-- A specification has the vendor of the configuration and the name of its class. -/
theorem kind_of_build? {s : Snapshot} {c : Config} {className : String} {scope : Scope}
    {spec : Spec} (hspec : build? s c className scope = some spec) :
    spec.vendor = c.cdiVendor ∧ spec.className = className := by
  rw [build?] at hspec
  split at hspec
  · cases hspec
  · cases hspec
    exact ⟨rfl, rfl⟩

/-- A character of a kind in the name of its file: a hyphen for a slash. -/
def hyphenate (c : Char) : Char := if c = '/' then '-' else c

/-- The characters of a file name are those of the kind, with hyphens for slashes. -/
theorem toList_fileName (spec : Spec) :
    spec.fileName.toList = spec.kind.toList.map hyphenate ++ ".yaml".toList := by
  rw [fileName, String.toList_append, String.toList_ofList]
  rfl

/-- A text without slashes stays as it is. -/
theorem map_hyphenate {s : List Char} (hslash : '/' ∉ s) : s.map hyphenate = s := by
  refine (List.map_congr_left fun c hc => ?_).trans (List.map_id s)
  have hne : c ≠ '/' := fun heq => hslash (heq ▸ hc)
  rw [hyphenate, if_neg hne, id]

/-- The name of a file has no slash. -/
theorem slash_not_mem_fileName (spec : Spec) : '/' ∉ spec.fileName.toList := by
  rw [toList_fileName, List.mem_append, List.mem_map]
  rintro (⟨c, -, hc⟩ | hmem)
  · rw [hyphenate] at hc
    split at hc
    · cases hc
    · next hne => exact hne hc
  · revert hmem
    decide

/-- The name of a file is a name. -/
theorem component?_fileName (spec : Spec) :
    Path.component? spec.fileName = some (.name spec.fileName) := by
  refine Path.component?_of_lt_length ?_
  have hsuffix : ".yaml".length = 5 := rfl
  rw [fileName, String.length_append]
  omega

/-- **Classes of one vendor whose specifications share a file name are one**, if they are valid. -/
theorem className_eq_of_fileName {a b : Spec} (hvendor : a.vendor = b.vendor)
    (ha : validate a.className = .ok ()) (hb : validate b.className = .ok ())
    (hnames : a.fileName = b.fileName) : a.className = b.className := by
  have hlists := congrArg String.toList hnames
  simp only [toList_fileName, kind, String.toList_append, List.map_append, hvendor,
    map_hyphenate (slash_not_mem_of_validate ha),
    map_hyphenate (slash_not_mem_of_validate hb)] at hlists
  exact String.toList_inj.1 (List.append_cancel_left (List.append_cancel_right hlists))

/-- **Classes of one vendor whose specifications share a place are one**, if they are valid. -/
theorem className_eq_of_samePath {a b : Spec} (hvendor : a.vendor = b.vendor)
    (ha : validate a.className = .ok ()) (hb : validate b.className = .ok ()) {cdiRoot : String}
    (hsame : SamePath (Store.specPath cdiRoot a) (Store.specPath cdiRoot b)) :
    a.className = b.className :=
  className_eq_of_fileName hvendor ha hb
    (Path.eq_of_samePath_join (slash_not_mem_fileName a) (component?_fileName a)
      (slash_not_mem_fileName b) (component?_fileName b) hsame)

end Spec

/-! ### Specifications apart -/

/-- Specifications of names of their own have files of their own, as far as their names are
valid. -/
theorem pairwise_files {s : Snapshot} {c : Config} {plan : List (String × Scope)}
    (hnames : (plan.map Prod.fst).Nodup) :
    (specsOf s c plan).Pairwise fun a b =>
      validate a.className = .ok () → validate b.className = .ok () →
        ¬ SamePath (Store.specPath c.cdiRoot a) (Store.specPath c.cdiRoot b) := by
  refine (List.pairwise_map.1 hnames).filterMap _ ?_
  intro entry other hne a ha b hb hvalid hvalid' hsame
  obtain ⟨hvendor, hclass⟩ := Spec.kind_of_build? ha
  obtain ⟨hvendor', hclass'⟩ := Spec.kind_of_build? hb
  have heq := Spec.className_eq_of_samePath (hvendor.trans hvendor'.symm) hvalid hvalid' hsame
  exact hne (hclass.symm.trans (heq.trans hclass'))

/-- The specifications of a plan with valid names have valid names. -/
theorem validate_of_mem_specsOf {s : Snapshot} {c : Config} {plan : List (String × Scope)}
    (hvalid : ∀ entry ∈ plan, validate entry.1 = .ok ()) {spec : Spec}
    (hspec : spec ∈ specsOf s c plan) : validate spec.className = .ok () := by
  obtain ⟨entry, hentry, hbuild⟩ := List.mem_filterMap.1 hspec
  exact (Spec.kind_of_build? hbuild).2 ▸ hvalid entry hentry

/-- **No specification replaces another.** -/
structure Apart (s : Snapshot) (c : Config) : Prop where
  /-- No two specifications of the plan have one name. -/
  names : ((plan s c).map Prod.fst).Nodup
  /-- No two of them belong into one file, if their names are valid. -/
  files : (specsOf s c (plan s c)).Pairwise fun a b =>
    validate a.className = .ok () → validate b.className = .ok () →
      ¬ SamePath (Store.specPath c.cdiRoot a) (Store.specPath c.cdiRoot b)
  /-- A pass returns paths of files that are not one. -/
  paths : ∀ (store store' : Store) (paths : List String),
    store.writeAll s c = (store', .ok paths) → paths.Pairwise fun a b => ¬ SamePath a b

/-- **No specification replaces another exactly if no alias is taken**: unless one category goes by
the alias of the other, every name of a plan, every file and every path that is returned is there
once. -/
theorem apart_iff (s : Snapshot) (c : Config) : Apart s c ↔ ¬ AliasTaken s c := by
  refine ⟨fun hapart => (nodup_names_plan_iff s c).1 hapart.names, fun hfree => ?_⟩
  have hnames := (nodup_names_plan_iff s c).2 hfree
  have hfiles := pairwise_files (s := s) (c := c) hnames
  refine ⟨hnames, hfiles, fun store store' paths hwrite => ?_⟩
  obtain rfl | ⟨hvalid, rfl⟩ := Store.paths_of_writeAll hwrite
  · exact .nil
  · refine List.pairwise_map.2 (hfiles.imp_of_mem fun ha hb hne => ?_)
    exact hne (validate_of_mem_specsOf hvalid ha) (validate_of_mem_specsOf hvalid hb)

/-! ### A clash -/

/-- A GPU and a switch. -/
def gpuAndSwitch : Snapshot :=
  .ofDevices false [{ group := 1 }, { group := 2, isSwitch := true }]

/-- One alias for both categories. -/
def sharedAlias : Config :=
  { gpuAlias := some "passthrough", switchAlias := some "passthrough", cdiRoot := "/cdi" }

/-- The specification of one device, the only one under the shared alias. -/
def passthroughSpec (names : List String) (group : String) : Spec where
  vendor := "nvidia.com"
  className := "passthrough"
  devices := names.map fun name => ⟨name, ["/dev/vfio/vfio", "/dev/vfio/" ++ group]⟩

/-- The place of both specifications. -/
def passthroughPath : String := "/cdi/nvidia.com-passthrough.yaml"

/-- The tree of a host without files, but with the directory of the specifications. -/
def bareTree : FileTree := (FileTree.empty.createAll sharedAlias.cdiRoot).1

/-- That host after the specification of the GPU was written. -/
def gpuHost : Store :=
  (Store.writeSpec ⟨bareTree, {}⟩ sharedAlias.cdiRoot (passthroughSpec ["0", "1"] "1")).1

/-- That host after that of the switch was written, too. -/
def switchHost : Store :=
  (gpuHost.writeSpec sharedAlias.cdiRoot (passthroughSpec ["0", "2"] "2")).1

/-- The GPU comes before the switch. -/
theorem inKeyOrder_gpuAndSwitch :
    Spec.inKeyOrder gpuAndSwitch =
      [("1", { group := 1 }), ("2", { group := 2, isSwitch := true })] := by
  have hkeys : gpuAndSwitch.units.map (·.1) = ["1", "2"] := by decide
  have hsort : UnitKey.sort ["1", "2"] = ["1", "2"] := List.mergeSort_of_pairwise (by decide)
  rw [Spec.inKeyOrder, hkeys, hsort]
  decide

/-- The plan has both categories under one name. -/
theorem plan_sharedAlias :
    plan gpuAndSwitch sharedAlias =
      [("passthrough", .category false), ("passthrough", .category true)] := by
  decide

/-- The specification of the GPU. -/
theorem build?_gpu :
    Spec.build? gpuAndSwitch sharedAlias "passthrough" (.category false) =
      some (passthroughSpec ["0", "1"] "1") := by
  rw [Spec.build?, inKeyOrder_gpuAndSwitch]
  decide

/-- The specification of the switch. -/
theorem build?_switch :
    Spec.build? gpuAndSwitch sharedAlias "passthrough" (.category true) =
      some (passthroughSpec ["0", "2"] "2") := by
  rw [Spec.build?, inKeyOrder_gpuAndSwitch]
  decide

/-- A pass on a host without files writes both specifications to one place. -/
theorem writeAll_sharedAlias :
    Store.writeAll ⟨.empty, {}⟩ gpuAndSwitch sharedAlias =
      (switchHost, .ok [passthroughPath, passthroughPath]) := by
  have hvendor : validate sharedAlias.cdiVendor = .ok () := by decide
  have hname : validate "passthrough" = .ok () := by decide
  have hroot : FileTree.empty.createAll sharedAlias.cdiRoot = (bareTree, .ok ()) :=
    Prod.ext (by rw [bareTree]) (by decide +kernel)
  have hfirst : Store.writeSpec ⟨bareTree, {}⟩ sharedAlias.cdiRoot
      (passthroughSpec ["0", "1"] "1") = (gpuHost, .ok passthroughPath) :=
    Prod.ext (by rw [gpuHost]) (by decide +kernel)
  have hsecond : gpuHost.writeSpec sharedAlias.cdiRoot (passthroughSpec ["0", "2"] "2") =
      (switchHost, .ok passthroughPath) :=
    Prod.ext (by rw [switchHost]) (by decide +kernel)
  rw [Store.writeAll, if_neg (by decide), hvendor]
  dsimp only
  rw [hroot]
  dsimp only
  rw [plan_sharedAlias, Store.writePlan_cons, hname, build?_gpu]
  dsimp only
  rw [hfirst]
  dsimp only
  rw [Store.writePlan_cons, hname, build?_switch]
  dsimp only
  rw [hsecond]
  dsimp only
  rw [Store.writePlan_nil]

/-- **Under an alias for both categories the switches replace the GPUs**: two specifications have
one name, a pass returns one path twice, and the file there holds the second specification. -/
theorem sharedAlias_replaces :
    specsOf gpuAndSwitch sharedAlias (plan gpuAndSwitch sharedAlias) =
        [passthroughSpec ["0", "1"] "1", passthroughSpec ["0", "2"] "2"] ∧
      Store.writeAll ⟨.empty, {}⟩ gpuAndSwitch sharedAlias =
        (switchHost, .ok [passthroughPath, passthroughPath]) ∧
      switchHost.tree.readText passthroughPath = .ok (passthroughSpec ["0", "2"] "2").toYaml ∧
      ¬ Apart gpuAndSwitch sharedAlias := by
  refine ⟨?_, writeAll_sharedAlias, by decide +kernel, fun hapart => ?_⟩
  · rw [plan_sharedAlias, specsOf_cons_of_some build?_gpu, specsOf_cons_of_some build?_switch]
    rfl
  · have hnodup := hapart.names
    rw [plan_sharedAlias] at hnodup
    exact absurd hnodup (by decide)

end GpuPassthrough.Cdi
