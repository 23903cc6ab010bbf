import GpuPassthrough.Cdi.Write
import GpuPassthrough.Proofs.Cdi.Plan
import GpuPassthrough.Proofs.Naming
import GpuPassthrough.Proofs.Plugin.Endpoint

/-!
# Generated Class Names

A class without an alias is called by one of its devices or by its number. Whatever the devices are
called, what is left of a name after formatting and trimming is a half of a kind, and so is a number;
where nothing is left, the number takes its place. So only an alias or the vendor can stop a pass for
a name.

## Main results

* `Snapshot.deviceName_cases`: the name of a class by its devices.
* `validate_plainName`: a class without an alias has a valid name.
* `Store.writePlan_ne_invalidClass`: a plan of valid names does not fail for a name.
* `hasValidNames_ofDevices`: the names of every snapshot.
-/

namespace GpuPassthrough

/-! ### Names of classes -/

/-- The characters of formatted names are characters of kinds. -/
theorem Naming.IsResourceChar.isKindChar {c : Char} (hc : IsResourceChar c) :
    Cdi.isKindChar c = true := by
  have hdigit : c.isDigit = true ↔ 48 ≤ c.toNat ∧ c.toNat ≤ 57 := Char.isDigit_iff_toNat
  rw [IsResourceChar, Unicode.isUpper_iff, hdigit] at hc
  simp only [Cdi.isKindChar, Cdi.isAlphanumeric, Bool.or_eq_true, Bool.and_eq_true,
    decide_eq_true_eq, beq_iff_eq]
  tauto

/-- A character of kinds that is no separator and no dot is a letter or a digit. -/
theorem Naming.IsResourceChar.isAlphanumeric {c : Char} (hc : IsResourceChar c)
    (hseparator : isSeparator c = false) : Cdi.isAlphanumeric c = true := by
  have hkind := hc.isKindChar
  have hdot : c ≠ '.' := by
    rintro rfl
    revert hc
    simp [IsResourceChar]
  simp only [isSeparator, Bool.or_eq_false_iff, beq_eq_false_iff_ne] at hseparator
  simpa [Cdi.isKindChar, hseparator.1, hseparator.2, hdot] using hkind

/-- A text of characters of kinds is a half of a kind if it begins and ends with a letter or a
digit. -/
theorem Cdi.validate_of_ends {name : String} (hne : name.toList ≠ [])
    (hchars : ∀ c ∈ name.toList, isKindChar c = true)
    (hhead : ∀ c, name.toList.head? = some c → isAlphanumeric c = true)
    (hlast : ∀ c, name.toList.getLast? = some c → isAlphanumeric c = true) :
    validate name = .ok () := by
  obtain ⟨first, hfirst⟩ := Option.isSome_iff_exists.1 (List.isSome_head?.2 hne)
  obtain ⟨last, hlast'⟩ := Option.isSome_iff_exists.1 (List.getLast?_isSome.2 hne)
  refine validate_eq_ok_iff.2 ⟨?_, hchars⟩
  rw [hasGoodEnds, hfirst, hlast', Option.map_some, Option.map_some, Option.getD_some,
    Option.getD_some, Bool.and_eq_true]
  exact ⟨hhead first hfirst, hlast last hlast'⟩

/-- **A text of letters, digits, underscores and hyphens is a half of a kind without the separators
at its ends**, if anything is left. -/
theorem Cdi.validate_trimSeparators {name : String}
    (hname : ∀ c ∈ name.toList, Naming.IsResourceChar c) (hne : Naming.trimSeparators name ≠ "") :
    validate (Naming.trimSeparators name) = .ok () := by
  have hchars : ∀ c ∈ (Naming.trimSeparators name).toList, Naming.IsResourceChar c :=
    fun c hc => hname c (Naming.mem_of_mem_trimSeparators hc)
  refine validate_of_ends (fun hnil => hne (String.toList_inj.1 hnil))
    (fun c hc => (hchars c hc).isKindChar) (fun c hhead => ?_) (fun c hlast => ?_)
  · exact (hchars c (List.mem_of_head? hhead)).isAlphanumeric (Naming.head?_trimSeparators hhead)
  · exact (hchars c (List.mem_of_getLast? hlast)).isAlphanumeric
      (Naming.getLast?_trimSeparators hlast)

/-- **The name of a class by its devices** is empty, or a half of a kind of capital letters, digits,
underscores and hyphens. -/
theorem Snapshot.deviceName_cases (s : Snapshot) (id : String) :
    s.deviceName id = "" ∨
      Cdi.validate (s.deviceName id) = .ok () ∧
        ∀ c ∈ (s.deviceName id).toList, Naming.IsResourceChar c := by
  rw [deviceName]
  split
  · next d _ =>
    have hformat : ∀ c ∈ (Naming.format d.name).toList, Naming.IsResourceChar c := by
      intro c hc
      rw [Naming.format, String.toList_ofList] at hc
      exact Naming.isResourceChar_of_mem_formatChars hc
    refine or_iff_not_imp_left.2 fun hne => ⟨Cdi.validate_trimSeparators hformat hne, ?_⟩
    exact fun c hc => hformat c (Naming.mem_of_mem_trimSeparators hc)
  · exact .inl rfl

/-- The number of a class is a half of a kind. -/
theorem PassthroughDevice.validate_classId (d : PassthroughDevice) :
    Cdi.validate d.classId = .ok () := by
  have hdigit : ∀ n : Fin 16, Cdi.isAlphanumeric (Text.hexDigit n) = true := by decide
  have hall : ∀ c ∈ d.classId.toList, Cdi.isAlphanumeric c = true := by
    intro c hc
    obtain ⟨n, rfl⟩ := Text.exists_of_mem_hexWord hc
    exact hdigit n
  refine Cdi.validate_of_ends ?_ (fun c hc => ?_) (fun c hhead => hall c (List.mem_of_head? hhead))
    fun c hlast => hall c (List.mem_of_getLast? hlast)
  · rw [classId, Text.hexWord, String.toList_ofList]
    exact List.cons_ne_nil _ _
  · rw [Cdi.isKindChar, hall c hc]
    rfl

/-- **A class without an alias has a valid name**, whatever its devices are called. -/
theorem Cdi.validate_plainName (s : Snapshot) (d : PassthroughDevice) :
    validate (s.plainName d.classId) = .ok () := by
  rw [Snapshot.plainName]
  split
  · exact d.validate_classId
  · next hne => exact ((s.deviceName_cases d.classId).resolve_left hne).1

/-! ### Plans without aliases -/

/-- **A configuration without aliases**; an empty alias counts as none. -/
structure Config.IsWithoutAliases (c : Config) : Prop where
  gpu : ∀ name ∈ c.gpuAlias, name = ""
  switch : ∀ name ∈ c.switchAlias, name = ""

/-- No category has an alias. -/
theorem Config.IsWithoutAliases.aliasFor {c : Config} (hplain : c.IsWithoutAliases)
    (switch : Bool) : c.aliasFor switch = none := by
  rw [Config.aliasFor, Option.filter_eq_none_iff]
  cases switch with
  | false => simpa using hplain.gpu
  | true => simpa using hplain.switch

/-- Without aliases every specification is named after a class of devices. -/
theorem Cdi.exists_device_of_mem_plan {s : Snapshot} {c : Config} (hplain : c.IsWithoutAliases)
    {entry : String × Scope} (hentry : entry ∈ plan s c) :
    ∃ d ∈ s.devices, entry.1 = s.plainName d.classId := by
  have hname : entry.1 ∈ (plan s c).map Prod.fst := List.mem_map_of_mem hentry
  have hgpus := Plan.ofClasses_nil.enterAll s (Plan.classIds s false)
  rw [plan, Plan.addCategory_of_classes (hplain.aliasFor true),
    Plan.addCategory_of_classes (hplain.aliasFor false), hgpus.mem_names_enterAll,
    Plan.ofClasses_nil.mem_names_enterAll] at hname
  have hof : ∀ {switch : Bool}, (∃ id ∈ Plan.classIds s switch, s.plainName id = entry.1) →
      ∃ d ∈ s.devices, entry.1 = s.plainName d.classId := by
    rintro switch ⟨id, hid, hname⟩
    obtain ⟨d, hd, -, rfl⟩ := Plan.mem_classIds_iff.1 hid
    exact ⟨d, hd, hname.symm⟩
  rcases hname with hswitch | hgpu | hnil
  · exact hof hswitch
  · exact hof hgpu
  · cases hnil

namespace Cdi.Store

/-! ### Failures of a pass -/

variable {s : Store} {snapshot : Snapshot} {c : Config}

/-- Writing a specification does not fail for a name. -/
theorem writeSpec_ne_invalidClass (s : Store) (cdiRoot : String) (spec : Spec)
    (name reason : String) :
    (s.writeSpec cdiRoot spec).2 ≠ .error (.invalidClass name reason) := by
  unfold writeSpec
  dsimp only
  split
  · nofun
  · split <;> nofun

/-- A plan of valid names does not fail for a name. -/
theorem writePlan_ne_invalidClass {plan : List (String × Scope)}
    (hvalid : ∀ entry ∈ plan, validate entry.1 = .ok ()) (name reason : String) :
    (s.writePlan snapshot c plan).2 ≠ .error (.invalidClass name reason) := by
  induction plan generalizing s with
  | nil =>
    rw [writePlan_nil]
    nofun
  | cons entry rest ih =>
    obtain ⟨className, scope⟩ := entry
    obtain ⟨hclass, hrest⟩ := List.forall_mem_cons.1 hvalid
    rw [writePlan_cons, show validate className = .ok () from hclass]
    dsimp only
    cases Spec.build? snapshot c className scope with
    | none => exact ih hrest
    | some spec =>
      dsimp only
      have hone := s.writeSpec_ne_invalidClass c.cdiRoot spec name reason
      rcases hwrite : s.writeSpec c.cdiRoot spec with ⟨s', _ | path⟩
      · rw [hwrite] at hone
        exact fun heq => hone (congrArg _ (Except.error.inj heq))
      · have hmore := ih (s := s') hrest
        dsimp only
        rcases hresult : s'.writePlan snapshot c rest with ⟨s'', _ | paths⟩
        · rw [hresult] at hmore
          exact fun heq => hmore (congrArg _ (Except.error.inj heq))
        · nofun

/-- A pass of valid names does not fail for a name. -/
theorem writeAll_ne_invalidClass (hvendor : validate c.cdiVendor = .ok ())
    (hvalid : ∀ entry ∈ plan snapshot c, validate entry.1 = .ok ()) (name reason : String) :
    (s.writeAll snapshot c).2 ≠ .error (.invalidClass name reason) := by
  rw [writeAll]
  split
  · intro heq
    cases heq
  · rw [hvendor]
    dsimp only
    split
    · intro heq
      cases heq
    · exact writePlan_ne_invalidClass hvalid name reason

end Cdi.Store

/-! ### Snapshots -/

/-- **The names of the classes of a snapshot are valid.** -/
structure HasValidNames (s : Snapshot) (c : Config) : Prop where
  /-- The name of a class by its devices is empty or valid, -/
  devices : ∀ id, s.deviceName id = "" ∨
    Cdi.validate (s.deviceName id) = .ok () ∧
      ∀ ch ∈ (s.deviceName id).toList, ch.isUpper = true ∨ ch.isDigit = true ∨ ch = '_' ∨ ch = '-'
  /-- and those of the specifications and of the plugins are valid where there is no alias. -/
  specs : c.IsWithoutAliases → ∀ entry ∈ Cdi.plan s c, Cdi.validate entry.1 = .ok ()
  plugins : c.IsWithoutAliases → ∀ plan ∈ PluginPlan.ofSnapshot s c,
    Cdi.validate plan.className = .ok ()
  /-- Then no pass fails for the name of a class. -/
  passes : c.IsWithoutAliases → Cdi.validate c.cdiVendor = .ok () →
    ∀ (store : Cdi.Store) (name reason : String),
      (store.writeAll s c).2 ≠ .error (.invalidClass name reason)

/-- **The names of the classes of every snapshot are valid**, whatever its devices are called and in
whatever order its units are kept. -/
theorem hasValidNames_ofDevices (handles : Bool) (devices : List PassthroughDevice)
    (units : List (String × List PassthroughDevice)) (c : Config) :
    HasValidNames { Snapshot.ofDevices handles devices with units } c := by
  have hspecs : c.IsWithoutAliases →
      ∀ entry ∈ Cdi.plan { Snapshot.ofDevices handles devices with units } c,
        Cdi.validate entry.1 = .ok () := by
    intro hplain entry hentry
    obtain ⟨d, -, hname⟩ := Cdi.exists_device_of_mem_plan hplain hentry
    rw [hname]
    exact Cdi.validate_plainName _ d
  constructor
  case devices => exact Snapshot.deviceName_cases _
  case specs => exact hspecs
  case plugins =>
    intro hplain plan hplan
    obtain ⟨owner, howner, hname⟩ := (PluginPlan.mem_names_ofSnapshot _ c).1 ⟨plan, hplan, rfl⟩
    obtain ⟨d, hclass⟩ := Snapshot.exists_device_of_mem_classes howner
    rw [← hname, Snapshot.displayName, hplain.aliasFor, Option.getD_none, ← hclass]
    exact Cdi.validate_plainName _ d
  case passes =>
    exact fun hplain hvendor store => Cdi.Store.writeAll_ne_invalidClass hvendor (hspecs hplain)

end GpuPassthrough
