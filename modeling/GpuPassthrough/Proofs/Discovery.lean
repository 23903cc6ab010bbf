import GpuPassthrough.Discovery
import GpuPassthrough.Proofs.Snapshot.Representation
import Mathlib.Data.Finset.Card

/-!
# What a Discovery Pass Finds

A device is passed through if its class code is that of a GPU, or that of a switch and its vendor is
NVIDIA, if its driver is the one that hands devices to user space, and if it belongs to a group. A
pass ends in one of three ways: it cannot find out whether the host gives out handles, it has no list
of devices, or it finds the devices of the list that are passed through, in their order and as they
were listed. Only in the last case a metric changes.

## Main results

* `isGpu_iff`, `isSwitch_iff`: which class codes are those of GPUs and of switches.
* `accept?_eq_some_iff_isKeptAs`, `accept?_eq_none_iff`: which devices are kept, and as what.
* `forall₂_isKeptAs`: the devices of a list that are kept, in their order.
* `ends_iff`: how a pass ends.
-/

namespace GpuPassthrough

namespace PciDevice

/-! ### Classes -/

/-- Whether the class code of a device is a class and a programming interface. -/
def HasClass (d : PciDevice) (baseClass : Nat) : Prop :=
  ∃ interface : UInt8, d.classCode.toNat = baseClass * 0x100 + interface.toNat

/-- The class is what stands above the programming interface. -/
theorem hasClass_iff {d : PciDevice} {baseClass : Nat} :
    d.HasClass baseClass ↔ d.classCode.toNat / 0x100 = baseClass := by
  constructor
  · rintro ⟨interface, hcode⟩
    have hlt := interface.toNat_lt
    omega
  · intro hclass
    have hlt : d.classCode.toNat % 0x100 < UInt8.size := Nat.mod_lt _ (by decide)
    refine ⟨.ofNat (d.classCode.toNat % 0x100), ?_⟩
    rw [UInt8.toNat_ofNat_of_lt' hlt, ← hclass, Nat.div_add_mod']

instance (d : PciDevice) (baseClass : Nat) : Decidable (d.HasClass baseClass) :=
  decidable_of_iff _ hasClass_iff.symm

/-- The class code without the programming interface is the class. -/
theorem toNat_baseClass (d : PciDevice) : d.baseClass.toNat = d.classCode.toNat / 0x100 := by
  rw [baseClass, UInt32.toNat_shiftRight, Nat.shiftRight_eq_div_pow]
  rfl

/-- A device has a class exactly if its class code without the programming interface is that. -/
theorem baseClass_eq_iff {d : PciDevice} {baseClass : UInt32} :
    d.baseClass = baseClass ↔ d.HasClass baseClass.toNat := by
  rw [hasClass_iff, ← toNat_baseClass, UInt32.toNat_inj]

/-- **A GPU is a VGA or a 3D controller**, of any vendor. -/
theorem isGpu_iff {d : PciDevice} :
    d.isGpu = true ↔ d.HasClass 0x0300 ∨ d.HasClass 0x0302 := by
  rw [isGpu, Bool.or_eq_true, beq_iff_eq, beq_iff_eq, baseClass_eq_iff, baseClass_eq_iff]
  rfl

/-- **A switch is a bridge of no other kind**, of NVIDIA's. -/
theorem isSwitch_iff {d : PciDevice} :
    d.isSwitch = true ↔ d.HasClass 0x0680 ∧ d.vendorId = 0x10de := by
  rw [isSwitch, Bool.and_eq_true, beq_iff_eq, beq_iff_eq, baseClass_eq_iff, and_comm]
  rfl

/-! ### Which devices are kept -/

/-- **A device is passed through**: it is a GPU or a switch, in the hands of user space, in a
group. -/
structure IsEligible (d : PciDevice) : Prop where
  kind : (d.HasClass 0x0300 ∨ d.HasClass 0x0302) ∨ (d.HasClass 0x0680 ∧ d.vendorId = 0x10de)
  driver : d.driver = some "vfio-pci"
  group : d.group ≠ none

/-- The parts of it are all that is asked. -/
theorem isEligible_iff {d : PciDevice} :
    d.IsEligible ↔ ((d.HasClass 0x0300 ∨ d.HasClass 0x0302) ∨
      (d.HasClass 0x0680 ∧ d.vendorId = 0x10de)) ∧ d.driver = some "vfio-pci" ∧ d.group ≠ none :=
  ⟨fun h => ⟨h.kind, h.driver, h.group⟩, fun h => ⟨h.1, h.2.1, h.2.2⟩⟩

instance : DecidablePred IsEligible := fun _ => decidable_of_iff _ isEligible_iff.symm

/-- **A device is kept as it was listed**, and is known as a switch exactly if it is one. -/
structure IsKeptAs (d : PciDevice) (p : PassthroughDevice) : Prop where
  address : p.address = d.address
  deviceId : p.deviceId = d.deviceId
  name : p.name = d.name
  group : d.group = some p.group
  handle : p.handle = d.handle
  isSwitch : p.isSwitch = true ↔ d.HasClass 0x0680 ∧ d.vendorId = 0x10de

/-- A device is kept as one only. -/
theorem IsKeptAs.unique {d : PciDevice} {p q : PassthroughDevice} (hp : d.IsKeptAs p)
    (hq : d.IsKeptAs q) : p = q := by
  have hswitch : p.isSwitch = q.isSwitch := Bool.eq_iff_iff.2 (hp.isSwitch.trans hq.isSwitch.symm)
  have hgroup : p.group = q.group := Option.some.inj (hp.group.symm.trans hq.group)
  cases p
  cases q
  obtain rfl := hp.address.trans hq.address.symm
  obtain rfl := hp.deviceId.trans hq.deviceId.symm
  obtain rfl := hp.name.trans hq.name.symm
  obtain rfl := hp.handle.trans hq.handle.symm
  obtain rfl := hgroup
  obtain rfl := hswitch
  rfl

/-- **Which devices are kept, and as what.** -/
theorem accept?_eq_some_iff_isKeptAs {d : PciDevice} {p : PassthroughDevice} :
    d.accept? = some p ↔ d.IsEligible ∧ d.IsKeptAs p := by
  rw [accept?_eq_some_iff, isGpu_iff, isSwitch_iff]
  constructor
  · rintro ⟨hkind, hdriver, group, hgroup, rfl⟩
    rw [isPassedThrough, beq_iff_eq] at hdriver
    exact ⟨⟨hkind, hdriver, by rw [hgroup]; exact Option.some_ne_none group⟩,
      rfl, rfl, rfl, hgroup, rfl, isSwitch_iff⟩
  · rintro ⟨heligible, hkept⟩
    have hself : d.IsKeptAs ⟨d.address, d.deviceId, d.name, p.group, d.handle, d.isSwitch⟩ :=
      ⟨rfl, rfl, rfl, hkept.group, rfl, isSwitch_iff⟩
    exact ⟨heligible.kind, beq_iff_eq.2 heligible.driver, p.group, hkept.group,
      hkept.unique hself⟩

/-- **Which devices are left out.** -/
theorem accept?_eq_none_iff {d : PciDevice} : d.accept? = none ↔ ¬ d.IsEligible := by
  rw [Option.eq_none_iff_forall_ne_some]
  constructor
  · intro hnone heligible
    obtain ⟨group, hgroup⟩ := Option.ne_none_iff_exists'.1 heligible.group
    refine hnone ⟨d.address, d.deviceId, d.name, group, d.handle, d.isSwitch⟩ ?_
    exact accept?_eq_some_iff_isKeptAs.2 ⟨heligible, rfl, rfl, rfl, hgroup, rfl, isSwitch_iff⟩
  · exact fun hout p hkept => hout (accept?_eq_some_iff_isKeptAs.1 hkept).1

/-- **The devices of a list that are kept**, in their order. -/
theorem forall₂_isKeptAs (devices : List PciDevice) :
    List.Forall₂ IsKeptAs (devices.filter fun d => d.IsEligible) (devices.filterMap accept?) := by
  induction devices with
  | nil => exact .nil
  | cons d rest ih =>
    cases haccept : d.accept? with
    | none =>
      rw [List.filterMap_cons_none haccept,
        List.filter_cons_of_neg (by simpa using accept?_eq_none_iff.1 haccept)]
      exact ih
    | some p =>
      obtain ⟨heligible, hkept⟩ := accept?_eq_some_iff_isKeptAs.1 haccept
      rw [List.filterMap_cons_some haccept, List.filter_cons_of_pos (by simpa using heligible)]
      exact .cons hkept ih

/-- Devices are kept as one list only. -/
theorem eq_of_forall₂_isKeptAs {devices : List PciDevice} {kept others : List PassthroughDevice}
    (hkept : List.Forall₂ IsKeptAs devices kept) (hothers : List.Forall₂ IsKeptAs devices others) :
    kept = others := by
  induction hkept generalizing others with
  | nil =>
    cases hothers
    rfl
  | cons hfirst _ ih =>
    cases hothers with
    | cons hother hrest => rw [hfirst.unique hother, ih hrest]

end PciDevice

/-- **There are as many units as keys.** -/
theorem Snapshot.length_units_ofDevices (handles : Bool) (devices : List PassthroughDevice) :
    (ofDevices handles devices).units.length =
      (devices.map (·.unitKey handles)).toFinset.card := by
  have hkeys : (ofDevices handles devices).units.map Prod.fst = firstKeys handles devices :=
    keys_ofDevices handles devices
  have hsame : (firstKeys handles devices).toFinset =
      (devices.map (·.unitKey handles)).toFinset := by
    ext key
    rw [List.mem_toFinset, List.mem_toFinset, firstKeys, List.mem_eraseDups]
  rw [← hsame, ← hkeys, List.toFinset_card_of_nodup (wellKeyed_ofDevices handles devices).nodup,
    List.length_map]

namespace Discovery

/-! ### How a pass ends -/

/-- Whether a host gives out handles, as far as that can be found out: it does if there is the node
that says so, and it does not if there is none. -/
inductive GivesOut (look : FileTree.Look) (hostRoot : String) : Bool → Prop
  | handles {entry : Entry} (hstat : look (Path.join hostRoot "dev/iommu") = .ok entry) :
      GivesOut look hostRoot true
  | groups (hstat : look (Path.join hostRoot "dev/iommu") = .error .notFound) :
      GivesOut look hostRoot false

/-- Every series has the value that it had. -/
def Unchanged (m m' : Metrics) : Prop := ∀ series, m'.value series = m.value series

/-- **How a pass ends**, and what it leaves of the metrics. -/
inductive Ends (look : FileTree.Look) (hostRoot : String)
    (listing : Except PluginError (List PciDevice)) (m : Metrics) :
    Metrics → Except PluginError Snapshot → Prop
  /-- The node cannot be looked at, for another reason than that there is none. What was listed does
  not matter. -/
  | unknown {m' : Metrics} {cause : IoFailure}
      (hstat : look (Path.join hostRoot "dev/iommu") = .error cause) (hcause : cause ≠ .notFound)
      (hkeeps : Unchanged m m') :
      Ends look hostRoot listing m m'
        (.error (.capabilityCheck (Path.join hostRoot "dev/iommu") cause))
  /-- The devices could not be listed. -/
  | unlisted {m' : Metrics} {handles : Bool} {e : PluginError}
      (hmode : GivesOut look hostRoot handles) (hlisting : listing = .error e)
      (hkeeps : Unchanged m m') :
      Ends look hostRoot listing m m' (.error e)
  /-- The eligible ones among the listed devices are found, in their order, and their keys are
  counted. -/
  | found {m' : Metrics} {handles : Bool} {devices : List PciDevice}
      {kept : List PassthroughDevice} (hmode : GivesOut look hostRoot handles)
      (hlisting : listing = .ok devices)
      (hkept : List.Forall₂ PciDevice.IsKeptAs (devices.filter fun d => d.IsEligible) kept)
      (hgauge : m'.value .discoveredUnits = (kept.map (·.unitKey handles)).toFinset.card)
      (hothers : ∀ series, series ≠ .discoveredUnits → m'.value series = m.value series) :
      Ends look hostRoot listing m m' (.ok (Snapshot.ofDevices handles kept))

variable {look : FileTree.Look} {hostRoot : String} {listing : Except PluginError (List PciDevice)}
  {m : Metrics}

/-- A host gives out handles or it does not. -/
theorem GivesOut.unique {handles other : Bool} (hmode : GivesOut look hostRoot handles)
    (hother : GivesOut look hostRoot other) : handles = other := by
  cases hmode with
  | handles hstat =>
    cases hother with
    | handles _ => rfl
    | groups hstat' => cases hstat.symm.trans hstat'
  | groups hstat =>
    cases hother with
    | handles hstat' => cases hstat.symm.trans hstat'
    | groups _ => rfl

/-- Where it is not known whether a host gives out handles, it is neither found to nor not to. -/
theorem GivesOut.look_ne {handles : Bool} {cause : IoFailure}
    (hmode : GivesOut look hostRoot handles) (hcause : cause ≠ .notFound) :
    look (Path.join hostRoot "dev/iommu") ≠ .error cause := by
  intro hstat
  cases hmode with
  | handles hstat' => cases hstat.symm.trans hstat'
  | groups hstat' => exact hcause (Except.error.inj (hstat.symm.trans hstat'))

/-- The host is asked before anything else. -/
theorem supportsHandles_of_givesOut {handles : Bool} (hmode : GivesOut look hostRoot handles) :
    Isolation.supportsHandles look hostRoot = .ok handles := by
  cases hmode with
  | handles hstat => simp only [Isolation.supportsHandles, Isolation.capabilityNode, hstat]
  | groups hstat => simp only [Isolation.supportsHandles, Isolation.capabilityNode, hstat, if_true]

/-- A node that cannot be looked at is an error. -/
theorem supportsHandles_of_unknown {cause : IoFailure}
    (hstat : look (Path.join hostRoot "dev/iommu") = .error cause) (hcause : cause ≠ .notFound) :
    Isolation.supportsHandles look hostRoot =
      .error (.capabilityCheck (Path.join hostRoot "dev/iommu") cause) := by
  simp only [Isolation.supportsHandles, Isolation.capabilityNode, hstat, hcause, if_false]

/-- The host is found to give out handles or not, or that cannot be found out. -/
theorem givesOut_or_unknown (look : FileTree.Look) (hostRoot : String) :
    (∃ handles, GivesOut look hostRoot handles) ∨
      ∃ cause, look (Path.join hostRoot "dev/iommu") = .error cause ∧ cause ≠ .notFound := by
  cases hstat : look (Path.join hostRoot "dev/iommu") with
  | ok entry => exact .inl ⟨true, .handles hstat⟩
  | error cause =>
    by_cases hcause : cause = .notFound
    · subst hcause
      exact .inl ⟨false, .groups hstat⟩
    · exact .inr ⟨cause, rfl, hcause⟩

/-- Every pass ends in one of these ways. -/
theorem ends_discover (look : FileTree.Look) (hostRoot : String)
    (listing : Except PluginError (List PciDevice)) (m : Metrics) :
    Ends look hostRoot listing m (discover look hostRoot listing m).1
      (discover look hostRoot listing m).2 := by
  obtain ⟨handles, hmode⟩ | ⟨cause, hstat, hcause⟩ := givesOut_or_unknown look hostRoot
  · rw [discover, supportsHandles_of_givesOut hmode]
    cases hlisting : listing with
    | error e => exact .unlisted hmode rfl fun _ => rfl
    | ok devices =>
      refine .found hmode rfl (PciDevice.forall₂_isKeptAs devices) ?_ fun series hseries => ?_
      · exact (Metrics.value_set_self ..).trans (Snapshot.length_units_ofDevices ..)
      · exact Metrics.value_set_of_ne _ hseries _
  · rw [discover, supportsHandles_of_unknown hstat hcause]
    exact .unknown hstat hcause fun _ => rfl

/-- The ways to end exclude one another: a pass has one result, and leaves one value of every
series. -/
theorem Ends.unique {m₁ m₂ : Metrics} {result₁ result₂ : Except PluginError Snapshot}
    (h₁ : Ends look hostRoot listing m m₁ result₁) (h₂ : Ends look hostRoot listing m m₂ result₂) :
    result₁ = result₂ ∧ Unchanged m₁ m₂ := by
  cases h₁ with
  | unknown hstat hcause hkeeps =>
    cases h₂ with
    | unknown hstat' _ hkeeps' =>
      obtain rfl := Except.error.inj (hstat.symm.trans hstat')
      exact ⟨rfl, fun series => (hkeeps' series).trans (hkeeps series).symm⟩
    | unlisted hmode => exact absurd hstat (hmode.look_ne hcause)
    | found hmode => exact absurd hstat (hmode.look_ne hcause)
  | unlisted hmode hlisting hkeeps =>
    cases h₂ with
    | unknown hstat hcause => exact absurd hstat (hmode.look_ne hcause)
    | unlisted _ hlisting' hkeeps' =>
      obtain rfl := Except.error.inj (hlisting.symm.trans hlisting')
      exact ⟨rfl, fun series => (hkeeps' series).trans (hkeeps series).symm⟩
    | found _ hlisting' => cases hlisting.symm.trans hlisting'
  | found hmode hlisting hkept hgauge hothers =>
    cases h₂ with
    | unknown hstat hcause => exact absurd hstat (hmode.look_ne hcause)
    | unlisted _ hlisting' => cases hlisting.symm.trans hlisting'
    | found hmode' hlisting' hkept' hgauge' hothers' =>
      obtain rfl := hmode.unique hmode'
      obtain rfl := Except.ok.inj (hlisting.symm.trans hlisting')
      obtain rfl := PciDevice.eq_of_forall₂_isKeptAs hkept hkept'
      refine ⟨rfl, fun series => ?_⟩
      by_cases hseries : series = .discoveredUnits
      · rw [hseries, hgauge, hgauge']
      · exact (hothers' series hseries).trans (hothers series hseries).symm

/-- Only the values of the series count. -/
theorem Ends.congr {m₁ m₂ : Metrics} {result : Except PluginError Snapshot}
    (hends : Ends look hostRoot listing m m₁ result) (hsame : Unchanged m₁ m₂) :
    Ends look hostRoot listing m m₂ result := by
  cases hends with
  | unknown hstat hcause hkeeps =>
    exact .unknown hstat hcause fun series => (hsame series).trans (hkeeps series)
  | unlisted hmode hlisting hkeeps =>
    exact .unlisted hmode hlisting fun series => (hsame series).trans (hkeeps series)
  | found hmode hlisting hkept hgauge hothers =>
    exact .found hmode hlisting hkept ((hsame _).trans hgauge) fun series hseries =>
      (hsame series).trans (hothers series hseries)

/-- **How a pass ends**: as the rules say, and in no other way. -/
theorem ends_iff (look : FileTree.Look) (hostRoot : String)
    (listing : Except PluginError (List PciDevice)) (m m' : Metrics)
    (result : Except PluginError Snapshot) :
    Ends look hostRoot listing m m' result ↔
      (discover look hostRoot listing m).2 = result ∧
        Unchanged (discover look hostRoot listing m).1 m' := by
  have hends := ends_discover look hostRoot listing m
  constructor
  · exact fun h => hends.unique h
  · rintro ⟨rfl, hsame⟩
    exact hends.congr hsame

end Discovery

end GpuPassthrough
