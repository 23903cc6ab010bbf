import GpuPassthrough.Pci.Sysfs
import GpuPassthrough.Proofs.FileTree.Listing
import GpuPassthrough.Proofs.Path
import GpuPassthrough.Proofs.Text.Octets
import Mathlib.Data.List.Sort

/-!
# What Sysfs Lists

Each entry of the directory of devices is read on its own: whether it has a record, and which, are
matters of its files, its links and its `vfio-dev` directory. An address is ASCII, so no two entries
are shown as one address, and sorting by address leaves one list whatever the order was in which the
system listed the entries.

## Main results

* `firstName?_eq_some_iff`: the first of some names is the least.
* `read_eq_ok_iff`: what is read of a device directory is what it shows.
* `isEnumeration_enumerate`: the devices that are enumerated, one for each entry that has a record.
-/

namespace GpuPassthrough.PciDevice

open Text (Octets IsAscii)

/-! ### Addresses -/

/-- Digits of a radix are ASCII letters and digits. -/
theorem isAscii_of_digit? {radix : Nat} {c : Char} (hdigit : (Text.digit? radix c).isSome = true) :
    IsAscii c ∧ c ≠ '/' := by
  simp only [Text.digit?] at hdigit
  have hne : 48 ≤ c.toNat → c ≠ '/' := by
    rintro hle rfl
    revert hle
    decide
  split at hdigit
  · exact ⟨⟨by omega, by omega⟩, hne (by omega)⟩
  split at hdigit
  · exact ⟨⟨by omega, by omega⟩, hne (by omega)⟩
  split at hdigit
  · exact ⟨⟨by omega, by omega⟩, hne (by omega)⟩
  · rw [if_neg (Nat.lt_irrefl radix)] at hdigit
    cases hdigit

/-- An address has ASCII characters only, and no slash. -/
theorem isAscii_of_isAddress {s : String} (haddress : isAddress s = true) {c : Char}
    (hc : c ∈ s.toList) : IsAscii c ∧ c ≠ '/' := by
  unfold isAddress at haddress
  split at haddress
  · next d₀ d₁ d₂ d₃ b₀ b₁ s₀ s₁ function htext =>
    rw [Bool.and_eq_true, List.all_eq_true] at haddress
    have hplaces : ∀ c ∈ [d₀, d₁, d₂, d₃, ':', b₀, b₁, ':', s₀, s₁, '.', function],
        c ∈ [d₀, d₁, d₂, d₃, b₀, b₁, s₀, s₁] ∨ c = function ∨ c ∈ [':', '.'] := by
      simp
    obtain hc | rfl | hc := hplaces c (htext ▸ hc)
    · exact isAscii_of_digit? (haddress.1 c hc)
    · exact isAscii_of_digit? haddress.2
    · have hmarks : ∀ mark ∈ [':', '.'], IsAscii mark ∧ mark ≠ '/' := by
        simp [IsAscii]
      exact hmarks c hc
  · cases haddress

/-- An address is a name in a directory. -/
theorem isName_of_isAddress {s : String} (haddress : isAddress s = true) : Path.IsName s := by
  refine Path.isName_iff.2 ⟨fun hslash => (isAscii_of_isAddress haddress hslash).2 rfl, ?_⟩
  refine Path.component?_of_lt_length ?_
  rw [← String.length_toList, isAddress_length haddress]
  decide

/-- **What is shown as an address is that text.** -/
theorem eq_text_of_isAddress {name : Octets} (hdecoded : name.IsDecoded)
    (haddress : isAddress name.lossy = true) : name = .text name.lossy :=
  Octets.eq_text_of_lossy hdecoded fun _ hc => (isAscii_of_isAddress haddress hc).1

/-! ### The first name -/

/-- Among no names none is the first, and only then. -/
theorem firstName?_eq_none_iff {names : List String} : firstName? names = none ↔ names = [] := by
  cases names with
  | nil => simp [firstName?]
  | cons name names =>
    rw [firstName?]
    split
    · simp
    · split <;> simp

/-- The first of some names is one of them, and none is less. -/
theorem firstName?_spec {names : List String} {first : String}
    (hfirst : firstName? names = some first) : first ∈ names ∧ ∀ name ∈ names, first ≤ name := by
  induction names generalizing first with
  | nil => cases hfirst
  | cons name names ih =>
    rw [firstName?] at hfirst
    split at hfirst
    · next hnone =>
      cases hfirst
      rw [firstName?_eq_none_iff.1 hnone]
      simp
    · next other hother =>
      obtain ⟨hmem, hleast⟩ := ih hother
      split at hfirst
      · next hlt =>
        cases hfirst
        exact ⟨List.mem_cons_of_mem _ hmem,
          List.forall_mem_cons.2 ⟨String.not_lt.1 (String.lt_asymm hlt), hleast⟩⟩
      · next hnot =>
        cases hfirst
        have hle : name ≤ other := String.not_lt.1 hnot
        exact ⟨List.mem_cons_self, List.forall_mem_cons.2
          ⟨String.le_refl name, fun next hnext => String.le_trans hle (hleast next hnext)⟩⟩

/-- **The first of some names** is the one that is not after any of them. -/
theorem firstName?_eq_some_iff {names : List String} {first : String} :
    firstName? names = some first ↔ first ∈ names ∧ ∀ name ∈ names, first ≤ name := by
  refine ⟨firstName?_spec, fun ⟨hmem, hleast⟩ => ?_⟩
  cases hother : firstName? names with
  | none =>
    rw [firstName?_eq_none_iff.1 hother] at hmem
    cases hmem
  | some other =>
    obtain ⟨hmem', hleast'⟩ := firstName?_spec hother
    rw [String.le_antisymm (hleast' first hmem) (hleast other hmem')]

/-! ### What a device directory shows -/

variable {t t' : FileTree} {root path : String} {name : Octets} {d : PciDevice}

/-- A link whose target ends in a name, as names are shown. -/
def LinksTo (t : FileTree) (path name : String) : Prop :=
  ∃ target last, t.readLink path = .ok target ∧
    (Route.ofOctets target).lastName? = some last ∧ last.lossy = name

/-- What is read of a link is the last name of its target. -/
theorem linkName?_eq_some_iff {name : String} :
    linkName? t path = some name ↔ LinksTo t path name := by
  rw [linkName?, LinksTo]
  cases t.readLink path with
  | error cause => simp
  | ok target => simp

/-- A character device of user space below a device directory. -/
def HasHandle (t : FileTree) (path handle : String) : Prop :=
  "vfio".toList <+: handle.toList ∧ ∃ names, t.list (Path.join path "vfio-dev") = .ok names ∧
    ∃ name ∈ names, name.lossy = handle

/-- The names among which the handle is sought. -/
theorem exists_handles (t : FileTree) (path : String) : ∃ handles,
    readHandle? t path = firstName? handles ∧ ∀ handle, handle ∈ handles ↔ HasHandle t path handle := by
  delta readHandle?
  cases hlist : t.list (Path.join path "vfio-dev") with
  | error cause =>
    refine ⟨[], rfl, fun handle => iff_of_false List.not_mem_nil ?_⟩
    rintro ⟨-, names, hnames, -⟩
    rw [hlist] at hnames
    cases hnames
  | ok names =>
    refine ⟨_, rfl, fun handle => ?_⟩
    rw [HasHandle, hlist, List.mem_filter, List.mem_map, List.isPrefixOf_iff_prefix, and_comm]
    simp

/-- **The handle is the least one.** -/
theorem readHandle?_eq_some_iff {handle : String} : readHandle? t path = some handle ↔
    HasHandle t path handle ∧ ∀ other, HasHandle t path other → handle ≤ other := by
  obtain ⟨handles, hread, hmem⟩ := exists_handles t path
  rw [hread, firstName?_eq_some_iff, hmem]
  simp only [hmem]

/-- There is no handle only where there is no character device. -/
theorem readHandle?_eq_none_iff :
    readHandle? t path = none ↔ ∀ handle, ¬ HasHandle t path handle := by
  obtain ⟨handles, hread, hmem⟩ := exists_handles t path
  rw [hread, firstName?_eq_none_iff, List.eq_nil_iff_forall_not_mem]
  simp only [hmem]

/-- **What a device directory shows of a device.** -/
structure Shows (t : FileTree) (path : String) (d : PciDevice) : Prop where
  vendorId : ∃ n, readNumber t (Path.join path "vendor") = .ok n ∧ d.vendorId = UInt16.ofNat n
  deviceId : ∃ n, readNumber t (Path.join path "device") = .ok n ∧ d.deviceId = UInt16.ofNat n
  classCode : ∃ n, readNumber t (Path.join path "class") = .ok n ∧ d.classCode = UInt32.ofNat n
  driver : ∀ name, d.driver = some name ↔ LinksTo t (Path.join path "driver") name
  /-- A group whose name is not a number counts as none. -/
  group : ∀ n, d.group = some n ↔ ∃ name, LinksTo t (Path.join path "iommu_group") name ∧
    ∃ value, Text.decimal? UInt32.size name = some value ∧ n = UInt32.ofNat value
  handle : ∀ handle, d.handle = some handle ↔
    HasHandle t path handle ∧ ∀ other, HasHandle t path other → handle ≤ other
  noHandle : d.handle = none ↔ ∀ handle, ¬ HasHandle t path handle
  /-- The name is a matter of the device number alone. -/
  name : d.name = modelName d.deviceId

attribute [ext] PciDevice

/-- A directory shows one device of an address. -/
theorem Shows.unique {d' : PciDevice} (hshows : Shows t path d) (hshows' : Shows t path d')
    (haddress : d.address = d'.address) : d = d' := by
  obtain ⟨vendor, hvendor, hvendorId⟩ := hshows.vendorId
  obtain ⟨vendor', hvendor', hvendorId'⟩ := hshows'.vendorId
  obtain ⟨device, hdevice, hdeviceId⟩ := hshows.deviceId
  obtain ⟨device', hdevice', hdeviceId'⟩ := hshows'.deviceId
  obtain ⟨number, hnumber, hclass⟩ := hshows.classCode
  obtain ⟨number', hnumber', hclass'⟩ := hshows'.classCode
  obtain rfl : vendor = vendor' := Except.ok.inj (hvendor.symm.trans hvendor')
  obtain rfl : device = device' := Except.ok.inj (hdevice.symm.trans hdevice')
  obtain rfl : number = number' := Except.ok.inj (hnumber.symm.trans hnumber')
  have hdeviceIds : d.deviceId = d'.deviceId := hdeviceId.trans hdeviceId'.symm
  ext1
  case address => exact haddress
  case vendorId => exact hvendorId.trans hvendorId'.symm
  case deviceId => exact hdeviceIds
  case classCode => exact hclass.trans hclass'.symm
  case driver => exact Option.ext fun name => (hshows.driver name).trans (hshows'.driver name).symm
  case group => exact Option.ext fun n => (hshows.group n).trans (hshows'.group n).symm
  case handle =>
    exact Option.ext fun handle => (hshows.handle handle).trans (hshows'.handle handle).symm
  case name => rw [hshows.name, hshows'.name, hdeviceIds]

/-- A device directory whose three files hold numbers is read, and shows what is read of it. -/
theorem exists_read {address : String} (hname : Path.fileName? path = some address)
    (haddress : isAddress address = true) {vendor device number : Nat}
    (hvendor : readNumber t (Path.join path "vendor") = .ok vendor)
    (hdevice : readNumber t (Path.join path "device") = .ok device)
    (hnumber : readNumber t (Path.join path "class") = .ok number) :
    ∃ d, read t path = .ok d ∧ d.address = address ∧ Shows t path d := by
  rw [read, hname, Option.getD_some, if_pos haddress, hvendor, hdevice, hnumber]
  refine ⟨_, rfl, rfl, ?_⟩
  constructor
  case vendorId => exact ⟨vendor, hvendor, rfl⟩
  case deviceId => exact ⟨device, hdevice, rfl⟩
  case classCode => exact ⟨number, hnumber, rfl⟩
  case driver => exact fun _ => linkName?_eq_some_iff
  case group =>
    intro n
    simp only [Option.bind_eq_some_iff, Option.map_eq_some_iff, linkName?_eq_some_iff,
      eq_comm (a := n)]
  case handle => exact fun _ => readHandle?_eq_some_iff
  case noHandle => exact readHandle?_eq_none_iff
  case name => rfl

/-- **What is read of a device directory is what it shows**, if its name is an address. -/
theorem read_eq_ok_iff {address : String} (hname : Path.fileName? path = some address) :
    read t path = .ok d ↔ isAddress address = true ∧ d.address = address ∧ Shows t path d := by
  constructor
  · intro hread
    have hsteps := hread
    rw [read, hname, Option.getD_some] at hsteps
    split at hsteps
    · next haddress =>
      cases hvendor : readNumber t (Path.join path "vendor") with
      | error fault => rw [hvendor] at hsteps; cases hsteps
      | ok vendor =>
      cases hdevice : readNumber t (Path.join path "device") with
      | error fault => rw [hvendor, hdevice] at hsteps; cases hsteps
      | ok device =>
      cases hnumber : readNumber t (Path.join path "class") with
      | error fault => rw [hvendor, hdevice, hnumber] at hsteps; cases hsteps
      | ok number =>
      obtain ⟨other, hother, heq, hshows⟩ := exists_read hname haddress hvendor hdevice hnumber
      obtain rfl : other = d := Except.ok.inj (hother.symm.trans hread)
      exact ⟨haddress, heq, hshows⟩
    · cases hsteps
  · rintro ⟨haddress, heq, hshows⟩
    obtain ⟨vendor, hvendor, -⟩ := hshows.vendorId
    obtain ⟨device, hdevice, -⟩ := hshows.deviceId
    obtain ⟨number, hnumber, -⟩ := hshows.classCode
    obtain ⟨other, hother, heq', hshows'⟩ := exists_read hname haddress hvendor hdevice hnumber
    rw [hother, hshows'.unique hshows (heq'.trans heq.symm)]

/-! ### Entries of the directory of devices -/

/-- **An entry that has a record**: its name is an address, its files hold numbers, and the vendor is
NVIDIA. -/
structure HasRecord (t : FileTree) (root : String) (name : Octets) : Prop where
  address : isAddress name.lossy = true
  vendor : ∃ n, readNumber t (Path.join (Path.join root name.lossy) "vendor") = .ok n ∧
    UInt16.ofNat n = nvidia
  device : ∃ n, readNumber t (Path.join (Path.join root name.lossy) "device") = .ok n
  classCode : ∃ n, readNumber t (Path.join (Path.join root name.lossy) "class") = .ok n

/-- **The record of an entry** of the directory of devices. -/
structure IsRecord (t : FileTree) (root : String) (name : Octets) (d : PciDevice) : Prop where
  address : d.address = name.lossy
  directory : Shows t (Path.join root name.lossy) d

/-- A name is listed as what is read in its directory. -/
theorem listed?_text_eq_some_iff {s : String} : listed? t root (.text s) = some d ↔
    read t (Path.join root s) = .ok d ∧ d.vendorId = nvidia := by
  simp only [listed?, Octets.text?]
  cases read t (Path.join root s) with
  | error fault => simp
  | ok device =>
    dsimp only
    rw [Option.ite_none_right_eq_some, Option.some.injEq, Except.ok.injEq, and_comm]
    exact and_congr_right fun heq => by rw [heq]

/-- **An entry is listed exactly if it has a record**, and as that record. -/
theorem listed?_eq_some_iff (hname : FileTree.IsFileName name) :
    listed? t root name = some d ↔ HasRecord t root name ∧ IsRecord t root name d := by
  cases name with
  | raw bytes =>
    refine iff_of_false (fun hlisted => nomatch hlisted) fun ⟨hrecord, _⟩ => ?_
    exact nomatch eq_text_of_isAddress hname.decoded hrecord.address
  | text s =>
    obtain ⟨hslash, hcomponent⟩ := Path.isName_iff.1 (hname.single s rfl)
    rw [listed?_text_eq_some_iff, read_eq_ok_iff (Path.fileName?_join hslash hcomponent root)]
    constructor
    · rintro ⟨⟨haddress, heq, hshows⟩, hvendor⟩
      obtain ⟨vendor, hread, hvendorId⟩ := hshows.vendorId
      obtain ⟨device, hdevice, -⟩ := hshows.deviceId
      obtain ⟨number, hnumber, -⟩ := hshows.classCode
      exact ⟨⟨haddress, ⟨vendor, hread, hvendorId ▸ hvendor⟩, ⟨device, hdevice⟩,
        ⟨number, hnumber⟩⟩, heq, hshows⟩
    · rintro ⟨hrecord, heq, hshows⟩
      obtain ⟨vendor, hread, hvendor⟩ := hrecord.vendor
      obtain ⟨vendor', hread', hvendorId⟩ := hshows.vendorId
      obtain rfl : vendor = vendor' := Except.ok.inj (hread.symm.trans hread')
      exact ⟨⟨hrecord.address, heq, hshows⟩, hvendorId.trans hvendor⟩

/-- An entry that has a record is listed. -/
theorem HasRecord.exists_listed? (hrecord : HasRecord t root name) (hname : FileTree.IsFileName name) :
    ∃ d, listed? t root name = some d := by
  obtain ⟨vendor, hvendor, hnvidia⟩ := hrecord.vendor
  obtain ⟨device, hdevice⟩ := hrecord.device
  obtain ⟨number, hnumber⟩ := hrecord.classCode
  obtain ⟨hslash, hcomponent⟩ := Path.isName_iff.1 (isName_of_isAddress hrecord.address)
  obtain ⟨d, -, heq, hshows⟩ := exists_read (Path.fileName?_join hslash hcomponent root)
    hrecord.address hvendor hdevice hnumber
  exact ⟨d, (listed?_eq_some_iff hname).2 ⟨hrecord, heq, hshows⟩⟩

/-- Entries that have records and are shown alike are one entry. -/
theorem HasRecord.eq_of_lossy {other : Octets} (hrecord : HasRecord t root name)
    (hname : FileTree.IsFileName name) (hother : FileTree.IsFileName other)
    (hlossy : name.lossy = other.lossy) : name = other := by
  have haddress := hrecord.address
  rw [eq_text_of_isAddress hname.decoded haddress, hlossy]
  exact (eq_text_of_isAddress hother.decoded (hlossy ▸ haddress)).symm

/-! ### A listing -/

/-- Whether a device comes before another by its address. -/
def Precedes (a b : PciDevice) : Prop := a.address < b.address

/-- No device comes before itself. -/
instance : Std.Irrefl Precedes := ⟨fun a => String.lt_irrefl a.address⟩

/-- Of two devices not both come before the other. -/
instance : Std.Antisymm Precedes := ⟨fun _ _ hlt hgt => absurd hgt (String.lt_asymm hlt)⟩

variable {names : List Octets} (hnames : ∀ name ∈ names, FileTree.IsFileName name)

include hnames

/-- **The devices of a listing are the records of its entries.** -/
theorem mem_ofListing_iff :
    d ∈ ofListing t root names ↔ ∃ name ∈ names, HasRecord t root name ∧ IsRecord t root name d := by
  rw [ofListing, List.mem_mergeSort, List.mem_filterMap]
  exact exists_congr fun name => and_congr_right fun hmem => listed?_eq_some_iff (hnames name hmem)

/-- No two devices of a listing have one address. -/
theorem pairwise_address_ne (hnodup : names.Nodup) :
    (names.filterMap (listed? t root)).Pairwise fun a b => a.address ≠ b.address := by
  rw [List.pairwise_filterMap]
  refine hnodup.imp_of_mem fun {name other} hname hother hne d hd d' hd' haddress => hne ?_
  obtain ⟨hrecord, hshown⟩ := (listed?_eq_some_iff (hnames name hname)).1 hd
  obtain ⟨-, hshown'⟩ := (listed?_eq_some_iff (hnames other hother)).1 hd'
  refine hrecord.eq_of_lossy (hnames name hname) (hnames other hother) ?_
  rw [← hshown.address, haddress, hshown'.address]

/-- **The devices of a listing ascend by address.** -/
theorem pairwise_precedes_ofListing (hnodup : names.Nodup) :
    (ofListing t root names).Pairwise Precedes := by
  have htrans : ∀ a b c : PciDevice, decide (a.address ≤ b.address) = true →
      decide (b.address ≤ c.address) = true → decide (a.address ≤ c.address) = true :=
    fun a b c hab hbc =>
      decide_eq_true (String.le_trans (of_decide_eq_true hab) (of_decide_eq_true hbc))
  have htotal : ∀ a b : PciDevice,
      (decide (a.address ≤ b.address) || decide (b.address ≤ a.address)) = true := by
    intro a b
    simpa only [Bool.or_eq_true, decide_eq_true_iff] using String.le_total a.address b.address
  have hsorted := List.pairwise_mergeSort htrans htotal (names.filterMap (listed? t root))
  have hdistinct := ((List.mergeSort_perm (names.filterMap (listed? t root))
    fun a b => decide (a.address ≤ b.address)).pairwise_iff Ne.symm).2
    (pairwise_address_ne hnames hnodup)
  refine hsorted.imp₂ (fun a b hle hne => ?_) hdistinct
  by_contra hnot
  exact hne (String.le_antisymm (of_decide_eq_true hle) (String.not_lt.1 hnot))

/-- **A listing has one enumeration**: a list that ascends and has the records of the entries. -/
theorem ofListing_eq (hnodup : names.Nodup) {ds : List PciDevice} (hascending : ds.Pairwise Precedes)
    (hmem : ∀ d, d ∈ ds ↔ ∃ name ∈ names, HasRecord t root name ∧ IsRecord t root name d) :
    ofListing t root names = ds :=
  (pairwise_precedes_ofListing hnames hnodup).eq_of_mem_iff hascending fun d => by
    rw [mem_ofListing_iff hnames, hmem]

omit hnames

/-! ### Directories that read alike -/

/-- **A device directory reads alike in two trees**: its files hold the same, its links lead to the
same, and the same names are in its `vfio-dev`, in some order. -/
structure ReadsAlike (t t' : FileTree) (path : String) : Prop where
  files : ∀ file ∈ ["vendor", "device", "class"],
    t'.readText (Path.join path file) = t.readText (Path.join path file)
  links : ∀ link ∈ ["driver", "iommu_group"],
    t'.readLink (Path.join path link) = t.readLink (Path.join path link)
  handles : Option.Rel List.Perm (t.list (Path.join path "vfio-dev")).toOption
    (t'.list (Path.join path "vfio-dev")).toOption

namespace ReadsAlike

variable (halike : ReadsAlike t t' path)

include halike

/-- The files hold the same numbers. -/
theorem readNumber {file : String} (hfile : file ∈ ["vendor", "device", "class"]) :
    PciDevice.readNumber t' (Path.join path file) = PciDevice.readNumber t (Path.join path file) := by
  simp only [PciDevice.readNumber, halike.files file hfile]

/-- The links lead to the same names. -/
theorem linksTo {link : String} (hlink : link ∈ ["driver", "iommu_group"]) (name : String) :
    LinksTo t' (Path.join path link) name ↔ LinksTo t (Path.join path link) name := by
  simp only [LinksTo, halike.links link hlink]

/-- The same handles are there. -/
theorem hasHandle (handle : String) : HasHandle t' path handle ↔ HasHandle t path handle := by
  have hlists := halike.handles
  rw [HasHandle, HasHandle]
  refine and_congr_right fun _ => ?_
  cases hlist : t.list (Path.join path "vfio-dev") with
  | error cause =>
    cases hlist' : t'.list (Path.join path "vfio-dev") with
    | error cause' => simp
    | ok names' =>
      rw [hlist, hlist'] at hlists
      cases hlists
  | ok names =>
    cases hlist' : t'.list (Path.join path "vfio-dev") with
    | error cause' =>
      rw [hlist, hlist'] at hlists
      cases hlists
    | ok names' =>
      rw [hlist, hlist'] at hlists
      cases hlists with
      | some hperm => simp [hperm.mem_iff]

/-- What the directory shows in one tree it shows in the other. -/
theorem shows (hshows : Shows t path d) : Shows t' path d where
  vendorId := by
    rw [halike.readNumber (by simp)]
    exact hshows.vendorId
  deviceId := by
    rw [halike.readNumber (by simp)]
    exact hshows.deviceId
  classCode := by
    rw [halike.readNumber (by simp)]
    exact hshows.classCode
  driver name := (hshows.driver name).trans (halike.linksTo (by simp) name).symm
  group n := (hshows.group n).trans
    (exists_congr fun name => and_congr_left fun _ => (halike.linksTo (by simp) name).symm)
  handle handle := by
    simp only [halike.hasHandle]
    exact hshows.handle handle
  noHandle := by
    simp only [halike.hasHandle]
    exact hshows.noHandle
  name := hshows.name

/-- Reading alike goes both ways. -/
theorem symm : ReadsAlike t' t path where
  files file hfile := (halike.files file hfile).symm
  links link hlink := (halike.links link hlink).symm
  handles := by
    have hlists := halike.handles
    revert hlists
    cases (t.list (Path.join path "vfio-dev")).toOption <;>
      cases (t'.list (Path.join path "vfio-dev")).toOption <;> intro hlists
    · exact .none
    · cases hlists
    · cases hlists
    · cases hlists with
      | some hperm => exact .some hperm.symm

end ReadsAlike

/-- An entry that has a record has one where its directory reads alike. -/
theorem HasRecord.of_readsAlike (hrecord : HasRecord t root name)
    (halike : ReadsAlike t t' (Path.join root name.lossy)) : HasRecord t' root name where
  address := hrecord.address
  vendor := by
    rw [halike.readNumber (by simp)]
    exact hrecord.vendor
  device := by
    rw [halike.readNumber (by simp)]
    exact hrecord.device
  classCode := by
    rw [halike.readNumber (by simp)]
    exact hrecord.classCode

/-- **Where a directory reads alike its entry has the same record**, or none in either tree. -/
theorem record_congr (halike : ReadsAlike t t' (Path.join root name.lossy)) :
    HasRecord t' root name ∧ IsRecord t' root name d ↔
      HasRecord t root name ∧ IsRecord t root name d := by
  constructor
  · rintro ⟨hrecord, haddress, hshows⟩
    exact ⟨hrecord.of_readsAlike halike.symm, haddress, halike.symm.shows hshows⟩
  · rintro ⟨hrecord, haddress, hshows⟩
    exact ⟨hrecord.of_readsAlike halike, haddress, halike.shows hshows⟩

/-- Where the same things stand every directory reads alike. -/
theorem readsAlike_of_matches (hmatches : t.Matches t') (hwell : t.IsWellFormed)
    (hwell' : t'.IsWellFormed) (path : String) : ReadsAlike t t' path where
  files file _ := hmatches.readText (Path.join path file)
  links link _ := hmatches.readLink (Path.join path link)
  handles := hmatches.rel_list hwell hwell' (Path.join path "vfio-dev")

/-! ### Enumerations -/

/-- A directory of devices that can be listed is enumerated. -/
theorem enumerate_of_list {sysfsRoot : String}
    (hlist : t.list (Path.join sysfsRoot devicesPath) = .ok names) :
    enumerate t sysfsRoot = .ok (ofListing t (Path.join sysfsRoot devicesPath) names) := by
  rw [enumerate, if_pos (FileTree.isPresent_of_list hlist), hlist]

/-- The names in a directory are names, each of them once. -/
theorem isFileName_of_list {r : Route} (hwell : t.IsWellFormed) (hlist : t.list r = .ok names) :
    names.Nodup ∧ ∀ name ∈ names, FileTree.IsFileName name := by
  obtain ⟨place, -, -, rfl⟩ := FileTree.exists_of_list hlist
  exact ⟨hwell.nodup_children place, fun _ => hwell.isFileName⟩

/-- **An enumeration of the devices** under a mount of sysfs whose directory of devices lists the
given names. -/
structure IsEnumeration (t : FileTree) (sysfsRoot : String) (names : List Octets)
    (ds : List PciDevice) : Prop where
  /-- The addresses ascend, so that no device is there twice. -/
  ascending : ds.Pairwise Precedes
  /-- There is one device for each entry that has a record. -/
  device : ∀ name ∈ names, HasRecord t (Path.join sysfsRoot devicesPath) name →
    ∃! d, d ∈ ds ∧ IsRecord t (Path.join sysfsRoot devicesPath) name d
  /-- Every device is the record of one entry. -/
  entry : ∀ d ∈ ds, ∃! name, name ∈ names ∧
    HasRecord t (Path.join sysfsRoot devicesPath) name ∧
    IsRecord t (Path.join sysfsRoot devicesPath) name d
  /-- In whatever order the system lists its directories, the enumeration is the same. -/
  reordered : ∀ t' : FileTree, t.Matches t' → t'.IsWellFormed → enumerate t' sysfsRoot = .ok ds
  /-- Whatever becomes of an entry that is left without a record, the other devices stay. -/
  others : ∀ (t' : FileTree) (names' : List Octets) (bad : Octets), t'.IsWellFormed →
    t'.list (Path.join sysfsRoot devicesPath) = .ok names' →
    (∀ name, name ≠ bad → (name ∈ names' ↔ name ∈ names)) →
    (∀ name ∈ names, name ≠ bad →
      ReadsAlike t t' (Path.join (Path.join sysfsRoot devicesPath) name.lossy)) →
    ¬ HasRecord t' (Path.join sysfsRoot devicesPath) bad →
    enumerate t' sysfsRoot = .ok (ds.filter fun d => .text d.address ≠ bad)

/-- **Enumerating finds one device for each entry that has a record**, whatever the other entries are
and in whatever order they are listed. -/
theorem isEnumeration_enumerate (t : FileTree) (sysfsRoot : String) (hwell : t.IsWellFormed)
    (hlist : t.list (Path.join sysfsRoot devicesPath) = .ok names) :
    ∃ ds, enumerate t sysfsRoot = .ok ds ∧ IsEnumeration t sysfsRoot names ds := by
  obtain ⟨hnodup, hnames⟩ := isFileName_of_list hwell hlist
  have hascending : (ofListing t (Path.join sysfsRoot devicesPath) names).Pairwise Precedes :=
    pairwise_precedes_ofListing hnames hnodup
  refine ⟨_, enumerate_of_list hlist, hascending, ?device, ?entry, ?reordered, ?others⟩
  case device =>
    intro name hname hrecord
    obtain ⟨d, hlisted⟩ := hrecord.exists_listed? (hnames name hname)
    have hd := (listed?_eq_some_iff (hnames name hname)).1 hlisted
    refine ⟨d, ⟨(mem_ofListing_iff hnames).2 ⟨name, hname, hd⟩, hd.2⟩, ?_⟩
    rintro other ⟨-, hother⟩
    exact hother.directory.unique hd.2.directory (hother.address.trans hd.2.address.symm)
  case entry =>
    intro d hd
    obtain ⟨name, hname, hrecord, hshown⟩ := (mem_ofListing_iff hnames).1 hd
    refine ⟨name, ⟨hname, hrecord, hshown⟩, ?_⟩
    rintro other ⟨hother, hrecord', hshown'⟩
    exact hrecord'.eq_of_lossy (hnames other hother) (hnames name hname)
      (hshown'.address.symm.trans hshown.address)
  case reordered =>
    intro t' hmatches hwell'
    obtain ⟨names', hlist', hperm⟩ := hmatches.list_perm hwell hwell' hlist
    obtain ⟨hnodup', hnames'⟩ := isFileName_of_list hwell' hlist'
    rw [enumerate_of_list hlist', ofListing_eq hnames' hnodup' hascending fun d => ?_]
    rw [mem_ofListing_iff hnames]
    refine exists_congr fun name => and_congr hperm.mem_iff.symm ?_
    exact (record_congr (readsAlike_of_matches hmatches hwell hwell' _)).symm
  case others =>
    intro t' names' bad hwell' hlist' hsame halike hbad
    obtain ⟨hnodup', hnames'⟩ := isFileName_of_list hwell' hlist'
    rw [enumerate_of_list hlist', ofListing_eq hnames' hnodup' (hascending.filter _) fun d => ?_]
    rw [List.mem_filter, mem_ofListing_iff hnames, decide_eq_true_iff]
    constructor
    · rintro ⟨⟨name, hname, hrecord, hshown⟩, hne⟩
      have htext := eq_text_of_isAddress (hnames name hname).decoded hrecord.address
      rw [hshown.address, ← htext] at hne
      exact ⟨name, (hsame name hne).2 hname,
        (record_congr (halike name hname hne)).2 ⟨hrecord, hshown⟩⟩
    · rintro ⟨name, hname', hrecord, hshown⟩
      have hne : name ≠ bad := by
        rintro rfl
        exact hbad hrecord
      have hname := (hsame name hne).1 hname'
      have htext := eq_text_of_isAddress (hnames name hname).decoded hrecord.address
      refine ⟨⟨name, hname, (record_congr (halike name hname hne)).1 ⟨hrecord, hshown⟩⟩, ?_⟩
      rwa [hshown.address, ← htext]

/-- A mount of sysfs with a GPU, a device that cannot be read and a name that is no address. -/
def sampleSysfs : FileTree :=
  let devices := ["sys", "bus", "pci", "devices"]
  let gpu := devices ++ ["0000:02:00.0"]
  let entries : List (List String × Entry) :=
    [(["sys"], .directory), (["sys", "bus"], .directory), (["sys", "bus", "pci"], .directory),
     (devices, .directory), (devices ++ ["readme"], .file (.text "")),
     (devices ++ ["0000:01:00.0"], .directory), (gpu, .directory),
     (gpu ++ ["vendor"], .file (.text "0x10de\n")), (gpu ++ ["device"], .file (.text "0x2331\n")),
     (gpu ++ ["class"], .file (.text "0x030200\n")),
     (gpu ++ ["driver"], .link (.text "../../../drivers/vfio-pci")),
     (gpu ++ ["iommu_group"], .link (.text "../../../../kernel/iommu_groups/7")),
     (gpu ++ ["vfio-dev"], .directory), (gpu ++ ["vfio-dev", "vfio2"], .directory),
     (gpu ++ ["vfio-dev", "vfio10"], .directory)]
  ⟨entries.map (Prod.map (List.map .text) id), []⟩

/-- The names that the sample lists. -/
def sampleNames : List Octets := [.text "readme", .text "0000:01:00.0", .text "0000:02:00.0"]

/-- The sample has an enumeration, and the GPU is in it. -/
theorem isEnumeration_sampleSysfs :
    sampleSysfs.IsWellFormed ∧
      sampleSysfs.list (Path.join "/sys" devicesPath) = .ok sampleNames ∧
      (sampleNames.filterMap (listed? sampleSysfs (Path.join "/sys" devicesPath))).map
        (fun d => (d.address, d.driver, d.group, d.handle)) =
          [("0000:02:00.0", some "vfio-pci", some 7, some "vfio10")] ∧
      ∃ ds, enumerate sampleSysfs "/sys" = .ok ds ∧
        IsEnumeration sampleSysfs "/sys" sampleNames ds := by
  have hwell : sampleSysfs.IsWellFormed :=
    FileTree.isWellFormed_of_texts (by decide +kernel) (by decide +kernel)
  have hlist : sampleSysfs.list (Path.join "/sys" devicesPath) = .ok sampleNames := by
    decide +kernel
  exact ⟨hwell, hlist, by decide +kernel, isEnumeration_enumerate sampleSysfs "/sys" hwell hlist⟩

end GpuPassthrough.PciDevice
