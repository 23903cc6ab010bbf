import GpuPassthrough.Proofs.Pci.Enumeration
import GpuPassthrough.Proofs.Text.Numerals
import Mathlib.Data.List.DropRight

/-!
# The Numbers of a Device

The files of a device directory hold numbers in hexadecimal, with white space around them and a mark
in front. A number has to be below 2³² for the directory to be read at all. The numbers of the vendor
and of the device have sixteen bits only, and of a larger number the low sixteen bits are reported: a
vendor whose number ends in that of NVIDIA is taken for NVIDIA. Any number of marks is skipped. Where
the numbers fit and no mark is repeated, what is reported is what the files say.

## Main results

* `readNumber_eq_ok_iff`: what a file is read as is what it says.
* `exists_read_iff`: which device directories are read.
* `reports_of_read`: which numbers are reported of them.
* `isExact_iff`: in which device directories the numbers are reported as they are.
-/

namespace GpuPassthrough

/-! ### White space around a text -/

namespace Unicode

/-- A text with white space around a part of it. -/
def Surrounds (content core : List Char) : Prop :=
  ∃ before after, content = before ++ (core ++ after) ∧
    (∀ c ∈ before, isWhitespace c = true) ∧ ∀ c ∈ after, isWhitespace c = true

/-- What is trimmed off is white space. -/
theorem surrounds_trim (content : List Char) : Surrounds content (trim content) := by
  refine ⟨content.takeWhile isWhitespace, (content.dropWhile isWhitespace).rtakeWhile isWhitespace,
    ?_, fun c hc => List.mem_takeWhile_imp hc, fun c hc => List.mem_rtakeWhile_imp hc⟩
  rw [show trim content = (content.dropWhile isWhitespace).rdropWhile isWhitespace from rfl,
    List.rdropWhile_append_rtakeWhile, List.takeWhile_append_dropWhile]

/-- **The white space around a text is trimmed off**, and nothing else. -/
theorem Surrounds.trim_eq {content core : List Char} (hsurrounds : Surrounds content core)
    (hne : core ≠ []) (hcore : ∀ c ∈ core, isWhitespace c = false) : trim content = core := by
  obtain ⟨before, after, rfl, hbefore, hafter⟩ := hsurrounds
  have hfront : (before ++ (core ++ after)).dropWhile isWhitespace = core ++ after := by
    refine Text.dropWhile_append hbefore fun c hc => hcore c ?_
    rw [List.head?_append_of_ne_nil core hne] at hc
    exact List.mem_of_head? hc
  have hback : (core ++ after).reverse.dropWhile isWhitespace = core.reverse := by
    rw [List.reverse_append]
    refine Text.dropWhile_append (fun c hc => hafter c (List.mem_reverse.1 hc)) fun c hc => hcore c ?_
    exact List.mem_reverse.1 (List.mem_of_head? hc)
  rw [trim, hfront, hback, List.reverse_reverse]

end Unicode

namespace PciDevice

open Text (IsDigit IsNumeral)
open Unicode (Surrounds)

/-! ### Marks -/

/-- The mark of a hexadecimal number, a number of times. -/
def hexMarks : Nat → List Char
  | 0 => []
  | marks + 1 => '0' :: 'x' :: hexMarks marks

/-- The characters of marks. -/
theorem mem_hexMarks {marks : Nat} {c : Char} (hc : c ∈ hexMarks marks) : c = '0' ∨ c = 'x' := by
  induction marks with
  | zero => cases hc
  | succ marks ih =>
    rw [hexMarks, List.mem_cons, List.mem_cons] at hc
    obtain hc | hc | hc := hc
    · exact .inl hc
    · exact .inr hc
    · exact ih hc

/-- The number of marks shows in their length. -/
theorem length_hexMarks (marks : Nat) : (hexMarks marks).length = 2 * marks := by
  induction marks with
  | zero => rfl
  | succ marks ih =>
    rw [hexMarks, List.length_cons, List.length_cons, ih]
    omega

/-- A text begins with a number of marks, and those are dropped. -/
theorem exists_hexMarks (s : List Char) : ∃ marks, s = hexMarks marks ++ dropHexMarks s := by
  fun_induction dropHexMarks s with
  | case1 rest ih =>
    obtain ⟨marks, hmarks⟩ := ih
    exact ⟨marks + 1, congrArg (fun rest => '0' :: 'x' :: rest) hmarks⟩
  | case2 s => exact ⟨0, rfl⟩

/-- The letter of a mark is no hexadecimal digit. -/
theorem not_isDigit_x {value : Nat} : ¬ IsDigit 16 'x' value := by
  rw [← Text.digit?_eq_some_iff (Nat.le_refl 16)]
  exact nofun

variable {numeral : List Char} {n : Nat}

/-- A numeral has no mark in front. -/
theorem dropHexMarks_of_isNumeral (hnumeral : IsNumeral 16 numeral n) :
    dropHexMarks numeral = numeral := by
  unfold dropHexMarks
  split
  · next rest =>
    obtain ⟨values, hvalues, -⟩ := (Text.isNumeral_cons_iff (by decide)).1 hnumeral
    obtain ⟨_, _, -, hrest, -⟩ := List.forall₂_cons_left_iff.1 hvalues
    obtain ⟨_, _, hletter, -⟩ := List.forall₂_cons_left_iff.1 hrest
    exact absurd hletter not_isDigit_x
  · rfl

/-- All marks in front of a numeral are dropped. -/
theorem dropHexMarks_append (hnumeral : IsNumeral 16 numeral n) (marks : Nat) :
    dropHexMarks (hexMarks marks ++ numeral) = numeral := by
  induction marks with
  | zero => exact dropHexMarks_of_isNumeral hnumeral
  | succ marks ih => exact ih

/-- A hexadecimal digit is no white space. -/
theorem not_isWhitespace_of_isDigit {c : Char} {value : Nat} (hdigit : IsDigit 16 c value) :
    Unicode.isWhitespace c = false := by
  have hall : ∀ n : Fin 16, Unicode.isWhitespace (Text.hexDigit n) = false ∧
      Unicode.isWhitespace (Text.hexDigit n).toUpper = false := by decide
  obtain ⟨hlt, rfl | rfl⟩ := hdigit
  · exact (hall ⟨value, hlt⟩).1
  · exact (hall ⟨value, hlt⟩).2

/-- Neither a mark nor a numeral has white space in it. -/
theorem not_isWhitespace_of_mem (hnumeral : IsNumeral 16 numeral n) {marks : Nat} {c : Char}
    (hc : c ∈ hexMarks marks ++ numeral) : Unicode.isWhitespace c = false := by
  obtain hc | hc := List.mem_append.1 hc
  · obtain rfl | rfl := mem_hexMarks hc <;> decide
  · obtain ⟨sign, digits, values, rfl, hsign, -, hvalues, -⟩ := hnumeral
    obtain hc | hc := List.mem_append.1 hc
    · obtain rfl | rfl := hsign
      · cases hc
      · obtain rfl := List.mem_singleton.1 hc
        decide
    · obtain ⟨i, hi, rfl⟩ := List.getElem_of_mem hc
      exact not_isWhitespace_of_isDigit (hvalues.get hi (hvalues.length_eq ▸ hi))

/-! ### Files -/

/-- **A text that says a number**: marks, of which there is a number, and a numeral, with white space
around them. -/
def Says (marks : Nat) (content : String) (n : Nat) : Prop :=
  ∃ numeral, Surrounds content.toList (hexMarks marks ++ numeral) ∧ IsNumeral 16 numeral n

/-- What is left of a text that says a number without the white space around it. -/
theorem Says.exists_trim_eq {marks : Nat} {content : String} (hsaid : Says marks content n) :
    ∃ numeral, Unicode.trim content.toList = hexMarks marks ++ numeral ∧
      IsNumeral 16 numeral n := by
  obtain ⟨numeral, hsurrounds, hnumeral⟩ := hsaid
  refine ⟨numeral, hsurrounds.trim_eq ?_ fun c hc => not_isWhitespace_of_mem hnumeral hc, hnumeral⟩
  obtain ⟨sign, digits, values, rfl, -, hne, -⟩ := hnumeral
  simp [hne]

/-- A text says one number, with one number of marks. -/
theorem Says.unique {marks marks' : Nat} {content : String} {n' : Nat}
    (hsaid : Says marks content n) (hsaid' : Says marks' content n') : marks = marks' ∧ n = n' := by
  obtain ⟨numeral, htrim, hnumeral⟩ := hsaid.exists_trim_eq
  obtain ⟨numeral', htrim', hnumeral'⟩ := hsaid'.exists_trim_eq
  have hsame : hexMarks marks ++ numeral = hexMarks marks' ++ numeral' := htrim.symm.trans htrim'
  have hdropped := congrArg dropHexMarks hsame
  rw [dropHexMarks_append hnumeral, dropHexMarks_append hnumeral'] at hdropped
  subst hdropped
  have hlength := congrArg List.length (List.append_cancel_right hsame)
  rw [length_hexMarks, length_hexMarks] at hlength
  exact ⟨by omega, hnumeral.unique (by decide) (Nat.le_refl 16) hnumeral'⟩

variable {t : FileTree} {path : String} {d : PciDevice}

/-- A file that says a number. -/
def FileSays (t : FileTree) (path : String) (marks n : Nat) : Prop :=
  ∃ content, t.readText path = .ok content ∧ Says marks content n

/-- A file says one number, with one number of marks. -/
theorem FileSays.unique {marks marks' n' : Nat} (hsaid : FileSays t path marks n)
    (hsaid' : FileSays t path marks' n') : marks = marks' ∧ n = n' := by
  obtain ⟨content, hread, hcontent⟩ := hsaid
  obtain ⟨content', hread', hcontent'⟩ := hsaid'
  obtain rfl := Except.ok.inj (hread.symm.trans hread')
  exact hcontent.unique hcontent'

/-- **What a file is read as is what it says**, if that is below 2³². -/
theorem readNumber_eq_ok_iff :
    readNumber t path = .ok n ↔ (∃ marks, FileSays t path marks n) ∧ n < UInt32.size := by
  have hnumeral (s : List Char) := Text.readNumeral_eq_ok_iff (s := s) (n := n)
    (show 0 < 16 by decide) (Nat.le_refl 16) (show 0 < UInt32.size by decide)
  rw [readNumber]
  cases hread : t.readText path with
  | error cause =>
    refine iff_of_false (fun hok => by cases hok) ?_
    rintro ⟨⟨marks, content, hcontent, -⟩, -⟩
    cases hread.symm.trans hcontent
  | ok content =>
    dsimp only
    constructor
    · intro hok
      split at hok
      · next value hvalue =>
        obtain rfl := Except.ok.inj hok
        obtain ⟨hvalue, hlt⟩ := (hnumeral _).1 hvalue
        obtain ⟨marks, hmarks⟩ := exists_hexMarks (Unicode.trim content.toList)
        have hsurrounds := Unicode.surrounds_trim content.toList
        rw [hmarks] at hsurrounds
        exact ⟨⟨marks, content, hread, _, hsurrounds, hvalue⟩, hlt⟩
      · cases hok
    · rintro ⟨⟨marks, content', hread', hsaid⟩, hlt⟩
      obtain rfl := Except.ok.inj (hread.symm.trans hread')
      obtain ⟨numeral, htrim, hvalue⟩ := hsaid.exists_trim_eq
      rw [htrim, dropHexMarks_append hvalue, (hnumeral numeral).2 ⟨hvalue, hlt⟩]

/-! ### Device directories -/

/-- The files of a device directory that hold numbers, each with the limit of what can be reported of
it. -/
def numberFiles : List (String × Nat) :=
  [("vendor", UInt16.size), ("device", UInt16.size), ("class", UInt32.size)]

/-- **A directory that holds numbers**: its name is an address, and each of the files says a number
below 2³². -/
structure HoldsNumbers (t : FileTree) (path : String) : Prop where
  address : isAddress ((Path.fileName? path).getD "") = true
  numbers : ∀ file ∈ numberFiles, ∃ marks n,
    FileSays t (Path.join path file.1) marks n ∧ n < UInt32.size

/-- **The low bits of what the files say**, as they are reported. -/
structure ReportsLowBits (t : FileTree) (path : String) (d : PciDevice) : Prop where
  vendorId : ∃ marks n, FileSays t (Path.join path "vendor") marks n ∧
    d.vendorId.toNat = n % UInt16.size
  deviceId : ∃ marks n, FileSays t (Path.join path "device") marks n ∧
    d.deviceId.toNat = n % UInt16.size
  classCode : ∃ marks n, FileSays t (Path.join path "class") marks n ∧ d.classCode.toNat = n

/-- A directory whose name is an address has a name. -/
theorem fileName?_of_isAddress (haddress : isAddress ((Path.fileName? path).getD "") = true) :
    Path.fileName? path = some ((Path.fileName? path).getD "") := by
  cases hname : Path.fileName? path with
  | none =>
    rw [hname] at haddress
    cases haddress
  | some name => rfl

/-- What is read of a directory is what it shows, and its name is an address. -/
theorem shows_of_read (hread : read t path = .ok d) :
    isAddress ((Path.fileName? path).getD "") = true ∧ Shows t path d := by
  have haddress : isAddress ((Path.fileName? path).getD "") = true := by
    by_contra hnot
    rw [read, if_neg hnot] at hread
    cases hread
  obtain ⟨-, -, hshows⟩ := (read_eq_ok_iff (fileName?_of_isAddress haddress)).1 hread
  exact ⟨haddress, hshows⟩

/-- **Which device directories are read.** -/
theorem exists_read_iff : (∃ d, read t path = .ok d) ↔ HoldsNumbers t path := by
  constructor
  · rintro ⟨d, hread⟩
    obtain ⟨haddress, hshows⟩ := shows_of_read hread
    refine ⟨haddress, ?_⟩
    have hfile : ∀ file, (∃ n, readNumber t (Path.join path file) = .ok n) →
        ∃ marks n, FileSays t (Path.join path file) marks n ∧ n < UInt32.size := by
      rintro file ⟨n, hn⟩
      obtain ⟨⟨marks, hsaid⟩, hlt⟩ := readNumber_eq_ok_iff.1 hn
      exact ⟨marks, n, hsaid, hlt⟩
    simp only [numberFiles, List.forall_mem_cons]
    exact ⟨hfile "vendor" (hshows.vendorId.imp fun _ h => h.1),
      hfile "device" (hshows.deviceId.imp fun _ h => h.1),
      hfile "class" (hshows.classCode.imp fun _ h => h.1), nofun⟩
  · rintro ⟨haddress, hnumbers⟩
    have hfile : ∀ file ∈ numberFiles, ∃ n, readNumber t (Path.join path file.1) = .ok n := by
      intro file hfile
      obtain ⟨marks, n, hsaid, hlt⟩ := hnumbers file hfile
      exact ⟨n, readNumber_eq_ok_iff.2 ⟨⟨marks, hsaid⟩, hlt⟩⟩
    simp only [numberFiles, List.forall_mem_cons] at hfile
    obtain ⟨⟨vendor, hvendor⟩, ⟨device, hdevice⟩, ⟨number, hnumber⟩, -⟩ := hfile
    obtain ⟨d, hread, -⟩ :=
      exists_read (fileName?_of_isAddress haddress) haddress hvendor hdevice hnumber
    exact ⟨d, hread⟩

/-- **Which numbers are reported.** -/
theorem reports_of_read (hread : read t path = .ok d) : ReportsLowBits t path d := by
  obtain ⟨-, hshows⟩ := shows_of_read hread
  constructor
  case vendorId =>
    obtain ⟨n, hn, heq⟩ := hshows.vendorId
    obtain ⟨⟨marks, hsaid⟩, -⟩ := readNumber_eq_ok_iff.1 hn
    exact ⟨marks, n, hsaid, heq ▸ UInt16.toNat_ofNat'⟩
  case deviceId =>
    obtain ⟨n, hn, heq⟩ := hshows.deviceId
    obtain ⟨⟨marks, hsaid⟩, -⟩ := readNumber_eq_ok_iff.1 hn
    exact ⟨marks, n, hsaid, heq ▸ UInt16.toNat_ofNat'⟩
  case classCode =>
    obtain ⟨n, hn, heq⟩ := hshows.classCode
    obtain ⟨⟨marks, hsaid⟩, hlt⟩ := readNumber_eq_ok_iff.1 hn
    exact ⟨marks, n, hsaid, heq ▸ UInt32.toNat_ofNat_of_lt' hlt⟩

/-- A file that holds a number, marked once or not at all. -/
def FileHolds (t : FileTree) (path : String) (n : Nat) : Prop :=
  ∃ marks ≤ 1, FileSays t path marks n

/-- **A device directory whose numbers are reported as they are.** -/
structure IsExact (t : FileTree) (path : String) : Prop where
  vendorId : ∀ d, read t path = .ok d → FileHolds t (Path.join path "vendor") d.vendorId.toNat
  deviceId : ∀ d, read t path = .ok d → FileHolds t (Path.join path "device") d.deviceId.toNat
  classCode : ∀ d, read t path = .ok d → FileHolds t (Path.join path "class") d.classCode.toNat
  /-- A file without a number that can be reported makes reading fail. -/
  refused : ∀ file ∈ numberFiles, (¬ ∃ n < file.2, FileHolds t (Path.join path file.1) n) →
    ∃ fault, read t path = .error fault
  /-- A device is taken for one of NVIDIA's only if the file of the vendor says so. -/
  nvidia : ∀ root name d, path = Path.join root name → listed? t root (.text name) = some d →
    FileHolds t (Path.join path "vendor") 0x10de

/-- A directory all of whose numbers can be reported, and none of whose files has a repeated mark. -/
def NumbersFit (t : FileTree) (path : String) : Prop :=
  ∀ file ∈ numberFiles, ∃ n < file.2, FileHolds t (Path.join path file.1) n

/-- What a file holds is all that it says. -/
theorem FileHolds.eq_of_said {marks n' : Nat} (hholds : FileHolds t path n)
    (hsaid : FileSays t path marks n') : n = n' := by
  obtain ⟨_, -, hsaid'⟩ := hholds
  exact (hsaid'.unique hsaid).2

/-- Where the numbers can be reported they are. -/
theorem isExact_of_numbersFit (hfit : HoldsNumbers t path → NumbersFit t path) :
    IsExact t path := by
  have hfit' : ∀ d, read t path = .ok d → NumbersFit t path :=
    fun d hread => hfit (exists_read_iff.1 ⟨d, hread⟩)
  have hvendorId : ∀ d, read t path = .ok d →
      FileHolds t (Path.join path "vendor") d.vendorId.toNat := by
    intro d hread
    obtain ⟨n, hlt, hholds⟩ := hfit' d hread ("vendor", UInt16.size) (by simp [numberFiles])
    obtain ⟨marks, n', hsaid, heq⟩ := (reports_of_read hread).vendorId
    obtain rfl := hholds.eq_of_said hsaid
    rwa [heq, Nat.mod_eq_of_lt hlt]
  constructor
  case vendorId => exact hvendorId
  case deviceId =>
    intro d hread
    obtain ⟨n, hlt, hholds⟩ := hfit' d hread ("device", UInt16.size) (by simp [numberFiles])
    obtain ⟨marks, n', hsaid, heq⟩ := (reports_of_read hread).deviceId
    obtain rfl := hholds.eq_of_said hsaid
    rwa [heq, Nat.mod_eq_of_lt hlt]
  case classCode =>
    intro d hread
    obtain ⟨n, hlt, hholds⟩ := hfit' d hread ("class", UInt32.size) (by simp [numberFiles])
    obtain ⟨marks, n', hsaid, heq⟩ := (reports_of_read hread).classCode
    obtain rfl := hholds.eq_of_said hsaid
    rwa [heq]
  case refused =>
    intro file hfile hnone
    cases hread : read t path with
    | error fault => exact ⟨fault, rfl⟩
    | ok d => exact absurd (hfit' d hread file hfile) hnone
  case nvidia =>
    rintro root name d rfl hlisted
    obtain ⟨hread, hvendor⟩ := listed?_text_eq_some_iff.1 hlisted
    have hholds := hvendorId d hread
    rwa [hvendor] at hholds

/-- **The numbers of a device directory**: which directories are read, what is reported of them, and
that the numbers are reported as they are exactly where all of them can be. -/
theorem isExact_iff (t : FileTree) (path : String) :
    ((∃ d, read t path = .ok d) ↔ HoldsNumbers t path) ∧
      (∀ d, read t path = .ok d → ReportsLowBits t path d) ∧
      (IsExact t path ↔ (HoldsNumbers t path → NumbersFit t path)) := by
  refine ⟨exists_read_iff, fun _ => reports_of_read, fun hexact hholds => ?_,
    isExact_of_numbersFit⟩
  obtain ⟨d, hread⟩ := exists_read_iff.2 hholds
  simp only [NumbersFit, numberFiles, List.forall_mem_cons]
  exact ⟨⟨_, d.vendorId.toNat_lt, hexact.vendorId d hread⟩,
    ⟨_, d.deviceId.toNat_lt, hexact.deviceId d hread⟩,
    ⟨_, d.classCode.toNat_lt, hexact.classCode d hread⟩, nofun⟩

/-- A mount of sysfs with a device whose vendor has a number of more than sixteen bits. -/
def longVendor : FileTree :=
  let devices := ["sys", "bus", "pci", "devices"]
  let device := devices ++ ["0000:41:00.0"]
  let entries : List (List String × Entry) :=
    [(["sys"], .directory), (["sys", "bus"], .directory), (["sys", "bus", "pci"], .directory),
     (devices, .directory), (device, .directory), (device ++ ["vendor"], .file (.text "0x110de\n")),
     (device ++ ["device"], .file (.text "0x2330\n")),
     (device ++ ["class"], .file (.text "0x030200\n"))]
  ⟨entries.map (Prod.map (List.map .text) id), []⟩

/-- **A vendor of another number is taken for NVIDIA.** -/
theorem not_isExact_longVendor : ¬ IsExact longVendor "/sys/bus/pci/devices/0000:41:00.0" := by
  intro hexact
  have hvendorId : (read longVendor "/sys/bus/pci/devices/0000:41:00.0").toOption.map vendorId =
      some nvidia := by decide +kernel
  have hnumber : (readNumber longVendor
      (Path.join "/sys/bus/pci/devices/0000:41:00.0" "vendor")).toOption = some 0x110de := by
    decide +kernel
  cases hread : read longVendor "/sys/bus/pci/devices/0000:41:00.0" with
  | error fault =>
    rw [hread] at hvendorId
    cases hvendorId
  | ok d =>
  cases hvendor : readNumber longVendor
      (Path.join "/sys/bus/pci/devices/0000:41:00.0" "vendor") with
  | error fault =>
    rw [hvendor] at hnumber
    cases hnumber
  | ok n =>
    rw [hread] at hvendorId
    rw [hvendor] at hnumber
    obtain ⟨⟨marks, hfile⟩, -⟩ := readNumber_eq_ok_iff.1 hvendor
    have heq := (hexact.vendorId d hread).eq_of_said hfile
    rw [Option.some.inj hvendorId, Option.some.inj hnumber] at heq
    exact absurd heq (by decide)

end PciDevice

end GpuPassthrough
