import GpuPassthrough.Error
import GpuPassthrough.FileTree.Operations
import GpuPassthrough.Pci.Device
import GpuPassthrough.Pci.Model
import GpuPassthrough.Unicode.Whitespace

/-!
# Devices in Sysfs

The kernel shows each PCI function as a directory of small files and links. The numbers are
hexadecimal text; the driver and the isolation group are the last names of links; the handle is the
first entry of `vfio-dev` in the order of names. A directory that cannot be read is passed over, and
so is every device of another vendor.
-/

namespace GpuPassthrough

open Text (Octets)

/-- Why a device directory does not describe a device. -/
inductive SysfsFault where
  | notFound (path : String)
  | invalidAddress (name : String)
  | invalidNumber (value path : String) (fault : Text.NumeralFault)

/-- The wording of a fault. -/
def SysfsFault.message : SysfsFault → String
  | notFound path => "PCI sysfs not found at " ++ path
  | invalidAddress name => "Invalid PCI address format: " ++ name ++ " (expected: 0000:01:00.0)"
  | invalidNumber value path fault =>
    "Invalid hex value " ++ Text.quoteText value ++ " in " ++ path ++ ": " ++ fault.message

/-- A fault as an error of the plugin. -/
def SysfsFault.toError (fault : SysfsFault) : PluginError :=
  .enumeration fault.message

namespace PciDevice

/-- Where sysfs shows the PCI devices. -/
def devicesPath : String := "bus/pci/devices"

/-- A text without the marks of hexadecimal numbers in front of it. -/
def dropHexMarks : List Char → List Char
  | '0' :: 'x' :: rest => dropHexMarks rest
  | s => s

/-- The number below 2³² that a file holds between white space, marked as hexadecimal or not. -/
def readNumber (t : FileTree) (path : String) : Except PluginError Nat :=
  match t.readText path with
  | .error cause => .error (.io path cause)
  | .ok content =>
    let value := Unicode.trim content.toList
    match Text.readNumeral 16 UInt32.size (dropHexMarks value) with
    | .ok n => .ok n
    | .error fault =>
      .error (SysfsFault.invalidNumber (String.ofList value) path fault).toError

/-- The last name of the target of a link. -/
def linkName? (t : FileTree) (path : String) : Option String :=
  match t.readLink path with
  | .ok target => (Route.ofOctets target).lastName?.map Octets.lossy
  | .error _ => none

/-- The first of some names. -/
def firstName? : List String → Option String
  | [] => none
  | name :: names =>
    match firstName? names with
    | none => some name
    | some other => if other < name then some other else some name

/-- The handle of a device: its first character device. -/
def readHandle? (t : FileTree) (path : String) : Option String :=
  match t.list (Path.join path "vfio-dev") with
  | .ok names =>
    firstName? ((names.map Octets.lossy).filter fun name => "vfio".toList.isPrefixOf name.toList)
  | .error _ => none

/-- Reads the directory of a device. The identifying numbers keep their low 16 bits. -/
def read (t : FileTree) (path : String) : Except PluginError PciDevice := do
  let address := (Path.fileName? path).getD ""
  if isAddress address then
    let vendor ← readNumber t (Path.join path "vendor")
    let device ← readNumber t (Path.join path "device")
    let classCode ← readNumber t (Path.join path "class")
    let deviceId := UInt16.ofNat device
    return {
      address := address
      vendorId := UInt16.ofNat vendor
      deviceId := deviceId
      classCode := UInt32.ofNat classCode
      driver := linkName? t (Path.join path "driver")
      group := (linkName? t (Path.join path "iommu_group")).bind fun name =>
        (Text.decimal? UInt32.size name).map UInt32.ofNat
      handle := readHandle? t path
      name := modelName deviceId }
  else .error (SysfsFault.invalidAddress address).toError

/-- The device of NVIDIA's that a name in the directory of devices stands for. A name that is not
text is not an address. -/
def listed? (t : FileTree) (root : String) (name : Octets) : Option PciDevice :=
  match name.text? with
  | none => none
  | some name =>
    match read t (Path.join root name) with
    | .ok device => if device.vendorId = nvidia then some device else none
    | .error _ => none

/-- The devices of a listing of the directory of devices, in the order of their addresses. -/
def ofListing (t : FileTree) (root : String) (names : List Octets) : List PciDevice :=
  (names.filterMap (listed? t root)).mergeSort fun a b => decide (a.address ≤ b.address)

/-- Every PCI device of NVIDIA's, in the order of addresses. -/
def enumerate (t : FileTree) (sysfsRoot : String) : Except PluginError (List PciDevice) :=
  let root := Path.join sysfsRoot devicesPath
  if t.isPresent root then
    match t.list root with
    | .error cause => .error (.io root cause)
    | .ok names => .ok (ofListing t root names)
  else .error (SysfsFault.notFound root).toError

end PciDevice

end GpuPassthrough
