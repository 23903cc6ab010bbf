import GpuPassthrough.Text.Numeral

/-!
# PCI Devices

A PCI function as the kernel shows it, and how it is classified by its class code. The class code
has 24 bits; the lowest eight, the programming interface, do not matter.

## Main results

* `isAddress_length`: an address has twelve characters.
-/

namespace GpuPassthrough

/-- A PCI function. -/
structure PciDevice where
  address : String
  vendorId : UInt16
  deviceId : UInt16
  classCode : UInt32
  driver : Option String
  group : Option UInt32
  handle : Option String
  name : String
  deriving DecidableEq

namespace PciDevice

/-- The vendor number of NVIDIA. -/
def nvidia : UInt16 := 0x10de

/-- The driver that hands a device to user space. -/
def passthroughDriver : String := "vfio-pci"

/-- The class of VGA controllers, without the programming interface. -/
def vgaClass : UInt32 := 0x0300

/-- The class of 3D controllers, without the programming interface. -/
def controller3dClass : UInt32 := 0x0302

/-- The class of bridges of no other kind, without the programming interface. -/
def otherBridgeClass : UInt32 := 0x0680

/-- The class code without the programming interface. -/
def baseClass (d : PciDevice) : UInt32 := d.classCode >>> 8

/-- A GPU is a VGA or a 3D controller of any vendor. -/
def isGpu (d : PciDevice) : Bool :=
  d.baseClass == vgaClass || d.baseClass == controller3dClass

/-- A switch is a bridge of NVIDIA's that is of no other kind. -/
def isSwitch (d : PciDevice) : Bool :=
  d.vendorId == nvidia && d.baseClass == otherBridgeClass

/-- Whether the device is in the hands of user space. -/
def isPassedThrough (d : PciDevice) : Bool :=
  d.driver == some passthroughDriver

/-- The kind of a device, as shown to people. -/
def kind (d : PciDevice) : String :=
  if d.isSwitch then "NVSwitch" else "GPU"

/-- An ASCII hexadecimal digit. -/
def isHexDigit (c : Char) : Bool := (Text.digit? 16 c).isSome

/-- An address: domain, bus, device and function, the function below eight. -/
def isAddress (s : String) : Bool :=
  match s.toList with
  | [a, b, c, d, ':', e, f, ':', g, h, '.', i] =>
    [a, b, c, d, e, f, g, h].all isHexDigit && (Text.digit? 8 i).isSome
  | _ => false

/-- An address has twelve characters. -/
theorem isAddress_length {s : String} (h : isAddress s = true) : s.toList.length = 12 := by
  unfold isAddress at h
  split at h
  · next heq => simp [heq]
  · simp at h

end PciDevice

end GpuPassthrough
