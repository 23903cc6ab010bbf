import GpuPassthrough.Text.Numeral

/-!
# Model Names

The names of the data-centre parts by device number. A number that is not in the table gets a name
that still shows the number.
-/

namespace GpuPassthrough.PciDevice

/-- The parts with a name of their own. -/
def models : List (UInt16 × String) :=
  [(0x20b0, "NVIDIA A100-SXM4-40GB"), (0x20b2, "NVIDIA A100-SXM4-80GB"),
   (0x20b5, "NVIDIA A100-PCIE-40GB"), (0x20f1, "NVIDIA A100-PCIE-80GB"),
   (0x2330, "NVIDIA H100 PCIe"), (0x2331, "NVIDIA H100 SXM"), (0x2335, "NVIDIA H200 SXM"),
   (0x2901, "NVIDIA B200"), (0x26b1, "NVIDIA L4"), (0x26b5, "NVIDIA L40"),
   (0x26b9, "NVIDIA L40S"), (0x1db1, "NVIDIA Tesla V100-SXM2-16GB"),
   (0x1db4, "NVIDIA Tesla V100-PCIE-16GB"), (0x1db6, "NVIDIA Tesla V100-PCIE-32GB"),
   (0x1e04, "NVIDIA Tesla T4"), (0x1af1, "NVIDIA A100 NVSwitch"),
   (0x22a3, "NVIDIA H100 NVSwitch")]

/-- The name of the part with a device number. -/
def modelName (deviceId : UInt16) : String :=
  match models.lookup deviceId with
  | some name => name
  | none => "NVIDIA Device [" ++ Text.hexWord deviceId ++ "]"

end GpuPassthrough.PciDevice
