import GpuPassthrough.Proofs.Isolation.KeyOrder
import GpuPassthrough.Proofs.Snapshot.Units

/-!
# The Order of the Keys of a Snapshot

Units are visited in the order of their keys. That order is total and goes by the numbers in the
keys, whatever else is in them: where a host gives out groups, the units come in the order of the
numbers of the groups, and handles that differ in their numbers alone come in the order of these.

## Main results

* `UnitKey.sortsSnapshots_sort`: the order of the units of a snapshot.
* `UnitKey.isNumericOrder_compare`: the order of all keys.
-/

namespace GpuPassthrough

/-- The number of a group is found in the key. -/
theorem PassthroughDevice.number_unitKey (d : PassthroughDevice) :
    UnitKey.number (d.unitKey false) = d.group.toNat := by
  rw [unitKey_of_group, UnitKey.number_toString]
  exact Nat.lt_trans d.group.toNat_lt (by decide)

namespace Snapshot

/-- A key of a snapshot is that of a device. -/
theorem exists_device_of_mem_keys {handles : Bool} {devices : List PassthroughDevice} {key : String}
    (hkey : key ∈ (ofDevices handles devices).units.map Prod.fst) :
    ∃ d ∈ devices, d.unitKey handles = key := by
  obtain ⟨members, hunit⟩ := Option.isSome_iff_exists.1 (unit?_isSome_iff.2 hkey)
  obtain ⟨hne, -⟩ := members_ofDevices hunit
  obtain ⟨d, hd⟩ := List.exists_mem_of_ne_nil members hne
  exact ⟨d, (mem_members_iff hunit).1 hd⟩

end Snapshot

namespace UnitKey

open Text (IsNumeral)

/-- **Keys of snapshots in order**: those of groups ascend by the numbers of the groups, and those of
handles that begin with the same letters by the numbers behind the letters. -/
structure SortsSnapshots (sort : List String → List String) : Prop where
  groups : ∀ devices,
    (sort ((Snapshot.ofDevices false devices).units.map Prod.fst)).Pairwise fun a b =>
      ∃ m n : UInt32, a = toString m.toNat ∧ b = toString n.toNat ∧ m < n
  handles : ∀ devices letters, (∀ c ∈ letters, c.isAlpha = true) →
    (sort ((Snapshot.ofDevices true devices).units.map Prod.fst)).Pairwise fun a b =>
      ∀ m < UInt64.size, ∀ n < UInt64.size, a = String.ofList letters ++ toString m →
        b = String.ofList letters ++ toString n → m < n

/-- Keys that ascend have numbers that do, if they have different ones. -/
theorem number_lt_of_compare {a b : String} (hcompare : compare a b = .lt)
    (hne : number a ≠ number b) : number a < number b := by
  refine Nat.lt_of_le_of_ne (number_le_of_le ?_) hne
  rw [le, hcompare]
  rfl

/-- **The keys of a snapshot come in the order of their numbers.** -/
theorem sortsSnapshots_sort : SortsSnapshots sort where
  groups devices := by
    have hnodup := (Snapshot.wellKeyed_ofDevices false devices).nodup
    refine (pairwise_lt_sort hnodup).imp_of_mem fun {a b} ha hb hlt => ?_
    obtain ⟨d, -, rfl⟩ := Snapshot.exists_device_of_mem_keys ((sort_perm _).mem_iff.1 ha)
    obtain ⟨e, -, rfl⟩ := Snapshot.exists_device_of_mem_keys ((sort_perm _).mem_iff.1 hb)
    have hd := d.number_unitKey
    have he := e.number_unitKey
    refine ⟨d.group, e.group, d.unitKey_of_group, e.unitKey_of_group, UInt32.lt_iff_toNat_lt.2 ?_⟩
    rw [← hd, ← he]
    refine number_lt_of_compare hlt fun hsame => ne_of_compare_eq_lt hlt ?_
    rw [d.unitKey_of_group, e.unitKey_of_group, ← hd, ← he, hsame]
  handles devices letters hletters := by
    have hnodup := (Snapshot.wellKeyed_ofDevices true devices).nodup
    refine (pairwise_lt_sort hnodup).imp fun {a b} hlt m hm n hn ha hb => ?_
    have hnumber := number_append_toString hletters hm
    have hnumber' := number_append_toString hletters hn
    rw [← ha] at hnumber
    rw [← hb] at hnumber'
    rw [← hnumber, ← hnumber']
    refine number_lt_of_compare hlt fun hsame => ne_of_compare_eq_lt hlt ?_
    rw [ha, hb, ← hnumber, ← hnumber', hsame]

/-- **An order of keys by their numbers.** -/
structure IsNumericOrder (compare : String → String → Ordering) (number : String → Nat)
    (sort : List String → List String) : Prop where
  /-- Only equal keys compare as equal, -/
  eq_iff : ∀ a b, compare a b = .eq ↔ a = b
  /-- the order does not depend on which key comes first, -/
  swap : ∀ a b, (compare a b).swap = compare b a
  /-- and a key before one before a third is before the third. -/
  trans : ∀ a b c, compare a b = .lt → compare b c = .lt → compare a c = .lt
  /-- Sorted keys are the same keys, and ascend. -/
  sorted : ∀ keys, (sort keys).Perm keys ∧ (sort keys).Pairwise fun a b => compare a b ≠ .gt
  /-- In whatever order keys are, sorting puts them in the same one. -/
  reordered : ∀ keys others, keys.Perm others → sort keys = sort others
  /-- Letters with a numeral behind them have the number of the numeral. -/
  numbered : ∀ letters rest n, (∀ c ∈ letters, c.isAlpha = true) → IsNumeral 10 rest n →
    n < UInt64.size → number (String.ofList (letters ++ rest)) = n
  /-- All others count as zero. -/
  unnumbered : ∀ letters rest, (∀ c ∈ letters, c.isAlpha = true) →
    (∀ c, rest.head? = some c → c.isAlpha = false) →
    (∀ n < UInt64.size, ¬ IsNumeral 10 rest n) → number (String.ofList (letters ++ rest)) = 0
  /-- A key with a smaller number comes first, -/
  ascends : ∀ a b, number a < number b → compare a b = .lt
  /-- also among letters with numerals of any length. -/
  refines : ∀ letters letters' numeral numeral' m n, (∀ c ∈ letters, c.isAlpha = true) →
    (∀ c ∈ letters', c.isAlpha = true) → IsNumeral 10 numeral m → IsNumeral 10 numeral' n →
    m < UInt64.size → n < UInt64.size → m < n →
    compare (String.ofList (letters ++ numeral)) (String.ofList (letters' ++ numeral')) = .lt
  /-- The units of snapshots come in the order of their numbers. -/
  snapshots : SortsSnapshots sort

/-- **The order of keys** goes by their numbers. -/
theorem isNumericOrder_compare : IsNumericOrder compare number sort where
  eq_iff _ _ := ⟨eq_of_compare_eq, fun hsame => hsame ▸ Std.ReflCmp.compare_self⟩
  swap := compare_swap
  trans _ _ _ := Std.TransCmp.lt_trans
  sorted keys := by
    refine ⟨sort_perm keys, (pairwise_sort keys).imp fun hle hgt => ?_⟩
    rw [le, hgt] at hle
    cases hle
  reordered _ _ := sort_eq_of_perm
  numbered _ _ _ := number_of_isNumeral
  unnumbered _ _ := number_eq_zero
  ascends _ _ := compare_of_number_lt
  refines letters letters' numeral numeral' m n hletters hletters' hnumeral hnumeral' hm hn hlt := by
    refine compare_of_number_lt ?_
    rwa [number_of_isNumeral hletters hnumeral hm, number_of_isNumeral hletters' hnumeral' hn]
  snapshots := sortsSnapshots_sort

end UnitKey

end GpuPassthrough
