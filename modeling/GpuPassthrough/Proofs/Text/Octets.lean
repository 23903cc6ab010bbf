import GpuPassthrough.Text.Octets
import GpuPassthrough.Unicode.Range
import Mathlib.Data.List.Basic

/-!
# What Is Shown of Octets

Bytes that are not UTF-8 are shown with replacement characters, and characters of several bytes are
never ASCII. So where only ASCII is shown the bytes are ASCII themselves, and that is text.

## Main results

* `Decoder.exists_beyond_ascii`: a character that was begun does not end as ASCII.
* `Octets.eq_text_of_lossy`: what is shown as ASCII is text.
-/

namespace GpuPassthrough.Text

/-- An ASCII character other than NUL. -/
def IsAscii (c : Char) : Prop := 0 < c.toNat ∧ c.toNat < 0x80

/-- The replacement character is not ASCII. -/
theorem not_isAscii_replacement : ¬ IsAscii replacement := by
  rintro ⟨-, hlt⟩
  revert hlt
  decide

/-- No number beyond ASCII makes an ASCII character. -/
theorem not_isAscii_ofNat {n : Nat} (hn : 0x80 ≤ n) : ¬ IsAscii (Char.ofNat n) := by
  rintro ⟨hpos, hlt⟩
  obtain heq | heq := Unicode.toNat_ofNat_or n <;> omega

namespace Decoder

/-- **A decoder inside of a character**: the bits that it has and the least bits that can follow make
a number beyond ASCII. -/
structure IsMidway (d : Decoder) : Prop where
  low : 0x80 ≤ d.low
  bits : d.missing = 1 ∧ 2 ≤ d.bits ∨
    d.missing = 2 ∧ 2 ≤ d.bits * 64 + (d.low - 0x80) ∨
    d.missing = 3 ∧ 1 ≤ d.bits * 64 + (d.low - 0x80)

/-- The first byte of a character of several bytes begins one. -/
theorem isMidway_of_start? {b : Nat} {d : Decoder} (hstart : start? b = some d) : d.IsMidway := by
  unfold start? at hstart
  split at hstart
  · obtain rfl := Option.some.inj hstart
    exact ⟨Nat.le_refl _, .inl ⟨rfl, by dsimp only; omega⟩⟩
  split at hstart
  · obtain rfl := Option.some.inj hstart
    exact ⟨by decide, .inr (.inl ⟨rfl, by decide⟩)⟩
  split at hstart
  · obtain rfl := Option.some.inj hstart
    exact ⟨by decide, .inr (.inl ⟨rfl, by decide⟩)⟩
  split at hstart
  · obtain rfl := Option.some.inj hstart
    exact ⟨Nat.le_refl _, .inr (.inl ⟨rfl, by dsimp only; omega⟩)⟩
  split at hstart
  · obtain rfl := Option.some.inj hstart
    exact ⟨by decide, .inr (.inr ⟨rfl, by decide⟩)⟩
  split at hstart
  · obtain rfl := Option.some.inj hstart
    exact ⟨by decide, .inr (.inr ⟨rfl, by decide⟩)⟩
  split at hstart
  · obtain rfl := Option.some.inj hstart
    exact ⟨Nat.le_refl _, .inr (.inr ⟨rfl, by dsimp only; omega⟩)⟩
  · cases hstart

/-- **A character that was begun does not end as ASCII.** -/
theorem exists_beyond_ascii {d : Decoder} (hd : d.IsMidway) (bytes : List UInt8) :
    ∃ c ∈ d.decode bytes, ¬ IsAscii c := by
  induction bytes generalizing d with
  | nil =>
    have hmissing : d.missing ≠ 0 := by
      obtain h | h | h := hd.bits <;> omega
    rw [decode, if_neg hmissing]
    exact ⟨replacement, List.mem_singleton_self _, not_isAscii_replacement⟩
  | cons b rest ih =>
    have hmissing : d.missing ≠ 0 := by
      obtain h | h | h := hd.bits <;> omega
    simp only [decode]
    rw [feed, if_neg hmissing]
    split
    · next hrange =>
      dsimp only
      have hlow := hd.low
      split
      · next hlast =>
        refine ⟨_, List.mem_append_left _ (List.mem_singleton_self _), not_isAscii_ofNat ?_⟩
        obtain h | h | h := hd.bits <;> omega
      · next hmore =>
        refine ih ⟨Nat.le_refl _, ?_⟩
        obtain h | h | h := hd.bits
        · exact absurd h.1 hmore
        · exact .inl ⟨by dsimp only; omega, by dsimp only; omega⟩
        · exact .inr (.inl ⟨by dsimp only; omega, by dsimp only; omega⟩)
    · exact ⟨replacement, List.mem_append_left _ List.mem_cons_self, not_isAscii_replacement⟩

/-- **Bytes that are shown as ASCII are ASCII.** -/
theorem lt_of_decode {bytes : List UInt8} (hascii : ∀ c ∈ idle.decode bytes, IsAscii c) :
    ∀ b ∈ bytes, b.toNat < 0x80 := by
  induction bytes with
  | nil => exact fun _ hb => nomatch hb
  | cons b rest ih =>
    simp only [decode] at hascii
    rw [feed, if_pos (show idle.missing = 0 from rfl), begin] at hascii
    by_cases hb : b.toNat < 0x80
    · rw [if_pos hb] at hascii
      exact List.forall_mem_cons.2
        ⟨hb, ih fun c hc => hascii c (List.mem_append_right _ hc)⟩
    · rw [if_neg hb] at hascii
      cases hstart : start? b.toNat with
      | some d =>
        rw [hstart] at hascii
        obtain ⟨c, hc, hnot⟩ := exists_beyond_ascii (isMidway_of_start? hstart) rest
        exact absurd (hascii c (List.mem_append_right _ hc)) hnot
      | none =>
        rw [hstart] at hascii
        exact absurd (hascii replacement (List.mem_append_left _ (List.mem_singleton_self _)))
          not_isAscii_replacement

end Decoder

namespace Octets

/-- **Octets as the system hands them out**: bytes that are text are known as text. -/
def IsDecoded : Octets → Prop
  | text _ => True
  | raw bytes => ofBytes bytes = raw bytes

/-- ASCII is text. -/
theorem ofBytes_ne_raw {bytes : List UInt8} (hascii : ∀ b ∈ bytes, b.toNat < 0x80) :
    ofBytes bytes ≠ raw bytes := by
  have hencode : ∀ b ∈ bytes, String.utf8EncodeChar (Char.ofNat b.toNat) = [b] := by
    intro b hb
    have hvalid : b.toNat.isValidChar := .inl (by have := hascii b hb; omega)
    have hnat : (Char.ofNat b.toNat).val.toNat = b.toNat := by
      rw [Char.ofNat, dif_pos hvalid]
      rfl
    have hle : b.toNat ≤ 127 := Nat.le_of_lt_succ (hascii b hb)
    simp only [String.utf8EncodeChar, hnat, hle, if_true, UInt8.ofNat_toNat]
  have hbytes : (bytes.map fun b => Char.ofNat b.toNat).utf8Encode = ByteArray.mk bytes.toArray := by
    have hflat : (bytes.map fun b => Char.ofNat b.toNat).flatMap String.utf8EncodeChar = bytes := by
      rw [List.flatMap_map, List.flatMap_congr hencode]
      simp
    rw [List.utf8Encode, hflat]
    exact ByteArray.ext (by simp)
  have hvalid : (ByteArray.mk bytes.toArray).IsValidUTF8 := ⟨_, hbytes.symm⟩
  rw [ofBytes, String.fromUTF8?, dif_pos hvalid]
  nofun

/-- **What is shown as ASCII is text.** -/
theorem eq_text_of_lossy {octets : Octets} (hdecoded : octets.IsDecoded)
    (hascii : ∀ c ∈ octets.lossy.toList, IsAscii c) : octets = text octets.lossy := by
  cases octets with
  | text s => rfl
  | raw bytes =>
    rw [lossy, String.toList_ofList] at hascii
    exact absurd hdecoded (ofBytes_ne_raw (Decoder.lt_of_decode hascii))

end Octets

end GpuPassthrough.Text
