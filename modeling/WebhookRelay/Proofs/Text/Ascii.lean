-- SUMMARY: ASCII texts: one byte a character.
import WebhookRelay.Text.Digits
import Mathlib

/-!
# ASCII texts

The UTF-8 form of an ASCII character is one byte below 128, and a character whose bytes are all
below 128 is one. So a text that consists of such bytes may be read byte by byte.
-/

namespace WebhookRelay.Text

/-- Whether a character is an ASCII hexadecimal digit. -/
def IsHexDigit (c : Char) : Prop :=
  ('0' ≤ c ∧ c ≤ '9') ∨ ('a' ≤ c ∧ c ≤ 'f') ∨ ('A' ≤ c ∧ c ≤ 'F')

/-- Whether a byte is an ASCII hexadecimal digit. -/
def IsHexByte (b : UInt8) : Prop :=
  (0x30 ≤ b ∧ b ≤ 0x39) ∨ (0x61 ≤ b ∧ b ≤ 0x66) ∨ (0x41 ≤ b ∧ b ≤ 0x46)

theorem isSome_hexValue?_iff (c : Char) : (hexValue? c).isSome = true ↔ IsHexDigit c := by
  unfold hexValue? IsHexDigit
  split_ifs <;> simp [*]

theorem IsHexDigit.ascii {c : Char} (h : IsHexDigit c) : c.toNat < 128 := by
  have hle : ∀ d : Char, d.toNat < 128 → c ≤ d → c.toNat < 128 :=
    fun d hd h => Nat.lt_of_le_of_lt h hd
  rcases h with h | h | h
  · exact hle _ (by decide) h.2
  · exact hle _ (by decide) h.2
  · exact hle _ (by decide) h.2

theorem IsHexByte.ascii {b : UInt8} (h : IsHexByte b) : b < 128 := by
  rcases h with h | h | h
  · exact UInt8.lt_of_le_of_lt h.2 (by decide)
  · exact UInt8.lt_of_le_of_lt h.2 (by decide)
  · exact UInt8.lt_of_le_of_lt h.2 (by decide)

/-! ## The byte of a character -/

/-- The byte of an ASCII character. -/
def asciiByte (c : Char) : UInt8 :=
  .ofNat c.toNat

theorem toNat_asciiByte {c : Char} (h : c.toNat < 128) : (asciiByte c).toNat = c.toNat := by
  rw [asciiByte, UInt8.toNat_ofNat']
  omega

theorem asciiByte_inj {c d : Char} (hc : c.toNat < 128) (hd : d.toNat < 128)
    (h : asciiByte c = asciiByte d) : c = d := by
  rw [← Char.toNat_inj, ← toNat_asciiByte hc, ← toNat_asciiByte hd, h]

theorem isHexByte_asciiByte_iff {c : Char} (h : c.toNat < 128) :
    IsHexByte (asciiByte c) ↔ IsHexDigit c := by
  simp only [IsHexByte, IsHexDigit, UInt8.le_iff_toNat_le, toNat_asciiByte h]
  rfl

theorem utf8EncodeChar_of_ascii {c : Char} (h : c.toNat < 128) :
    String.utf8EncodeChar c = [asciiByte c] :=
  if_pos (Nat.le_of_lt_succ h)

/-- The first byte of any other character is none of ASCII. -/
theorem ascii_of_utf8EncodeChar {c : Char} (h : ∀ b ∈ String.utf8EncodeChar c, b < 128) :
    c.toNat < 128 := by
  by_contra hc
  have hval : c.val.toNat = c.toNat := rfl
  unfold String.utf8EncodeChar at h
  simp only [hval, UInt8.lt_iff_toNat_lt] at h
  split_ifs at h
  · omega
  all_goals
    have hfirst := h _ List.mem_cons_self
    rw [UInt8.toNat_ofNat'] at hfirst
    have h128 : (128 : UInt8).toNat = 128 := rfl
    omega

/-! ## The bytes of a text -/

theorem flatMap_utf8EncodeChar {cs : List Char} (h : ∀ c ∈ cs, c.toNat < 128) :
    cs.flatMap String.utf8EncodeChar = cs.map asciiByte := by
  rw [List.flatMap_congr fun c hc => utf8EncodeChar_of_ascii (h c hc)]
  exact List.flatMap_pure_eq_map ..

/-- A text consists of some ASCII bytes exactly when it consists of their characters. -/
theorem toUTF8_eq_iff {s : String} {bytes : List UInt8} (h : ∀ b ∈ bytes, b < 128) :
    s.toUTF8 = bytes.toByteArray ↔
      (∀ c ∈ s.toList, c.toNat < 128) ∧ s.toList.map asciiByte = bytes := by
  have hflat : s.toUTF8 = bytes.toByteArray ↔
      s.toList.flatMap String.utf8EncodeChar = bytes := by
    rw [← List.toByteArray_inj, ← List.utf8Encode, ← String.toByteArray_ofList,
      String.ofList_toList]
    rfl
  rw [hflat]
  constructor
  · intro heq
    have hascii : ∀ c ∈ s.toList, c.toNat < 128 := fun c hc =>
      ascii_of_utf8EncodeChar fun b hb => h b (heq ▸ List.mem_flatMap.2 ⟨c, hc, hb⟩)
    exact ⟨hascii, (flatMap_utf8EncodeChar hascii).symm.trans heq⟩
  · rintro ⟨hascii, heq⟩
    exact (flatMap_utf8EncodeChar hascii).trans heq

end WebhookRelay.Text
