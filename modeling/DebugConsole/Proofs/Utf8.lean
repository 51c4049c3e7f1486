/-
# The order of texts is that of their bytes

Texts are compared character by character, paths on an adapter's side byte by byte.  The two
orders agree, since the bytes of a character hold its code point from the highest digit on:

| code point | first byte | further bytes |
| --- | --- | --- |
| below 0x80 | the code point | |
| below 0x800 | 0xC0 and the digit of 64 | one |
| below 0x10000 | 0xE0 and the digit of 64² | two |
| others | 0xF0 and the digit of 64³ | three |

Longer forms begin with greater bytes, and of two forms of one length the greater code point has
the greater digit at the first difference.
-/

import DebugConsole.Text.Utf8
import Mathlib.Data.String.Basic
import Mathlib.Tactic.SplitIfs

namespace DebugConsole
namespace Utf8

/-- The bytes of a lesser character are less, whatever follows them. -/
theorem utf8EncodeChar_append_lt {c d : Char} (h : c < d) (s t : List UInt8) :
    String.utf8EncodeChar c ++ s < String.utf8EncodeChar d ++ t := by
  have hlt : c.val.toNat < d.val.toNat := h
  have hbound : d.val.toNat < 0x110000 := by
    have hvalid := d.valid
    simp only [UInt32.isValidChar, Nat.isValidChar] at hvalid
    omega
  simp only [String.utf8EncodeChar]
  generalize c.val.toNat = v at *
  generalize d.val.toNat = w at *
  -- a digit is found in two ways: from the number, and from what is left of it without its last
  have hv₁ : v / 64 / 64 = v / 4096 := Nat.div_div_eq_div_mul ..
  have hv₂ : v / 4096 / 64 = v / 262144 := Nat.div_div_eq_div_mul ..
  have hw₁ : w / 64 / 64 = w / 4096 := Nat.div_div_eq_div_mul ..
  have hw₂ : w / 4096 / 64 = w / 262144 := Nat.div_div_eq_div_mul ..
  split_ifs <;>
    simp (disch := omega) only [List.cons_append, List.nil_append, List.cons_lt_cons_iff,
      UInt8.lt_iff_toNat_lt, ← UInt8.toNat_inj, UInt8.toNat_ofNat', Nat.mod_eq_of_lt] <;>
    omega

theorem encode_lt_encode {p q : String} (h : p < q) : encode p < encode q := by
  have hchars : p.toList < q.toList := h
  rw [encode, encode]
  generalize p.toList = s at hchars
  generalize q.toList = t at hchars
  induction s generalizing t with
  | nil =>
    cases t with
    | nil => exact absurd hchars (List.lt_irrefl _)
    | cons d t =>
      rw [List.flatMap_cons, List.flatMap_nil]
      cases hd : String.utf8EncodeChar d with
      | nil => exact absurd hd String.utf8EncodeChar_ne_nil
      | cons b rest => exact List.nil_lt_cons b _
  | cons c s ih =>
    cases t with
    | nil => exact absurd hchars (List.not_lt_nil _)
    | cons d t =>
      rw [List.flatMap_cons, List.flatMap_cons]
      rcases List.cons_lt_cons_iff.1 hchars with hlt | ⟨rfl, hlt⟩
      · exact utf8EncodeChar_append_lt hlt _ _
      · exact List.append_left_lt (ih _ hlt)

/-- **Texts are in the order of their bytes.** -/
theorem encode_lt_encode_iff {p q : String} : encode p < encode q ↔ p < q := by
  refine ⟨fun h => ?_, encode_lt_encode⟩
  rcases lt_trichotomy p q with hlt | rfl | hgt
  · exact hlt
  · exact absurd h (List.lt_irrefl _)
  · exact absurd (List.lt_trans h (encode_lt_encode hgt)) (List.lt_irrefl _)

end Utf8
end DebugConsole
