/-
# Texts and numerals are read back from what is written

A text is written character by character, so reading starts over behind each of them; inside one,
every byte but the last leaves a character begun.

| code point | first byte | bounds of the second byte |
| --- | --- | --- |
| below 0x80 | the code point | |
| below 0x800 | `lead_two` | any |
| below 0x10000 | `lead_three` | no shorter form, no surrogate |
| others | `lead_four` | no shorter form, none above the last character |

A text is read from its own bytes only (`Utf8.decode_eq_ok_iff`): what a first byte allows and the
bounds that it sets (`Leads`) leave one way to write each character.

A numeral is written in digits alone, so no sign is looked for before them.
-/

import DebugConsole.Text.Utf8
import DebugConsole.Text.Numeral
import Mathlib.Data.String.Basic
import Mathlib.Tactic.SplitIfs

namespace DebugConsole
namespace Utf8

/-! ### Bytes -/

/-- A text has as many bytes as its size says. -/
theorem length_encode (s : String) : (encode s).length = size s := by
  have hbytes : (String.ofList s.toList).toByteArray = (encode s).toByteArray := rfl
  rw [String.ofList_toList] at hbytes
  rw [size, String.utf8ByteSize, hbytes]
  exact List.size_toByteArray.symm

/-- A byte from `0xC0` on begins a character of two bytes. -/
theorem lead_two {n : Nat} (h : 2 ≤ n) (h' : n < 32) :
    lead (n + 0xC0) = .begun ⟨n, 1, 1, 0x80, 0xBF⟩ := by
  rw [lead, if_neg (by omega), if_neg (by omega), if_pos (by omega), Nat.add_sub_cancel]

/-- Neither a shorter form nor a surrogate begins with these two digits, so the second byte is
within its bounds. -/
theorem lead_three {n m : Nat} (h : n < 16) (hm : m < 64) (hshort : n = 0 → 32 ≤ m)
    (hsurrogate : n = 13 → m < 32) : ∃ low high, lead (n + 0xE0) = .begun ⟨n, 1, 2, low, high⟩ ∧
      low ≤ m + 0x80 ∧ m + 0x80 ≤ high := by
  by_cases hzero : n = 0
  · subst n
    exact ⟨0xA0, 0xBF, rfl, by omega, by omega⟩
  by_cases hthirteen : n = 13
  · subst n
    exact ⟨0x80, 0x9F, rfl, by omega, by omega⟩
  refine ⟨0x80, 0xBF, ?_, by omega, by omega⟩
  rw [lead, if_neg (by omega), if_neg (by omega), if_neg (by omega), if_neg (by omega),
    if_neg (by omega), if_pos (by omega), Nat.add_sub_cancel]

/-- Neither a shorter form nor a number above the last character begins with these two digits. -/
theorem lead_four {n m : Nat} (h : n < 5) (hm : m < 64) (hshort : n = 0 → 16 ≤ m)
    (hlast : n = 4 → m < 16) : ∃ low high, lead (n + 0xF0) = .begun ⟨n, 1, 3, low, high⟩ ∧
      low ≤ m + 0x80 ∧ m + 0x80 ≤ high := by
  by_cases hzero : n = 0
  · subst n
    exact ⟨0x90, 0xBF, rfl, by omega, by omega⟩
  by_cases hfour : n = 4
  · subst n
    exact ⟨0x80, 0x8F, rfl, by omega, by omega⟩
  refine ⟨0x80, 0xBF, ?_, by omega, by omega⟩
  rw [lead, if_neg (by omega), if_neg (by omega), if_neg (by omega), if_neg (by omega),
    if_neg (by omega), if_neg (by omega), if_neg (by omega), if_pos (by omega), Nat.add_sub_cancel]

theorem toNat_ofNat_of_lt {n : Nat} (h : n < 256) : (UInt8.ofNat n).toNat = n :=
  UInt8.toNat_ofNat_of_lt' h

variable {acc : List Char} {start code seen low high n : Nat} {rest : List UInt8}

/-- A byte that begins a character leaves the rest of it owed. -/
theorem decodeFrom_begun {begun : Begun} (hn : n < 256) (h : lead n = .begun begun) :
    decodeFrom acc start none (UInt8.ofNat n :: rest) = decodeFrom acc start (some begun) rest := by
  rw [decodeFrom, toNat_ofNat_of_lt hn, h]

/-- A byte in the middle of a character. -/
theorem decodeFrom_middle {owed : Nat} (hn : n < 64) (hlow : low ≤ n + 0x80)
    (hhigh : n + 0x80 ≤ high) :
    decodeFrom acc start (some ⟨code, seen, owed + 2, low, high⟩) (UInt8.ofNat (n + 0x80) :: rest) =
      decodeFrom acc start (some ⟨code * 64 + n, seen + 1, owed + 1, 0x80, 0xBF⟩) rest := by
  rw [decodeFrom, toNat_ofNat_of_lt (by omega), if_pos ⟨hlow, hhigh⟩, if_neg (by simp),
    Nat.add_sub_cancel]
  rfl

/-- The last byte of a character. -/
theorem decodeFrom_last (hn : n < 64) (hlow : low ≤ n + 0x80) (hhigh : n + 0x80 ≤ high) :
    decodeFrom acc start (some ⟨code, seen, 1, low, high⟩) (UInt8.ofNat (n + 0x80) :: rest) =
      decodeFrom (Char.ofNat (code * 64 + n) :: acc) (start + seen + 1) none rest := by
  rw [decodeFrom, toNat_ofNat_of_lt (by omega), if_pos ⟨hlow, hhigh⟩, if_pos rfl,
    Nat.add_sub_cancel]

/-- The bytes of a character are read as that character. -/
theorem decodeFrom_char (c : Char) (acc : List Char) (start : Nat) (rest : List UInt8) :
    ∃ start', decodeFrom acc start none (String.utf8EncodeChar c ++ rest) =
      decodeFrom (c :: acc) start' none rest := by
  have hchar : Char.ofNat c.val.toNat = c := Char.ofNat_toNat c
  have hvalid : c.val.toNat < 0xD800 ∨ 0xDFFF < c.val.toNat ∧ c.val.toNat < 0x110000 := c.valid
  simp only [String.utf8EncodeChar]
  generalize c.val.toNat = v at *
  -- the digits to the base 64, the last one apart, make up the number of what is left of it
  have hlast : v / 64 * 64 + v % 64 = v := Nat.div_add_mod' v 64
  have hmiddle : v / 4096 * 64 + v / 64 % 64 = v / 64 := by omega
  have hfirst : v / 262144 * 64 + v / 4096 % 64 = v / 4096 := by omega
  split_ifs with hone htwo hthree
  · refine ⟨start + 1, ?_⟩
    rw [List.singleton_append, decodeFrom, toNat_ofNat_of_lt (by omega), lead, if_pos (by omega),
      hchar]
  · rw [Nat.mod_eq_of_lt (by omega : v / 64 < 32)]
    refine ⟨start + 1 + 1, ?_⟩
    rw [List.cons_append, List.singleton_append,
      decodeFrom_begun (by omega) (lead_two (by omega) (by omega)),
      decodeFrom_last (by omega) (by omega) (by omega), hlast, hchar]
  · rw [Nat.mod_eq_of_lt (by omega : v / 4096 < 16)]
    obtain ⟨low, high, hlead, hlow, hhigh⟩ := lead_three (n := v / 4096) (m := v / 64 % 64)
      (by omega) (by omega) (by omega) (by omega)
    refine ⟨start + 2 + 1, ?_⟩
    rw [List.cons_append, List.cons_append, List.singleton_append,
      decodeFrom_begun (by omega) hlead, decodeFrom_middle (by omega) hlow hhigh,
      decodeFrom_last (by omega) (by omega) (by omega), hmiddle, hlast, hchar]
  · rw [Nat.mod_eq_of_lt (by omega : v / 262144 < 8)]
    obtain ⟨low, high, hlead, hlow, hhigh⟩ := lead_four (n := v / 262144) (m := v / 4096 % 64)
      (by omega) (by omega) (by omega) (by omega)
    refine ⟨start + 3 + 1, ?_⟩
    rw [List.cons_append, List.cons_append, List.cons_append, List.singleton_append,
      decodeFrom_begun (by omega) hlead, decodeFrom_middle (by omega) hlow hhigh,
      decodeFrom_middle (by omega) (by omega) (by omega),
      decodeFrom_last (by omega) (by omega) (by omega), hfirst, hmiddle, hlast, hchar]

/-- Characters are read back from their bytes, one after the other. -/
theorem decodeFrom_chars (cs acc : List Char) (start : Nat) :
    decodeFrom acc start none (cs.flatMap String.utf8EncodeChar) = .ok (acc.reverse ++ cs) := by
  induction cs generalizing acc start with
  | nil => rw [List.flatMap_nil, decodeFrom, List.append_nil]
  | cons c cs ih =>
    obtain ⟨start', hchar⟩ := decodeFrom_char c acc start (cs.flatMap String.utf8EncodeChar)
    rw [List.flatMap_cons, hchar, ih, List.reverse_cons, List.append_assoc, List.singleton_append]

/-- **The bytes of a text are read as that text.** -/
theorem decode_encode (s : String) : decode (encode s) = .ok s := by
  rw [decode, encode, decodeFrom_chars, List.reverse_nil, List.nil_append]
  exact congrArg Except.ok String.ofList_toList

/-! ### Bytes of no other text -/

variable {cs : List Char} {bytes : List UInt8}

/-- What a first byte can be, and the bounds that it sets for the second one: no shorter form, no
surrogate, none above the last character. -/
inductive Leads : Nat → Lead → Prop
  | one {v : Nat} (h : v < 0x80) : Leads v (.whole (Char.ofNat v))
  | two {v n : Nat} (hv : v = n + 0xC0) (hshort : 2 ≤ n) (h : n < 32) :
    Leads v (.begun ⟨n, 1, 1, 0x80, 0xBF⟩)
  | three {v n low high : Nat} (hv : v = n + 0xE0) (h : n < 16) (hlow : 0x80 ≤ low)
    (hhigh : high ≤ 0xBF) (hshort : n = 0 → 0xA0 ≤ low) (hsurrogate : n = 13 → high ≤ 0x9F) :
    Leads v (.begun ⟨n, 1, 2, low, high⟩)
  | four {v n low high : Nat} (hv : v = n + 0xF0) (h : n < 5) (hlow : 0x80 ≤ low)
    (hhigh : high ≤ 0xBF) (hshort : n = 0 → 0x90 ≤ low) (hlast : n = 4 → high ≤ 0x8F) :
    Leads v (.begun ⟨n, 1, 3, low, high⟩)
  | bad {v : Nat} : Leads v .bad

/-- Every number is classified as a first byte, and what that says of it. -/
theorem leads_lead (v : Nat) : Leads v (lead v) := by
  unfold lead
  split_ifs
  · exact .one ‹_›
  · exact .bad
  · exact .two (by omega) (by omega) (by omega)
  · exact .three (by omega) (by omega) (by omega) (by omega) (by omega) (by omega)
  · exact .three (by omega) (by omega) (by omega) (by omega) (by omega) (by omega)
  · exact .three (by omega) (by omega) (by omega) (by omega) (by omega) (by omega)
  · exact .four (by omega) (by omega) (by omega) (by omega) (by omega) (by omega)
  · exact .four (by omega) (by omega) (by omega) (by omega) (by omega) (by omega)
  · exact .four (by omega) (by omega) (by omega) (by omega) (by omega) (by omega)
  · exact .bad

/-- Inside a character another byte was read, and it was within its bounds. -/
theorem exists_next {owed : Nat} (hlow : 0x80 ≤ low)
    (h : decodeFrom acc start (some ⟨code, seen, owed, low, high⟩) bytes = .ok cs) :
    ∃ n rest, bytes = UInt8.ofNat (n + 0x80) :: rest ∧ low ≤ n + 0x80 ∧ n + 0x80 ≤ high := by
  cases bytes with
  | nil => cases h
  | cons b rest =>
    rw [decodeFrom] at h
    by_cases hbounds : low ≤ b.toNat ∧ b.toNat ≤ high
    · have hb : b.toNat - 0x80 + 0x80 = b.toNat := by omega
      refine ⟨b.toNat - 0x80, rest, ?_, ?_⟩ <;> rw [hb]
      · rw [UInt8.ofNat_toNat]
      · exact hbounds
    · rw [if_neg hbounds] at h
      cases h

/-- What is read where two bytes or more are owed starts with one of them. -/
theorem exists_middle {owed : Nat} (hlow : 0x80 ≤ low) (hhigh : high ≤ 0xBF)
    (h : decodeFrom acc start (some ⟨code, seen, owed + 2, low, high⟩) bytes = .ok cs) :
    ∃ n rest, bytes = UInt8.ofNat (n + 0x80) :: rest ∧ low ≤ n + 0x80 ∧ n + 0x80 ≤ high ∧
      decodeFrom acc start (some ⟨code * 64 + n, seen + 1, owed + 1, 0x80, 0xBF⟩) rest =
        .ok cs := by
  obtain ⟨n, rest, rfl, hn, hn'⟩ := exists_next hlow h
  rw [decodeFrom_middle (by omega) hn hn'] at h
  exact ⟨n, rest, rfl, hn, hn', h⟩

/-- What is read where one byte is owed starts with the end of a character. -/
theorem exists_last (hlow : 0x80 ≤ low) (hhigh : high ≤ 0xBF)
    (h : decodeFrom acc start (some ⟨code, seen, 1, low, high⟩) bytes = .ok cs) :
    ∃ n rest start', bytes = UInt8.ofNat (n + 0x80) :: rest ∧ low ≤ n + 0x80 ∧ n + 0x80 ≤ high ∧
      decodeFrom (Char.ofNat (code * 64 + n) :: acc) start' none rest = .ok cs := by
  obtain ⟨n, rest, rfl, hn, hn'⟩ := exists_next hlow h
  rw [decodeFrom_last (by omega) hn hn'] at h
  exact ⟨n, rest, _, rfl, hn, hn', h⟩

/-- The bytes of a character, in the digits of its number to the base 64. -/
theorem utf8EncodeChar_ofNat {v : Nat} (h : v.isValidChar) :
    String.utf8EncodeChar (Char.ofNat v) =
      if v ≤ 0x7F then [UInt8.ofNat v]
      else if v ≤ 0x7FF then [UInt8.ofNat (v / 64 % 32 + 0xC0), UInt8.ofNat (v % 64 + 0x80)]
      else if v ≤ 0xFFFF then
        [UInt8.ofNat (v / 4096 % 16 + 0xE0), UInt8.ofNat (v / 64 % 64 + 0x80),
          UInt8.ofNat (v % 64 + 0x80)]
      else
        [UInt8.ofNat (v / 262144 % 8 + 0xF0), UInt8.ofNat (v / 4096 % 64 + 0x80),
          UInt8.ofNat (v / 64 % 64 + 0x80), UInt8.ofNat (v % 64 + 0x80)] := by
  have hval : (Char.ofNat v).val.toNat = v := by
    rw [Char.ofNat, dif_pos h]
    rfl
  rw [String.utf8EncodeChar, hval]

/-- Bytes that are read as a text begin with the bytes of its first character. -/
theorem exists_char {b : UInt8} (h : decodeFrom acc start none (b :: bytes) = .ok cs) :
    ∃ c rest start', b :: bytes = String.utf8EncodeChar c ++ rest ∧
      decodeFrom (c :: acc) start' none rest = .ok cs := by
  have hb : b = UInt8.ofNat b.toNat := UInt8.ofNat_toNat.symm
  rw [decodeFrom] at h
  generalize b.toNat = v at hb h
  have hlead := leads_lead v
  -- the first byte tells how many follow, and which the second may be
  cases hlead' : lead v <;> rw [hlead'] at h hlead <;> cases hlead <;> dsimp only at h
  case whole.one hv =>
    refine ⟨Char.ofNat v, bytes, start + 1, ?_, h⟩
    rw [utf8EncodeChar_ofNat (.inl (by omega)), if_pos (by omega), hb]
    rfl
  case begun.two n hv hshort hn =>
    obtain ⟨m, rest, start', rfl, hm, hm', h⟩ := exists_last (by decide) (by decide) h
    refine ⟨_, rest, start', ?_, h⟩
    rw [utf8EncodeChar_ofNat (.inl (by omega)), if_neg (by omega), if_pos (by omega),
      (by omega : (n * 64 + m) / 64 % 32 = n), (by omega : (n * 64 + m) % 64 = m), hb, hv]
    rfl
  case begun.three n low high hv hn hlow hhigh hshort hsurrogate =>
    obtain ⟨m, rest, rfl, hm, hm', h⟩ := exists_middle hlow hhigh h
    obtain ⟨k, rest, start', rfl, hk, hk', h⟩ := exists_last (by decide) (by decide) h
    -- the bounds on the second byte keep out surrogates and longer forms
    have hvalid : ((n * 64 + m) * 64 + k).isValidChar := by
      unfold Nat.isValidChar
      omega
    refine ⟨_, rest, start', ?_, h⟩
    rw [utf8EncodeChar_ofNat hvalid, if_neg (by omega), if_neg (by omega), if_pos (by omega),
      (by omega : ((n * 64 + m) * 64 + k) / 4096 % 16 = n),
      (by omega : ((n * 64 + m) * 64 + k) / 64 % 64 = m),
      (by omega : ((n * 64 + m) * 64 + k) % 64 = k), hb, hv]
    rfl
  case begun.four n low high hv hn hlow hhigh hshort hlast =>
    obtain ⟨m, rest, rfl, hm, hm', h⟩ := exists_middle hlow hhigh h
    obtain ⟨k, rest, rfl, hk, hk', h⟩ := exists_middle (by decide) (by decide) h
    obtain ⟨l, rest, start', rfl, hl, hl', h⟩ := exists_last (by decide) (by decide) h
    have hvalid : (((n * 64 + m) * 64 + k) * 64 + l).isValidChar := by
      unfold Nat.isValidChar
      omega
    refine ⟨_, rest, start', ?_, h⟩
    rw [utf8EncodeChar_ofNat hvalid, if_neg (by omega), if_neg (by omega), if_neg (by omega),
      (by omega : (((n * 64 + m) * 64 + k) * 64 + l) / 262144 % 8 = n),
      (by omega : (((n * 64 + m) * 64 + k) * 64 + l) / 4096 % 64 = m),
      (by omega : (((n * 64 + m) * 64 + k) * 64 + l) / 64 % 64 = k),
      (by omega : (((n * 64 + m) * 64 + k) * 64 + l) % 64 = l), hb, hv]
    rfl
  case bad.bad => cases h

/-- **Bytes that are read are those of the characters read**, and of no others. -/
theorem exists_chars (h : decodeFrom acc start none bytes = .ok cs) :
    ∃ read, cs = acc.reverse ++ read ∧ bytes = read.flatMap String.utf8EncodeChar := by
  induction hlength : bytes.length using Nat.strong_induction_on generalizing bytes acc start with
  | _ length ih =>
    cases bytes with
    | nil =>
      rw [decodeFrom] at h
      exact ⟨[], by rw [List.append_nil, Except.ok.inj h], rfl⟩
    | cons b bytes =>
      obtain ⟨c, rest, start', hbytes, hrest⟩ := exists_char h
      have hpos : 0 < (String.utf8EncodeChar c).length :=
        List.length_pos_of_ne_nil String.utf8EncodeChar_ne_nil
      have hshort : rest.length < length := by
        rw [← hlength, hbytes, List.length_append]
        omega
      obtain ⟨read, rfl, rfl⟩ := ih rest.length hshort hrest rfl
      refine ⟨c :: read, ?_, hbytes⟩
      rw [List.reverse_cons, List.append_assoc, List.singleton_append]

/-- **Bytes are read as a text if and only if they are the bytes of that text.** -/
theorem decode_eq_ok_iff {s : String} : decode bytes = .ok s ↔ bytes = encode s := by
  refine ⟨fun h => ?_, fun h => h ▸ decode_encode s⟩
  rw [decode] at h
  rcases hread : decodeFrom [] 0 none bytes with flaw | cs <;> rw [hread] at h
  · cases h
  · obtain rfl := Except.ok.inj h
    obtain ⟨read, rfl, rfl⟩ := exists_chars hread
    rw [encode, String.toList_ofList]

/-- Texts are encoded one after the other. -/
theorem encode_append (s t : String) : encode (s ++ t) = encode s ++ encode t := by
  rw [encode, String.toList_append, List.flatMap_append, encode, encode]

end Utf8

namespace Text

/-! ### Numerals -/

/-- Digits are read as the number they are the decimals of. -/
theorem digits?_eq_some {cs : List Char} (hne : cs ≠ []) (hdigits : ∀ c ∈ cs, c.isDigit) :
    digits? cs = some (Nat.ofDigitChars 10 cs 0) := by
  have hall : cs.all isDigit := List.all_eq_true.2 hdigits
  rw [digits?, hall, List.isEmpty_eq_false_iff.2 hne]
  simp only [Nat.ofDigitChars, Nat.mul_comm, Bool.not_false, Bool.and_self, if_true]

/-- **A numeral is read**, with a plus sign before its digits or without. -/
theorem natural?_append {sign digits : List Char} (hsign : sign = [] ∨ sign = ['+'])
    (hne : digits ≠ []) (hdigits : ∀ c ∈ digits, c.isDigit) :
    natural? (String.ofList (sign ++ digits)) = some (Nat.ofDigitChars 10 digits 0) := by
  rw [natural?, String.toList_ofList]
  rcases hsign with rfl | rfl
  · rw [List.nil_append]
    split
    · exact absurd (hdigits '+' List.mem_cons_self) (by decide)
    · exact digits?_eq_some hne hdigits
  · exact digits?_eq_some hne hdigits

/-- A number is written as its decimals. -/
theorem toList_toString (n : Nat) : (toString n).toList = Nat.toDigits 10 n := by
  rw [Nat.toString_eq_ofList_toDigits, String.toList_ofList]

/-- Decimals are digits. -/
theorem isDigit_of_mem_toDigits {n : Nat} {c : Char} (hc : c ∈ Nat.toDigits 10 n) : c.isDigit :=
  Nat.isDigit_of_mem_toDigits (by decide) (by decide) hc

/-- **A natural number is read back from its digits**, which have no sign before them. -/
theorem natural?_toString (n : Nat) : natural? (toString n) = some n := by
  rw [Nat.toString_eq_ofList_toDigits, ← List.nil_append (Nat.toDigits 10 n),
    natural?_append (.inl rfl) Nat.toDigits_ne_nil fun _ => isDigit_of_mem_toDigits,
    Nat.ofDigitChars_ten_toDigits]

/-- A machine word is read from its decimals, with a plus sign or none before them. -/
theorem uint64?_append {sign digits : List Char} (hsign : sign = [] ∨ sign = ['+'])
    (hne : digits ≠ []) (hdigits : ∀ c ∈ digits, c.isDigit)
    (hlt : Nat.ofDigitChars 10 digits 0 < UInt64.size) :
    uint64? (String.ofList (sign ++ digits)) =
      some (UInt64.ofNat (Nat.ofDigitChars 10 digits 0)) := by
  rw [uint64?, natural?_append hsign hne hdigits, Option.bind_some, if_pos hlt]

end Text
end DebugConsole
