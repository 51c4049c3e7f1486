/-
# Where a frame may break off

A stream that ends inside a frame has been cut off by an adapter that crashed.  Reading says so for
nearly every cut:

| the cut falls | reading ends with |
| --- | --- |
| before the frame | a crash |
| into the name or up to the digits (`CutsName`) | a breach: half a line is read as a line |
| into the digits or behind them | a crash: the digits so far are a length |
| between the line ends | a crash |
| before the last line feed, with no body (`LacksFeed`) | the empty text: the line reads as empty |
| into the body, also into a character | a crash: there are too few bytes |

`cut_noticed_iff` is the table as one statement.
-/

import DebugConsole.Proofs.Headers

namespace DebugConsole

namespace Utf8

theorem encode_ascii {cs : List Char} (h : ∀ c ∈ cs, c.toNat < 0x80) :
    encode (String.ofList cs) = cs.map fun c => UInt8.ofNat c.toNat := by
  rw [encode, String.toList_ofList]
  induction cs with
  | nil => rfl
  | cons c cs ih =>
    have hc : c.val.toNat ≤ 0x7F := Nat.le_of_lt_succ (h c List.mem_cons_self)
    have hchar : String.utf8EncodeChar c = [UInt8.ofNat c.toNat] := by
      rw [String.utf8EncodeChar, if_pos hc]
      rfl
    rw [List.flatMap_cons, List.map_cons, hchar, ih fun c hc => h c (List.mem_cons_of_mem _ hc),
      List.singleton_append]

/-- A part of the bytes of an ASCII text is a part of the text. -/
theorem exists_of_prefix_encode {cs : List Char} (hcs : ∀ c ∈ cs, c.toNat < 0x80)
    {bytes : List UInt8} (h : bytes <+: encode (String.ofList cs)) :
    ∃ part, part <+: cs ∧ bytes = encode (String.ofList part) := by
  rw [encode_ascii hcs] at h
  obtain ⟨part, hpart, rfl⟩ := List.prefix_map_iff.1 h
  exact ⟨part, hpart, (encode_ascii fun c hc => hcs c (hpart.subset hc)).symm⟩

end Utf8

/-- A part of two lists ends inside the first or holds all of it. -/
theorem prefix_append_cases {α : Type} {cut front back : List α} (h : cut <+: front ++ back) :
    (cut <+: front ∧ cut ≠ front) ∨ ∃ part, cut = front ++ part ∧ part <+: back := by
  rcases List.prefix_or_prefix_of_prefix h (List.prefix_append front back) with h' | ⟨part, rfl⟩
  · by_cases heq : cut = front
    · exact .inr ⟨[], by rw [heq, List.append_nil], List.nil_prefix⟩
    · exact .inl ⟨h', heq⟩
  · exact .inr ⟨part, rfl, (List.prefix_append_right_inj front).1 h⟩

namespace Frame

/-- The cut falls into the name of the header line, or between it and the digits. -/
def CutsName (cut : List UInt8) : Prop := cut ≠ [] ∧ cut <+: Utf8.encode "Content-Length: "

/-- Nothing is missing but the last line feed of a frame without a body. -/
def LacksFeed (text : String) (cut : List UInt8) : Prop := text = "" ∧ cut = (write text).dropLast

/-! ### Cuts in the header line -/

variable {length? : Option Nat}

/-- A last line without a line feed is read as a line; behind a length the stream is over. -/
theorem scan_unfinished {line : String} (hfeed : '\n' ∉ line.toList) {n : Nat}
    (hline : Header.ofLine (Text.dropEndWhile isLineEnd line.toList) = .ok (.length n)) :
    scan true [] length? (Utf8.encode line) = .failed .adapterCrashed [] := by
  have hread : Header.ofBytes (Utf8.encode line) = .ok (.length n) := by
    rw [Header.ofBytes, Utf8.decode_encode]
    simp only [hline]
    rfl
  have hsome : (Utf8.encode line).reverse.isEmpty = false := by
    rw [List.isEmpty_eq_false_iff, ne_eq, List.reverse_eq_nil_iff]
    intro hnil
    rw [hnil] at hread
    cases hread
  have hscan : scan true [] length? (Utf8.encode line ++ []) =
      scan true ((Utf8.encode line).reverse ++ []) length? [] :=
    scan_append (Utf8.lineFeed_notMem_encode hfeed)
  rw [List.append_nil, List.append_nil] at hscan
  rw [hscan, scan, hsome]
  simp only [Bool.not_true, Bool.false_eq_true, if_false, List.reverse_reverse, hread]

/-- Half a name is no header line, and a name without digits gives no length. -/
theorem next_of_cutsName {cut : List UInt8} (h : CutsName cut) :
    ∃ word, cut = Utf8.encode word ∧ next true cut = .failed (.protocol
      (if ':' ∈ word.toList then .invalidLength "" else .malformedHeader word)) [] := by
  have hcuts : ∀ k < 16,
      let word := String.ofList ("Content-Length: ".toList.take (k + 1))
      (Utf8.encode "Content-Length: ").take (k + 1) = Utf8.encode word ∧
        next true (Utf8.encode word) = .failed (.protocol
          (if ':' ∈ word.toList then .invalidLength "" else .malformedHeader word)) [] := by
    decide +kernel
  obtain ⟨hne, hprefix⟩ := h
  have hlong : cut.length ≤ 16 := hprefix.length_le
  obtain ⟨k, hk⟩ : ∃ k, cut.length = k + 1 :=
    Nat.exists_eq_succ_of_ne_zero fun hzero => hne (List.eq_nil_of_length_eq_zero hzero)
  obtain ⟨hword, hnext⟩ := hcuts k (by omega)
  have hcut := List.prefix_iff_eq_take.1 hprefix
  rw [hk, hword] at hcut
  rw [hcut]
  exact ⟨_, rfl, hnext⟩

theorem le_ofDigitChars (init : Nat) (cs : List Char) : init ≤ Nat.ofDigitChars 10 cs init := by
  induction cs generalizing init with
  | nil => exact Nat.le_refl _
  | cons c cs ih =>
    rw [Nat.ofDigitChars_cons]
    exact Nat.le_trans (by omega) (ih _)

/-- The digits so far are a length, with a carriage return behind them or without. -/
theorem next_digits {n : Nat} (hn : n < UInt64.size) {part : List Char}
    (hpart : part <+: Nat.toDigits 10 n ++ ['\r']) (hne : part ≠ []) :
    next true (Utf8.encode ("Content-Length: " ++ String.ofList part)) =
      .failed .adapterCrashed [] := by
  obtain ⟨digits, tail, rfl, hdigits, hsome, htail⟩ : ∃ digits tail, part = digits ++ tail ∧
      digits <+: Nat.toDigits 10 n ∧ digits ≠ [] ∧ ∀ c ∈ tail, c = '\r' := by
    rcases List.prefix_concat_iff.1 hpart with rfl | hdigits
    · exact ⟨_, ['\r'], rfl, List.prefix_refl _, Nat.toDigits_ne_nil, fun _ => List.mem_singleton.1⟩
    · exact ⟨part, [], (List.append_nil _).symm, hdigits, hne, fun _ => nofun⟩
  have hdigit : ∀ c ∈ digits, c.isDigit := fun c hc =>
    Text.isDigit_of_mem_toDigits (hdigits.subset hc)
  have hvalue : Nat.ofDigitChars 10 digits 0 < UInt64.size := by
    obtain ⟨more, hmore⟩ := hdigits
    have hle := le_ofDigitChars (Nat.ofDigitChars 10 digits 0) more
    rw [← Nat.ofDigitChars_append, hmore, Nat.ofDigitChars_ten_toDigits] at hle
    exact Nat.lt_of_le_of_lt hle hn
  have hchars : ("Content-Length: " ++ String.ofList (digits ++ tail)).toList =
      "Content-Length: ".toList ++ digits ++ tail := by
    rw [String.toList_append, String.toList_ofList (l := digits ++ tail), List.append_assoc]
  have hdrop : Text.dropEndWhile isLineEnd ("Content-Length: ".toList ++ digits ++ tail) =
      "Content-Length: ".toList ++ digits :=
    Text.dropEndWhile_append (fun _ => isLineEnd_of_mem_lengthLine hdigit) fun c hc =>
      htail c hc ▸ rfl
  refine scan_unfinished (n := Nat.ofDigitChars 10 digits 0) ?_ ?_
  · rw [hchars]
    intro hmem
    rcases List.mem_append.1 hmem with hmem | hmem
    · exact absurd (isLineEnd_of_mem_lengthLine hdigit hmem) (by decide)
    · exact absurd (htail _ hmem) (by decide)
  · rw [hchars, hdrop, ofLine_digits hsome hdigit hvalue]

/-! ### Cuts behind the header line -/

/-- Between the line ends, only a carriage return can be taken for something else: for an empty
line, with no body to come. -/
theorem next_lineEnd {n : Nat} (h : n ≤ maxLength) {part : List UInt8} (hpart : part <+: [0x0D]) :
    next true (Utf8.encode ("Content-Length: " ++ toString n ++ "\r\n") ++ part) =
      if part = [0x0D] ∧ n = 0 then .message "" [] else .failed .adapterCrashed [] := by
  rw [next, scan_length h]
  rcases List.prefix_cons_iff.1 hpart with rfl | ⟨rest, rfl, hrest⟩
  · rw [if_neg (by simp)]
    rfl
  · obtain rfl := List.prefix_nil.1 hrest
    have hblank : scan true [] (some n) [0x0D] = body true (some n) [] := rfl
    rw [hblank]
    cases n with
    | zero => rfl
    | succ n =>
      rw [if_neg (by simp)]
      simp only [body, if_neg (Nat.not_lt.2 h), List.length_nil, Nat.succ_pos, if_true]

/-- A body that is too short is waited for in vain. -/
theorem next_body {n : Nat} (h : n ≤ maxLength) {part : List UInt8} (hpart : part.length < n) :
    next true (Utf8.encode ("Content-Length: " ++ toString n ++ "\r\n") ++
      (Utf8.encode "\r\n" ++ part)) = .failed .adapterCrashed [] := by
  rw [next, scan_length h, scan_blank]
  simp only [body, if_neg (Nat.not_lt.2 h), if_pos hpart, if_true]

/-! ### All cuts -/

/-- The header line in the pieces that a cut can fall into. -/
theorem encode_lengthLine (n : Nat) (rest : List UInt8) :
    Utf8.encode ("Content-Length: " ++ toString n ++ "\r\n") ++ rest =
      Utf8.encode "Content-Length: " ++ (Utf8.encode (toString n ++ "\r") ++ ([0x0A] ++ rest)) := by
  have hend : "\r\n" = "\r" ++ "\n" := rfl
  have hfeed : Utf8.encode "\n" = [0x0A] := rfl
  rw [hend, Utf8.encode_append, Utf8.encode_append, Utf8.encode_append, Utf8.encode_append, hfeed]
  simp only [List.append_assoc]

/-- What is read at a cut: a crash, unless it is one of the two kinds that are taken for something
else. -/
inductive Taken (text : String) (cut : List UInt8) : Prop
  | crash (hname : ¬ CutsName cut) (hfeed : ¬ LacksFeed text cut)
    (hnext : next true cut = .failed .adapterCrashed [])
  | name (hname : CutsName cut)
  | feed (hfeed : LacksFeed text cut) (hnext : next true cut = .message "" [])

/-- Behind the name only the length of the cut matters. -/
theorem Taken.crash_of_length {text : String} {part : List UInt8} (hsome : part ≠ [])
    (hlength : text = "" → part.length ≠ 4)
    (hnext : next true (Utf8.encode "Content-Length: " ++ part) = .failed .adapterCrashed []) :
    Taken text (Utf8.encode "Content-Length: " ++ part) := by
  have hname : (Utf8.encode "Content-Length: ").length = 16 := rfl
  refine .crash (fun ⟨_, hprefix⟩ => ?_) (fun ⟨hempty, hcut⟩ => ?_) hnext
  · have hlong := hprefix.length_le
    rw [List.length_append] at hlong
    exact hsome (List.eq_nil_of_length_eq_zero (by omega))
  · subst hempty
    have hwhole : (write "").dropLast.length = 20 := rfl
    have hlong := congrArg List.length hcut
    rw [List.length_append, hname, hwhole] at hlong
    exact hlength rfl (by omega)

/-- Up to the carriage return the digits so far are a length. -/
theorem taken_digits {text : String} (h : Utf8.size text ≤ maxLength) {part : List UInt8}
    (hpart : part <+: Utf8.encode (toString (Utf8.size text) ++ "\r")) :
    Taken text (Utf8.encode "Content-Length: " ++ part) := by
  by_cases hsome : part = []
  · rw [hsome, List.append_nil]
    exact .name ⟨by decide, List.prefix_refl _⟩
  have hlt : Utf8.size text < UInt64.size := Nat.lt_of_le_of_lt h (by decide)
  refine .crash_of_length hsome (fun hempty => ?_) ?_
  · subst hempty
    have hlong : part.length ≤ 2 := hpart.length_le
    omega
  · have hchars : toString (Utf8.size text) ++ "\r" =
        String.ofList (Nat.toDigits 10 (Utf8.size text) ++ ['\r']) := by
      rw [Nat.toString_eq_ofList_toDigits, String.ofList_append]
    have hascii : ∀ c ∈ Nat.toDigits 10 (Utf8.size text) ++ ['\r'], c.toNat < 0x80 := by
      intro c hc
      rcases List.mem_append.1 hc with hc | hc
      · have hdigit := Text.toNat_of_isDigit (Text.isDigit_of_mem_toDigits hc)
        exact Nat.lt_of_le_of_lt hdigit.2 (by decide)
      · rw [List.mem_singleton.1 hc]
        decide
    rw [hchars] at hpart
    obtain ⟨chars, hprefix, rfl⟩ := Utf8.exists_of_prefix_encode hascii hpart
    rw [← Utf8.encode_append]
    exact next_digits hlt hprefix fun hnil => hsome (by rw [hnil]; rfl)

/-- Every proper part of a frame is a cut of one of the three kinds. -/
theorem taken {text : String} (h : Utf8.size text ≤ maxLength) {cut : List UInt8}
    (hcut : cut <+: write text) (hne : cut ≠ write text) : Taken text cut := by
  rw [write_eq, encode_lengthLine] at hcut hne
  -- the parts of a frame one after the other: name, digits, line ends, body
  rcases prefix_append_cases hcut with ⟨hname, -⟩ | ⟨q, rfl, hq⟩
  · by_cases hempty : cut = []
    · subst hempty
      refine .crash (fun hcuts => hcuts.1 rfl) (fun ⟨htext, hfeed⟩ => ?_) rfl
      subst htext
      exact absurd hfeed (by decide)
    · exact .name ⟨hempty, hname⟩
  rcases prefix_append_cases hq with ⟨hdigits, -⟩ | ⟨r, rfl, hr⟩
  · exact taken_digits h hdigits
  rcases prefix_append_cases hr with ⟨hfeed, hnone⟩ | ⟨t, rfl, ht⟩
  · rcases List.prefix_cons_iff.1 hfeed with rfl | ⟨rest, rfl, hrest⟩
    · exact taken_digits h (List.append_nil _ ▸ List.prefix_refl _)
    · exact absurd (by rw [List.prefix_nil.1 hrest]) hnone
  rcases prefix_append_cases ht with ⟨hend, hnone⟩ | ⟨v, rfl, hv⟩
  · -- of the empty line at most the carriage return has come
    have hreturn : t <+: [0x0D] := by
      have hend : t <+: [0x0D] ++ [0x0A] := hend
      exact (List.prefix_concat_iff.1 hend).resolve_left hnone
    have hnext := next_lineEnd h hreturn
    rw [encode_lengthLine] at hnext
    split_ifs at hnext with hfeed
    · have htext : text = "" := String.utf8ByteSize_eq_zero_iff.1 hfeed.2
      refine .feed ⟨htext, ?_⟩ hnext
      rw [hfeed.1, htext]
      rfl
    · refine .crash_of_length (by simp) (fun htext => ?_) hnext
      subst htext
      rcases List.prefix_cons_iff.1 hreturn with rfl | ⟨rest, rfl, hrest⟩
      · decide
      · exact absurd ⟨by rw [List.prefix_nil.1 hrest], rfl⟩ hfeed
  · -- a part of the body that is not all of it is too short
    have hbody : v ≠ Utf8.encode text := fun heq => hne (by rw [heq])
    have hshort : v.length < Utf8.size text := by
      rw [← Utf8.length_encode]
      exact Nat.lt_of_le_of_ne hv.length_le fun hlength => hbody (hv.eq_of_length hlength)
    have hnext := next_body h hshort
    rw [encode_lengthLine] at hnext
    refine .crash_of_length (by simp) (fun htext => ?_) hnext
    rw [htext] at hshort
    exact absurd hshort (Nat.not_lt_zero _)

/-- **Where a cut is noticed.**  A frame that breaks off is read as a crash of the adapter if and
only if the cut falls neither into the name of the header line nor, in a frame without a body,
before the last line feed.  There it is read as a breach of the protocol, and here as the whole
frame. -/
theorem cut_noticed_iff {text : String} (h : Utf8.size text ≤ maxLength) {cut : List UInt8}
    (hcut : cut <+: write text) (hne : cut ≠ write text) :
    (next true cut = .failed .adapterCrashed [] ↔ ¬ CutsName cut ∧ ¬ LacksFeed text cut) ∧
      (CutsName cut → ∃ word, cut = Utf8.encode word ∧ next true cut = .failed (.protocol
        (if ':' ∈ word.toList then .invalidLength "" else .malformedHeader word)) []) ∧
      (LacksFeed text cut → next true cut = .message "" []) := by
  refine ⟨?_, next_of_cutsName, ?_⟩
  · rcases taken h hcut hne with ⟨hname, hfeed, hnext⟩ | hname | ⟨hfeed, hnext⟩
    · exact iff_of_true hnext ⟨hname, hfeed⟩
    · obtain ⟨word, -, hnext⟩ := next_of_cutsName hname
      exact iff_of_false (by rw [hnext]; simp) fun hneither => hneither.1 hname
    · exact iff_of_false (by rw [hnext]; simp) fun hneither => hneither.2 hfeed
  · rintro ⟨rfl, rfl⟩
    decide +kernel

/-- A frame that is cut off inside a character of two bytes, and inside the name of its header
line. -/
theorem cut_noticed_iff_letter :
    Utf8.size "λ" ≤ maxLength ∧ (write "λ").dropLast <+: write "λ" ∧
      (write "λ").dropLast ≠ write "λ" ∧
      next true (write "λ").dropLast = .failed .adapterCrashed [] ∧
      CutsName ((write "λ").take 7) ∧
      ∃ word, (write "λ").take 7 = Utf8.encode word ∧ next true ((write "λ").take 7) =
        .failed (.protocol
          (if ':' ∈ word.toList then .invalidLength "" else .malformedHeader word)) [] := by
  have hsize : Utf8.size "λ" ≤ maxLength := by decide +kernel
  have hlast : (write "λ").dropLast ≠ write "λ" := by decide +kernel
  have hname : ¬ CutsName (write "λ").dropLast := fun h => absurd h.2 (by decide +kernel)
  have hfeed : ¬ LacksFeed "λ" (write "λ").dropLast := fun h => absurd h.1 (by decide)
  have hcuts : CutsName ((write "λ").take 7) := ⟨by decide +kernel, by decide +kernel⟩
  exact ⟨hsize, List.dropLast_prefix _, hlast,
    (cut_noticed_iff hsize (List.dropLast_prefix _) hlast).1.2 ⟨hname, hfeed⟩, hcuts,
    (cut_noticed_iff hsize (List.take_prefix _ _) (by decide +kernel)).2.1 hcuts⟩

/-- Not every cut is noticed: half the name of a header line is taken for a breach of the
protocol. -/
theorem cut_not_always_noticed :
    ¬ ∀ text : String, Utf8.size text ≤ maxLength → ∀ cut, cut <+: write text →
      cut ≠ write text → next true cut = .failed .adapterCrashed [] := by
  intro h
  have hname := h "\x7b\x7d" (by decide +kernel) (Utf8.encode "Content-Le") (by decide +kernel)
    (by decide +kernel)
  exact absurd hname (by decide +kernel)

end Frame
end DebugConsole
