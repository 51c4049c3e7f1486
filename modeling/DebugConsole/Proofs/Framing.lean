/-
# A frame is read back as the text it was written for

| bytes of a frame | read by | |
| --- | --- | --- |
| `Content-Length: n`, carriage return, line feed | `scan_length` | the length is `n` |
| carriage return, line feed | `scan_blank` | the header block is over |
| the `n` bytes of the text | `body_encode` | the text, whatever it holds |

The header block is over before the text begins, so a text that looks like header lines, or like
the end of them, makes no difference.  What the length counts is bytes (`Utf8.length_encode`), so a
text of many bytes a character makes none either.
-/

import DebugConsole.Proofs.Decoding
import DebugConsole.Proofs.Words
import DebugConsole.Wire.Frame
import Mathlib.Data.List.TakeWhile

namespace DebugConsole

/-- Only a line feed is written with the byte of a line feed. -/
theorem Utf8.lineFeed_notMem_encode {s : String} (h : '\n' ∉ s.toList) : 0x0A ∉ encode s := by
  intro hmem
  obtain ⟨c, hc, hbyte⟩ := List.mem_flatMap.1 hmem
  have hne : c.val.toNat ≠ 10 := fun heq =>
    h (Char.toNat_inj.1 (show c.toNat = '\n'.toNat from heq) ▸ hc)
  simp only [String.utf8EncodeChar] at hbyte
  split_ifs at hbyte <;>
    simp only [List.mem_cons, List.not_mem_nil, or_false, ← UInt8.toNat_inj, UInt8.toNat_ofNat',
      UInt8.reduceToNat] at hbyte <;>
    omega

namespace Text

/-- What is of a class at the end goes, what is not of it before that stays. -/
theorem dropEndWhile_append {p : Char → Bool} {cs tail : List Char} (hcs : ∀ c ∈ cs, p c = false)
    (htail : ∀ c ∈ tail, p c) : dropEndWhile p (cs ++ tail) = cs := by
  have hkeep : cs.reverse.dropWhile p = cs.reverse := by
    refine List.dropWhile_eq_self_iff.2 fun hlt => ?_
    rw [hcs _ (List.mem_reverse.1 (List.getElem_mem hlt))]
    exact Bool.false_ne_true
  rw [dropEndWhile, List.reverse_append,
    List.dropWhile_append_of_pos fun c hc => htail c (List.mem_reverse.1 hc), hkeep,
    List.reverse_reverse]

/-- Only what stands behind the last character that is not of the class can go. -/
theorem dropEndWhile_append_cons {p : Char → Bool} {c : Char} (hc : p c = false)
    (cs tail : List Char) : dropEndWhile p (cs ++ c :: tail) = cs ++ c :: dropEndWhile p tail := by
  have hkeep : (c :: cs.reverse).dropWhile p = c :: cs.reverse :=
    List.dropWhile_cons_of_neg (by rw [hc]; exact Bool.false_ne_true)
  rw [dropEndWhile, dropEndWhile, List.reverse_append, List.reverse_cons, List.append_assoc,
    List.singleton_append, List.dropWhile_append, hkeep]
  split_ifs with hempty
  · rw [List.isEmpty_iff.1 hempty, List.reverse_cons, List.reverse_reverse]
    rfl
  · rw [List.reverse_append, List.reverse_cons, List.reverse_reverse, List.append_assoc,
      List.singleton_append]

/-- What neither begins nor ends with a blank is found between blanks. -/
theorem trimChars_append {before word after : List Char} (hbefore : ∀ c ∈ before, isBlank c)
    (hfirst : ∀ c ∈ word.head?, isBlank c = false) (hlast : ∀ c ∈ word.getLast?, isBlank c = false)
    (hafter : ∀ c ∈ after, isBlank c) : trimChars (before ++ word ++ after) = word := by
  have hnone : dropEndWhile isBlank ([] ++ after) = [] :=
    dropEndWhile_append (fun _ => nofun) hafter
  rw [trimChars, List.append_assoc, List.dropWhile_append_of_pos hbefore]
  cases word with
  | nil =>
    rw [List.nil_append, List.dropWhile_eq_nil_iff.2 hafter]
    rfl
  | cons c word =>
    have hsplit := List.dropLast_append_getLast (List.cons_ne_nil c word)
    have hend := hlast _ (List.getLast?_eq_some_getLast (List.cons_ne_nil c word))
    rw [List.cons_append, List.dropWhile_cons_of_neg (by simp [hfirst c rfl]), ← List.cons_append,
      ← hsplit, List.append_assoc, List.singleton_append, dropEndWhile_append_cons hend]
    exact congrArg _ (congrArg _ hnone)

end Text

namespace Frame

/-- What is not blank does not end a line. -/
theorem isLineEnd_of_not_isBlank {c : Char} (h : Text.isBlank c = false) : isLineEnd c = false := by
  rw [isLineEnd, Bool.or_eq_false_iff, decide_eq_false_iff_not, decide_eq_false_iff_not]
  constructor
  · rintro rfl
    exact absurd h (by decide)
  · rintro rfl
    exact absurd h (by decide)

variable {ended : Bool} {length? : Option Nat} {rest : List UInt8}

/-- Bytes without a line feed among them belong to the line that has begun. -/
theorem scan_append {bytes line : List UInt8} (h : 0x0A ∉ bytes) :
    scan ended line length? (bytes ++ rest) = scan ended (bytes.reverse ++ line) length? rest := by
  induction bytes generalizing line with
  | nil => rfl
  | cons byte bytes ih =>
    have hbyte : byte ≠ 0x0A := fun heq => h (heq ▸ List.mem_cons_self)
    have hbytes : 0x0A ∉ bytes := fun hmem => h (List.mem_cons_of_mem _ hmem)
    rw [List.cons_append, scan, if_neg hbyte, ih hbytes, List.reverse_cons, List.append_assoc,
      List.singleton_append]

/-- How reading goes on behind a header line. -/
def proceed (ended : Bool) (length? : Option Nat) (rest : List UInt8) :
    Except ProtocolProblem Header → Outcome
  | .error problem => .failed (.protocol problem) rest
  | .ok .blank => body ended length? rest
  | .ok .ignored => scan ended [] length? rest
  | .ok (.length n) => scan ended [] (some n) rest

/-- A line up to its line feed is read without the line end. -/
theorem scan_feed {line : String} (hfeed : '\n' ∉ line.toList) :
    scan ended [] length? (Utf8.encode (line ++ "\n") ++ rest) =
      proceed ended length? rest (Header.ofLine (Text.dropEndWhile isLineEnd line.toList)) := by
  have hdrop : Text.dropEndWhile isLineEnd (line ++ "\n").toList =
      Text.dropEndWhile isLineEnd line.toList := by
    rw [String.toList_append, Text.dropEndWhile, List.reverse_append]
    rfl
  have hread : Header.ofBytes (Utf8.encode (line ++ "\n")) =
      (Header.ofLine (Text.dropEndWhile isLineEnd line.toList)).mapError .protocol := by
    rw [Header.ofBytes, Utf8.decode_encode]
    simp only [hdrop]
  have hbyte : Utf8.encode "\n" = [0x0A] := rfl
  rw [Utf8.encode_append, hbyte] at hread
  rw [Utf8.encode_append, hbyte, List.append_assoc, scan_append (Utf8.lineFeed_notMem_encode hfeed),
    List.append_nil, List.singleton_append, scan, if_pos rfl, List.reverse_cons,
    List.reverse_reverse, hread]
  rcases Header.ofLine (Text.dropEndWhile isLineEnd line.toList) with problem | _ | _ | n <;> rfl

theorem append_lineEnd (line : String) : line ++ "\r\n" = line ++ "\r" ++ "\n" := by
  rw [String.append_assoc]
  rfl

/-- A line that is given out by itself has no line feed before its end. -/
theorem feed_notMem_append_return {line : String} (hline : ∀ c ∈ line.toList, isLineEnd c = false) :
    '\n' ∉ (line ++ "\r").toList := by
  rw [String.toList_append]
  intro hmem
  rcases List.mem_append.1 hmem with hmem | hmem
  · exact absurd (hline _ hmem) (by decide)
  · exact absurd hmem (by decide)

/-- A header line as it is written: its characters, none of which ends a line, and a line end. -/
theorem scan_line {line : String} {header : Header} (hline : ∀ c ∈ line.toList, isLineEnd c = false)
    (hheader : Header.ofLine line.toList = .ok header) :
    scan ended [] length? (Utf8.encode (line ++ "\r\n") ++ rest) =
      proceed ended length? rest (.ok header) := by
  have hdrop : Text.dropEndWhile isLineEnd (line ++ "\r").toList = line.toList := by
    rw [String.toList_append]
    exact Text.dropEndWhile_append hline (List.all_eq_true.1 rfl)
  rw [append_lineEnd, scan_feed (feed_notMem_append_return hline), hdrop, hheader]

/-- The empty line ends the header block. -/
theorem scan_blank :
    scan ended [] length? (Utf8.encode "\r\n" ++ rest) = body ended length? rest := by
  have hline : ∀ c ∈ "".toList, isLineEnd c = false := fun _ hc => absurd hc List.not_mem_nil
  have hheader : Header.ofLine "".toList = .ok .blank := rfl
  exact scan_line hline hheader

/-- What a line with a colon in it says. -/
theorem ofLine_colon {name : List Char} (h : ':' ∉ name) (value : List Char) :
    Header.ofLine (name ++ ':' :: value) =
      if (Text.trimChars name).map Char.toLower = lengthName then
        match Text.uint64? (String.ofList (Text.trimChars value)) with
        | some n => .ok (.length n.toNat)
        | none => .error (.invalidLength (String.ofList (Text.trimChars value)))
      else .ok .ignored := by
  have hne : (name ++ ':' :: value).isEmpty = false :=
    List.isEmpty_eq_false_iff.2 (List.append_ne_nil_of_right_ne_nil _ (List.cons_ne_nil _ _))
  cases hvalue : Text.uint64? (String.ofList (Text.trimChars value)) <;>
    simp only [Header.ofLine, hne, Bool.false_eq_true, if_false, Text.span_separator h, hvalue]

/-- The name of the line that gives a length, as it is written, is that name. -/
theorem lengthName_eq : (Text.trimChars "Content-Length".toList).map Char.toLower = lengthName := by
  decide

/-- The line that gives a length, at its colon. -/
theorem lengthLine_eq (digits : List Char) : "Content-Length: ".toList ++ digits =
    "Content-Length".toList ++ ':' :: ' ' :: digits := by
  have hname : "Content-Length: ".toList = "Content-Length".toList ++ [':', ' '] := by decide
  rw [hname, List.append_assoc, List.cons_append, List.singleton_append]

/-- A number behind a blank. -/
theorem uint64?_trimChars_digits {digits : List Char} (hne : digits ≠ [])
    (hdigits : ∀ c ∈ digits, c.isDigit) (hlt : Nat.ofDigitChars 10 digits 0 < UInt64.size) :
    Text.uint64? (String.ofList (Text.trimChars (' ' :: digits))) =
      some (UInt64.ofNat (Nat.ofDigitChars 10 digits 0)) := by
  have hvisible (c) (hc : c ∈ digits) := Text.isBlank_of_isDigit (hdigits c hc)
  have htrim : Text.trimChars ([' '] ++ digits ++ []) = [] ++ digits :=
    Text.trimChars_append (List.all_eq_true.1 rfl)
      (fun c hc => hvisible c (List.mem_of_mem_head? hc))
      (fun c hc => hvisible c (List.mem_of_mem_getLast? hc)) fun _ => nofun
  rw [List.append_nil, List.singleton_append] at htrim
  rw [htrim, Text.uint64?_append (.inl rfl) hne hdigits hlt]

/-- The length that is read is the number of the digits. -/
theorem ofLine_digits {digits : List Char} (hne : digits ≠ []) (hdigits : ∀ c ∈ digits, c.isDigit)
    (hlt : Nat.ofDigitChars 10 digits 0 < UInt64.size) :
    Header.ofLine ("Content-Length: ".toList ++ digits) =
      .ok (.length (Nat.ofDigitChars 10 digits 0)) := by
  rw [lengthLine_eq, ofLine_colon (by decide), if_pos lengthName_eq,
    uint64?_trimChars_digits hne hdigits hlt]
  simp only [UInt64.toNat_ofNat_of_lt' hlt]

/-- A header of a length has no line end in it. -/
theorem isLineEnd_of_mem_lengthLine {digits : List Char} (hdigits : ∀ c ∈ digits, c.isDigit)
    {c : Char} (hc : c ∈ "Content-Length: ".toList ++ digits) : isLineEnd c = false := by
  have hname : "Content-Length: ".toList.any isLineEnd = false := rfl
  rcases List.mem_append.1 hc with hc | hc
  · exact Bool.eq_false_iff.2 (List.any_eq_false.1 hname c hc)
  · exact isLineEnd_of_not_isBlank (Text.isBlank_of_isDigit (hdigits c hc))

/-- A length is announced by its decimals. -/
theorem toList_lengthLine (n : Nat) : ("Content-Length: " ++ toString n).toList =
    "Content-Length: ".toList ++ Nat.toDigits 10 n := by
  rw [String.toList_append, Text.toList_toString]

theorem isLineEnd_lengthLine {n : Nat} {c : Char}
    (hc : c ∈ ("Content-Length: " ++ toString n).toList) : isLineEnd c = false := by
  rw [toList_lengthLine] at hc
  exact isLineEnd_of_mem_lengthLine (fun _ => Text.isDigit_of_mem_toDigits) hc

/-- The line that says how long the text is. -/
theorem scan_length {n : Nat} (h : n ≤ maxLength) :
    scan ended [] length? (Utf8.encode ("Content-Length: " ++ toString n ++ "\r\n") ++ rest) =
      scan ended [] (some n) rest := by
  have hlt : n < UInt64.size := Nat.lt_of_le_of_lt h (by decide)
  have hvalue : Nat.ofDigitChars 10 (Nat.toDigits 10 n) 0 = n := Nat.ofDigitChars_ten_toDigits
  have hheader : Header.ofLine ("Content-Length: " ++ toString n).toList = .ok (.length n) := by
    rw [toList_lengthLine, ofLine_digits Nat.toDigits_ne_nil
      (fun _ => Text.isDigit_of_mem_toDigits) (by rwa [hvalue]), hvalue]
  exact scan_line (fun _ => isLineEnd_lengthLine) hheader

/-- A body is as many bytes as were announced, and all behind them is left. -/
theorem body_append {content : List UInt8} {n : Nat} (h : n ≤ maxLength)
    (hcontent : content.length = n) : body ended (some n) (content ++ rest) =
      match Utf8.decode content with
      | .ok text => .message text rest
      | .error flaw => .failed (.protocol (.bodyNotText flaw)) rest := by
  have hlong : ¬ (content ++ rest).length < n := by
    rw [List.length_append]
    omega
  cases hdecode : Utf8.decode content <;>
    simp only [body, if_neg (Nat.not_lt.2 h), if_neg hlong, List.take_left' hcontent,
      List.drop_left' hcontent, hdecode]

/-- The bytes of a text are a body of that length. -/
theorem body_encode {text : String} (h : Utf8.size text ≤ maxLength) :
    body ended (some (Utf8.size text)) (Utf8.encode text ++ rest) = .message text rest := by
  rw [body_append h (Utf8.length_encode text), Utf8.decode_encode]

/-- A frame line by line. -/
theorem write_eq (text : String) : write text =
    Utf8.encode ("Content-Length: " ++ toString (Utf8.size text) ++ "\r\n") ++
      (Utf8.encode "\r\n" ++ Utf8.encode text) := by
  have hend : "\r\n\r\n" = "\r\n" ++ "\r\n" := rfl
  rw [write, hend, ← String.append_assoc, Utf8.encode_append, List.append_assoc]

/-- **A message that was written is read next**, and what follows it is left. -/
theorem next_write_append {text : String} (h : Utf8.size text ≤ maxLength) :
    next ended (write text ++ rest) = .message text rest := by
  rw [next, write_eq, List.append_assoc, List.append_assoc, scan_length h, scan_blank,
    body_encode h]

/-- Messages that were written are read one after the other. -/
theorem results_flatMap_write {texts : List String} (h : ∀ text ∈ texts, Utf8.size text ≤ maxLength)
    (limit : Nat) : results limit (texts.flatMap write) =
      (texts.map Except.ok ++ [Except.error Error.adapterCrashed]).take limit := by
  induction texts generalizing limit with
  | nil =>
    cases limit with
    | zero => rfl
    | succ limit =>
      rw [List.map_nil, List.nil_append, List.take_succ_cons, List.take_nil]
      rfl
  | cons text texts ih =>
    cases limit with
    | zero => rfl
    | succ limit =>
      have htext := h text List.mem_cons_self
      have htexts := ih (fun text hmem => h text (List.mem_cons_of_mem _ hmem)) limit
      rw [List.flatMap_cons, results, next_write_append htext]
      simp only [htexts, List.map_cons, List.cons_append, List.take_succ_cons]

/-- **Reading undoes writing.**  However often it is read, a stream that ends behind the frames of
some texts holds these texts in order and then nothing; and whatever stands behind a frame, whether
or not more may come, the text is read and what stands behind it is left.  A text may be as long as
a body may be, and may hold anything. -/
theorem reading_undoes_writing :
    (∀ texts : List String, (∀ text ∈ texts, Utf8.size text ≤ maxLength) → ∀ limit,
      results limit (texts.flatMap write) =
        (texts.map Except.ok ++ [Except.error Error.adapterCrashed]).take limit) ∧
    ∀ text : String, Utf8.size text ≤ maxLength → ∀ ended rest,
      next ended (write text ++ rest) = .message text rest :=
  ⟨fun _ h => results_flatMap_write h, fun _ h _ _ => next_write_append h⟩

/-- No text, a text that looks like a header block, and a text of more bytes than characters. -/
theorem reading_undoes_writing_lookalike :
    (∀ text ∈ ["", "Content-Length: 1\r\n\r\n", "λ"], Utf8.size text ≤ maxLength) ∧
    results 9 (["", "Content-Length: 1\r\n\r\n", "λ"].flatMap write) =
      [.ok "", .ok "Content-Length: 1\r\n\r\n", .ok "λ", .error .adapterCrashed] ∧
    next false (write "λ" ++ [0x0D, 0x0A]) = .message "λ" [0x0D, 0x0A] := by
  have hsize : ∀ text ∈ ["", "Content-Length: 1\r\n\r\n", "λ"], Utf8.size text ≤ maxLength := by
    decide +kernel
  exact ⟨hsize, reading_undoes_writing.1 _ hsize 9,
    reading_undoes_writing.2 "λ" (hsize "λ" (by decide)) false _⟩

end Frame
end DebugConsole
