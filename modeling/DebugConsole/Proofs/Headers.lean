/-
# Headers are read generously, bodies to the byte

| in a header block | |
| --- | --- |
| a line feed, with a carriage return before it or without | ends a line |
| a line named `Content-Length`, in any case, between any blanks | gives a length, the last counts |
| any other line with a colon | makes no difference |

A block announces a length if all its lines of that name can be read and the last of them gives it
(`Announces`).  What stands in the block besides is passed over line by line (`scan_announced`), so
the body begins where the block ends, and what stands behind the body is left for the next reading.

Of other streams only this much is true: where nothing more comes, reading ends in one of four ways
(`Ends`), behind a part of the stream that was consumed.
-/

import DebugConsole.Proofs.Framing

namespace DebugConsole

namespace Text

/-! ### Words between blanks -/

/-- The characters are a word, with blanks before and behind it. -/
def Padded (word cs : List Char) : Prop :=
  ∃ before after, cs = before ++ word ++ after ∧ (∀ c ∈ before, isBlank c) ∧
    ∀ c ∈ after, isBlank c

/-- What is dropped at the end are characters that may be. -/
theorem exists_dropEndWhile_append (p : Char → Bool) (cs : List Char) :
    ∃ tail, cs = dropEndWhile p cs ++ tail ∧ ∀ c ∈ tail, p c := by
  refine ⟨(cs.reverse.takeWhile p).reverse, ?_, fun c hc => ?_⟩
  · rw [dropEndWhile, ← List.reverse_append, List.takeWhile_append_dropWhile, List.reverse_reverse]
  · exact List.mem_takeWhile_imp (List.mem_reverse.1 hc)

/-- What is trimmed off a line are blanks at both ends. -/
theorem padded_trimChars (cs : List Char) : Padded (trimChars cs) cs := by
  obtain ⟨after, hafter, hblank⟩ := exists_dropEndWhile_append isBlank (cs.dropWhile isBlank)
  refine ⟨cs.takeWhile isBlank, after, ?_, fun c => List.mem_takeWhile_imp, hblank⟩
  rw [trimChars, List.append_assoc, ← hafter, List.takeWhile_append_dropWhile]

namespace Padded

variable {word cs : List Char}

/-- A word between blanks is what is left. -/
theorem trimChars_eq (h : Padded word cs) (hword : ∀ c ∈ word, isBlank c = false) :
    trimChars cs = word := by
  obtain ⟨before, after, rfl, hbefore, hafter⟩ := h
  exact Text.trimChars_append hbefore (fun c hc => hword c (List.mem_of_mem_head? hc))
    (fun c hc => hword c (List.mem_of_mem_getLast? hc)) hafter

/-- More blanks at the end make no difference. -/
theorem append (h : Padded word cs) {tail : List Char} (htail : ∀ c ∈ tail, isBlank c) :
    Padded word (cs ++ tail) := by
  obtain ⟨before, after, rfl, hbefore, hafter⟩ := h
  refine ⟨before, after ++ tail, List.append_assoc .., hbefore, fun c hc => ?_⟩
  exact (List.mem_append.1 hc).elim (hafter c) (htail c)

/-- What goes from the end of a padded word does not touch the word. -/
theorem dropEndWhile (h : Padded word cs) {p : Char → Bool} (hne : word ≠ [])
    (hword : ∀ c ∈ word, p c = false) : Padded word (Text.dropEndWhile p cs) := by
  obtain ⟨before, after, rfl, hbefore, hafter⟩ := h
  obtain ⟨front, last, rfl⟩ : ∃ front last, word = front ++ [last] :=
    ⟨_, _, (List.dropLast_append_getLast hne).symm⟩
  have hlast : p last = false := hword last List.mem_concat_self
  refine ⟨before, Text.dropEndWhile p after, ?_, hbefore, fun c hc => ?_⟩
  · rw [← List.append_assoc before, List.append_assoc, List.singleton_append,
      dropEndWhile_append_cons hlast, List.append_assoc (before ++ front), List.singleton_append]
  · obtain ⟨tail, htail, -⟩ := exists_dropEndWhile_append p after
    exact hafter c (htail ▸ List.mem_append_left tail hc)

end Padded

/-- Blanks have no case. -/
theorem toLower_of_isBlank {c : Char} (h : isBlank c) : c.toLower = c := by
  refine dif_neg ?_
  rintro ⟨hlow, hhigh⟩
  simp only [isBlank, Bool.or_eq_true, Bool.and_eq_true, decide_eq_true_eq] at h
  have hlow : 65 ≤ c.toNat := hlow
  have hhigh : c.toNat ≤ 90 := hhigh
  omega

end Text

namespace Frame

/-! ### Header lines -/

/-- A header line as it may be written: any text on one line that has a colon, and the end of the
line. -/
structure HeaderLine where
  text : String
  /-- A carriage return goes before the line feed. -/
  returned : Bool := false
  colon_mem : ':' ∈ text.toList
  feed_notMem : '\n' ∉ text.toList

/-- The end of a line. -/
def lineEnd (returned : Bool) : String := if returned then "\r\n" else "\n"

namespace HeaderLine

def bytes (l : HeaderLine) : List UInt8 := Utf8.encode (l.text ++ lineEnd l.returned)

/-- What stands before the first colon. -/
def name (l : HeaderLine) : List Char := l.text.toList.takeWhile (· ≠ ':')

/-- What stands behind the first colon. -/
def value (l : HeaderLine) : List Char := (l.text.toList.dropWhile (· ≠ ':')).tail

/-- The line is named `Content-Length`, in any case and between any blanks. -/
def IsLength (l : HeaderLine) : Prop :=
  ∃ word, Text.Padded word l.name ∧ word.map Char.toLower = lengthName

/-- The value of the line is a decimal numeral, between any blanks. -/
def Gives (l : HeaderLine) (n : Nat) : Prop :=
  ∃ sign digits, Text.Padded (sign ++ digits) l.value ∧ (sign = [] ∨ sign = ['+']) ∧
    digits ≠ [] ∧ (∀ c ∈ digits, c.isDigit) ∧ Nat.ofDigitChars 10 digits 0 = n

variable {ended : Bool} {length? : Option Nat} {rest : List UInt8} {n : Nat}

/-- A header is its name and its value, with a colon between them. -/
theorem toList_text (l : HeaderLine) : l.text.toList = l.name ++ ':' :: l.value := by
  have hsplit : l.name ++ l.text.toList.dropWhile (· ≠ ':') = l.text.toList :=
    List.takeWhile_append_dropWhile
  have hne : l.text.toList.dropWhile (· ≠ ':') ≠ [] := fun hnil => by
    have hother := List.dropWhile_eq_nil_iff.1 hnil ':' l.colon_mem
    exact absurd hother (by decide)
  have hhead : (l.text.toList.dropWhile (· ≠ ':')).head hne = ':' := by
    have hcolon := List.head_dropWhile_not (fun c : Char => decide (c ≠ ':')) hne
    simpa using hcolon
  rw [← hsplit, value]
  conv_lhs => rw [← List.cons_head_tail hne, hhead]

/-- The name of a header ends at the first colon. -/
theorem colon_notMem_name (l : HeaderLine) : ':' ∉ l.name := fun hmem => by
  have hother := List.mem_takeWhile_imp hmem
  exact absurd hother (by decide)

/-- Whether a line is named so is seen from its name without the blanks at both ends. -/
theorem isLength_iff (l : HeaderLine) :
    l.IsLength ↔ (Text.trimChars l.name).map Char.toLower = lengthName := by
  refine ⟨fun ⟨word, hpadded, hword⟩ => ?_, fun h => ⟨_, Text.padded_trimChars _, h⟩⟩
  have hvisible : ∀ c ∈ word, Text.isBlank c = false := fun c hc => by
    by_contra hblank
    rw [Bool.not_eq_false] at hblank
    have hmem : c ∈ lengthName := by
      rw [← hword, ← Text.toLower_of_isBlank hblank]
      exact List.mem_map_of_mem hc
    have hname : lengthName.any Text.isBlank = false := rfl
    exact List.any_eq_false.1 hname c hmem hblank
  rw [hpadded.trimChars_eq hvisible, hword]

instance (l : HeaderLine) : Decidable l.IsLength := decidable_of_iff' _ l.isLength_iff

/-- The end of a line is part of its value. -/
theorem dropEndWhile_text (l : HeaderLine) (tail : List Char) :
    Text.dropEndWhile isLineEnd (l.text.toList ++ tail) =
      l.name ++ ':' :: Text.dropEndWhile isLineEnd (l.value ++ tail) := by
  rw [toList_text, List.append_assoc, List.cons_append, Text.dropEndWhile_append_cons (by decide)]

/-- The length is found in front of the end of the line. -/
theorem ofLine_gives {l : HeaderLine} (hlength : l.IsLength) (h : l.Gives n)
    (hn : n < UInt64.size) {tail : List Char} (htail : ∀ c ∈ tail, Text.isBlank c) :
    Header.ofLine (Text.dropEndWhile isLineEnd (l.text.toList ++ tail)) = .ok (.length n) := by
  obtain ⟨sign, digits, hpadded, hsign, hne, hdigits, rfl⟩ := h
  have hvisible : ∀ c ∈ sign ++ digits, Text.isBlank c = false := fun c hc => by
    rcases List.mem_append.1 hc with hc | hc
    · rcases hsign with rfl | rfl
      · exact absurd hc List.not_mem_nil
      · rw [List.mem_singleton.1 hc]
        decide
    · exact Text.isBlank_of_isDigit (hdigits c hc)
  have hwhole : Text.Padded (sign ++ digits) (Text.dropEndWhile isLineEnd (l.value ++ tail)) :=
    (hpadded.append htail).dropEndWhile (List.append_ne_nil_of_right_ne_nil _ hne)
      fun c hc => isLineEnd_of_not_isBlank (hvisible c hc)
  rw [dropEndWhile_text, ofLine_colon l.colon_notMem_name, if_pos (l.isLength_iff.1 hlength),
    hwhole.trimChars_eq hvisible, Text.uint64?_append hsign hne hdigits hn]
  simp only [UInt64.toNat_ofNat_of_lt' hn]

/-- A header of another name is ignored. -/
theorem ofLine_other {l : HeaderLine} (hother : ¬ l.IsLength) (tail : List Char) :
    Header.ofLine (Text.dropEndWhile isLineEnd (l.text.toList ++ tail)) = .ok .ignored := by
  rw [dropEndWhile_text, ofLine_colon l.colon_notMem_name, if_neg (mt l.isLength_iff.2 hother)]

/-- A header is read up to its line end, and then what it says is heeded. -/
theorem scan_bytes (l : HeaderLine) (ended length? rest) : ∃ tail, (∀ c ∈ tail, Text.isBlank c) ∧
    scan ended [] length? (l.bytes ++ rest) = proceed ended length? rest
      (Header.ofLine (Text.dropEndWhile isLineEnd (l.text.toList ++ tail))) := by
  have hreturn : '\n' ∉ (if l.returned then "\r" else "").toList := by
    cases l.returned <;> decide
  have hend : lineEnd l.returned = (if l.returned then "\r" else "") ++ "\n" := by
    cases l.returned <;> rfl
  have hblank : ∀ c ∈ (if l.returned then "\r" else "").toList, Text.isBlank c := by
    cases l.returned <;> exact List.all_eq_true.1 rfl
  generalize (if l.returned then "\r" else "") = returned at hreturn hend hblank
  have hfeed : '\n' ∉ (l.text ++ returned).toList := by
    rw [String.toList_append]
    exact fun hmem => (List.mem_append.1 hmem).elim l.feed_notMem hreturn
  refine ⟨returned.toList, hblank, ?_⟩
  rw [bytes, hend, ← String.append_assoc, scan_feed hfeed, String.toList_append]

/-- A header of the length gives the length. -/
theorem scan_gives {l : HeaderLine} (hlength : l.IsLength) (h : l.Gives n) (hn : n < UInt64.size) :
    scan ended [] length? (l.bytes ++ rest) = scan ended [] (some n) rest := by
  obtain ⟨tail, htail, hscan⟩ := l.scan_bytes ended length? rest
  rw [hscan, ofLine_gives hlength h hn htail]
  rfl

/-- A header of another name changes nothing. -/
theorem scan_other {l : HeaderLine} (hother : ¬ l.IsLength) :
    scan ended [] length? (l.bytes ++ rest) = scan ended [] length? rest := by
  obtain ⟨tail, -, hscan⟩ := l.scan_bytes ended length? rest
  rw [hscan, ofLine_other hother]
  rfl

end HeaderLine

/-! ### Header blocks -/

/-- All lines of a block that are named so give a length, and the last of them gives this one. -/
structure Announces (block : List HeaderLine) (n : Nat) : Prop where
  readable : ∀ l ∈ block, l.IsLength → ∃ m, l.Gives m ∧ m < UInt64.size
  last : ∃ before line after, block = before ++ line :: after ∧ line.IsLength ∧ line.Gives n ∧
    ∀ l ∈ after, ¬ l.IsLength

variable {ended : Bool} {length? : Option Nat} {rest : List UInt8} {block : List HeaderLine}
  {n : Nat}

/-- Headers that can be read are read to the end of their block. -/
theorem scan_readable (h : ∀ l ∈ block, l.IsLength → ∃ m, l.Gives m ∧ m < UInt64.size)
    (ended length? rest) : ∃ length'?,
      scan ended [] length? (block.flatMap HeaderLine.bytes ++ rest) =
        scan ended [] length'? rest := by
  induction block generalizing length? with
  | nil => exact ⟨length?, rfl⟩
  | cons l block ih =>
    have hblock (l) (hl : l ∈ block) := h l (List.mem_cons_of_mem _ hl)
    rw [List.flatMap_cons, List.append_assoc]
    by_cases hlength : l.IsLength
    · obtain ⟨m, hgives, hm⟩ := h l List.mem_cons_self hlength
      rw [HeaderLine.scan_gives hlength hgives hm]
      exact ih hblock _
    · rw [HeaderLine.scan_other hlength]
      exact ih hblock _

/-- Headers of other names change nothing. -/
theorem scan_others (h : ∀ l ∈ block, ¬ l.IsLength) :
    scan ended [] length? (block.flatMap HeaderLine.bytes ++ rest) =
      scan ended [] length? rest := by
  induction block with
  | nil => rfl
  | cons l block ih =>
    rw [List.flatMap_cons, List.append_assoc, HeaderLine.scan_other (h l List.mem_cons_self)]
    exact ih fun l hl => h l (List.mem_cons_of_mem _ hl)

/-- A block leaves the length that it announces. -/
theorem scan_announced (h : Announces block n) (hn : n < UInt64.size) :
    scan ended [] length? (block.flatMap HeaderLine.bytes ++ rest) =
      scan ended [] (some n) rest := by
  obtain ⟨before, line, after, rfl, hlength, hgives, hafter⟩ := h.last
  have hbefore : ∀ l ∈ before, l.IsLength → ∃ m, l.Gives m ∧ m < UInt64.size := fun l hl =>
    h.readable l (List.mem_append_left _ hl)
  rw [List.flatMap_append, List.flatMap_cons, List.append_assoc, List.append_assoc]
  obtain ⟨length'?, hscan⟩ := scan_readable hbefore ended length?
    (line.bytes ++ (after.flatMap HeaderLine.bytes ++ rest))
  rw [hscan, HeaderLine.scan_gives hlength hgives hn, scan_others hafter]

/-- An empty line ends the headers. -/
theorem scan_lineEnd (returned : Bool) :
    scan ended [] length? (Utf8.encode (lineEnd returned) ++ rest) = body ended length? rest := by
  cases returned with
  | false =>
    have hfeed : '\n' ∉ "".toList := List.not_mem_nil
    exact scan_feed hfeed
  | true => exact scan_blank

/-! ### Any stream -/

/-- How reading a stream can end where nothing more comes: a part of the stream is consumed. -/
inductive Ends (stream : List UInt8) : Outcome → Prop
  | message (text : String) {rest : List UInt8} (h : rest <:+ stream) :
    Ends stream (.message text rest)
  | protocol (problem : ProtocolProblem) {rest : List UInt8} (h : rest <:+ stream) :
    Ends stream (.failed (.protocol problem) rest)
  | crashed {rest : List UInt8} (h : rest <:+ stream) : Ends stream (.failed .adapterCrashed rest)
  | inputOutput (reason : String) {rest : List UInt8} (h : rest <:+ stream) :
    Ends stream (.failed (.inputOutput reason) rest)

/-- What ends a stream ends one with more before it. -/
theorem Ends.mono {stream whole : List UInt8} {outcome : Outcome} (h : Ends stream outcome)
    (hsuffix : stream <:+ whole) : Ends whole outcome := by
  cases h with
  | message text h => exact .message text (h.trans hsuffix)
  | protocol problem h => exact .protocol problem (h.trans hsuffix)
  | crashed h => exact .crashed (h.trans hsuffix)
  | inputOutput reason h => exact .inputOutput reason (h.trans hsuffix)

/-- A body comes to an end on every stream that does. -/
theorem ends_body (length? : Option Nat) (stream : List UInt8) :
    Ends stream (body true length? stream) := by
  cases length? with
  | none => exact .protocol _ (List.suffix_refl _)
  | some n =>
    simp only [body, if_true]
    split_ifs
    · exact .protocol _ (List.suffix_refl _)
    · exact .crashed (List.nil_suffix ..)
    · cases Utf8.decode (stream.take n) with
      | ok text => exact .message text (List.drop_suffix ..)
      | error flaw => exact .protocol _ (List.drop_suffix ..)

/-- A header line is refused because of its bytes or because of its text. -/
theorem ends_refused {stream rest line : List UInt8} {e : Error}
    (h : Header.ofBytes line = .error e) (hrest : rest <:+ stream) :
    Ends stream (.failed e rest) := by
  rw [Header.ofBytes] at h
  cases hdecode : Utf8.decode line with
  | error flaw =>
    rw [hdecode] at h
    cases h
    exact .inputOutput _ hrest
  | ok text =>
    rw [hdecode] at h
    dsimp only at h
    cases hline : Header.ofLine (Text.dropEndWhile isLineEnd text.toList) with
    | error problem =>
      rw [hline] at h
      cases h
      exact .protocol problem hrest
    | ok header =>
      rw [hline] at h
      cases h

/-- Inside a header block, whatever was read of it before. -/
theorem ends_scan (line : List UInt8) (length? : Option Nat) (stream : List UInt8) :
    Ends stream (scan true line length? stream) := by
  induction stream generalizing line length? with
  | nil =>
    simp only [scan, Bool.not_true, Bool.false_eq_true, if_false]
    split_ifs
    · exact .crashed (List.suffix_refl _)
    rcases hheader : Header.ofBytes line.reverse with e | _ | _ | n
    · exact ends_refused hheader (List.suffix_refl _)
    · exact ends_body length? []
    · exact .crashed (List.suffix_refl _)
    · exact .crashed (List.suffix_refl _)
  | cons byte rest ih =>
    have hrest : rest <:+ byte :: rest := List.suffix_cons byte rest
    simp only [scan]
    split_ifs
    · rcases hheader : Header.ofBytes (byte :: line).reverse with e | _ | _ | n
      · exact ends_refused hheader hrest
      · exact (ends_body length? rest).mono hrest
      · exact (ih [] length?).mono hrest
      · exact (ih [] (some n)).mono hrest
    · exact (ih (byte :: line) length?).mono hrest

/-- **Headers are read generously, bodies to the byte.**  Behind a header block that announces a
length, whatever else stands in it, just so many bytes are read: as the text whose bytes they are,
or refused if there is none.  The next reading begins right behind them.  And reading any stream
ends with a text, as a breach of the protocol, as a crash of the adapter or as a failure of
input. -/
theorem headers_tolerated :
    (∀ block n content, Announces block n → n ≤ maxLength → content.length = n →
      ∀ returned ended rest,
        let stream := block.flatMap HeaderLine.bytes ++ Utf8.encode (lineEnd returned) ++ content ++
          rest
        (∀ text, content = Utf8.encode text → next ended stream = .message text rest) ∧
        ((∀ text, content ≠ Utf8.encode text) →
          ∃ flaw, next ended stream = .failed (.protocol (.bodyNotText flaw)) rest)) ∧
    ∀ stream, Ends stream (next true stream) := by
  refine ⟨fun block n content hblock hn hcontent returned ended rest => ?_, ends_scan [] none⟩
  have hread : next ended (block.flatMap HeaderLine.bytes ++ Utf8.encode (lineEnd returned) ++
      content ++ rest) = body ended (some n) (content ++ rest) := by
    have hlt : n < UInt64.size := Nat.lt_of_le_of_lt hn (by decide)
    rw [next, List.append_assoc, List.append_assoc, scan_announced hblock hlt, scan_lineEnd]
  dsimp only
  rw [hread, body_append hn hcontent]
  constructor
  · rintro text rfl
    rw [Utf8.decode_encode]
  · intro hother
    cases hdecode : Utf8.decode content with
    | ok text => exact absurd (Utf8.decode_eq_ok_iff.1 hdecode) (hother text)
    | error flaw => exact ⟨flaw, rfl⟩

/-- A length with a sign, zeros and blanks around it. -/
def paddedLine : HeaderLine where
  text := "\tCONTENT-Length :\u00a0+002 "
  returned := true
  colon_mem := by decide
  feed_notMem := by decide

theorem gives_paddedLine : paddedLine.Gives 2 :=
  ⟨['+'], "002".toList,
    ⟨['\u00a0'], [' '], by decide, List.all_eq_true.1 rfl, List.all_eq_true.1 rfl⟩, .inr rfl,
    by decide, List.all_eq_true.1 rfl, by decide⟩

/-- A length that does not count, one that does, and lines of other names, one of which has none. -/
def mixedBlock : List HeaderLine :=
  [ { text := "Content-Type: json", returned := true
      colon_mem := by decide, feed_notMem := by decide },
    { text := "content-length:99"
      colon_mem := by decide, feed_notMem := by decide },
    paddedLine,
    { text := ": Content-Length: 7"
      colon_mem := by decide, feed_notMem := by decide } ]

theorem announces_mixedBlock : Announces mixedBlock 2 where
  readable l hl hlength := by
    simp only [mixedBlock, List.mem_cons, List.not_mem_nil, or_false] at hl
    rcases hl with rfl | rfl | rfl | rfl
    · exact absurd hlength (by decide)
    · exact ⟨99, ⟨[], "99".toList, ⟨[], [], by decide, fun _ => nofun, fun _ => nofun⟩, .inl rfl,
        by decide, List.all_eq_true.1 rfl, by decide⟩, by decide⟩
    · exact ⟨2, gives_paddedLine, by decide⟩
    · exact absurd hlength (by decide)
  last :=
    ⟨mixedBlock.take 2, paddedLine, mixedBlock.drop 3, rfl, by decide, gives_paddedLine, by decide⟩

theorem headers_tolerated_mixed :
    Announces mixedBlock 2 ∧
      next false (mixedBlock.flatMap HeaderLine.bytes ++ [0x0A] ++ [0x7B, 0x7D] ++ [0x0A]) =
        .message "{}" [0x0A] ∧
      ∃ flaw, next true (mixedBlock.flatMap HeaderLine.bytes ++ [0x0D, 0x0A] ++ [0x7B, 0xFF] ++
        [0x0A]) = .failed (.protocol (.bodyNotText flaw)) [0x0A] := by
  have hflaw : Utf8.decode [0x7B, 0xFF] = .error (.broken 1 1) := by decide
  have hother : ∀ text, [0x7B, 0xFF] ≠ Utf8.encode text := fun text h => by
    rw [Utf8.decode_eq_ok_iff.2 h] at hflaw
    cases hflaw
  exact ⟨announces_mixedBlock,
    (headers_tolerated.1 mixedBlock 2 [0x7B, 0x7D] announces_mixedBlock (by decide) rfl false false
      [0x0A]).1 "{}" rfl,
    (headers_tolerated.1 mixedBlock 2 [0x7B, 0xFF] announces_mixedBlock (by decide) rfl true true
      [0x0A]).2 hother⟩

end Frame
end DebugConsole
