/-
# Blanks and words

A blank is a character with the Unicode property White_Space.  `words` cuts a
text at its blanks; `trim` drops blanks at both ends.  A word is never empty and
holds no blank (`words_forall_ne_nil`, `words_forall_not_blank`).
-/

namespace DebugConsole
namespace Text

/-- Has the character the property White_Space? -/
def isBlank (c : Char) : Bool :=
  let n := c.toNat
  (0x09 ≤ n && n ≤ 0x0D) || n = 0x20 || n = 0x85 || n = 0xA0 || n = 0x1680 ||
    (0x2000 ≤ n && n ≤ 0x200A) || n = 0x2028 || n = 0x2029 || n = 0x202F ||
    n = 0x205F || n = 0x3000

/-- Drops the characters of a class from the end. -/
def dropEndWhile (p : Char → Bool) (cs : List Char) : List Char :=
  (cs.reverse.dropWhile p).reverse

/-- Drops blanks at both ends. -/
def trimChars (cs : List Char) : List Char := dropEndWhile isBlank (cs.dropWhile isBlank)

/-- Drops blanks at both ends of a text. -/
def trim (s : String) : String := String.ofList (trimChars s.toList)

/-- Puts a word before others unless it is empty; the word comes last character first. -/
def consWord (current : List Char) (words : List (List Char)) : List (List Char) :=
  if current.isEmpty then words else current.reverse :: words

/-- The words of a text whose first word has begun with `current`, last character first. -/
def wordsFrom : List Char → List Char → List (List Char)
  | current, [] => consWord current []
  | current, c :: rest =>
    if isBlank c then consWord current (wordsFrom [] rest) else wordsFrom (c :: current) rest

/-- The maximal runs without blanks, in order. -/
def words (s : String) : List String := (wordsFrom [] s.toList).map String.ofList

theorem mem_consWord {w current : List Char} {ws : List (List Char)}
    (h : w ∈ consWord current ws) : (w = current.reverse ∧ current ≠ []) ∨ w ∈ ws := by
  unfold consWord at h
  split at h
  · exact Or.inr h
  · rename_i hne
    rcases List.mem_cons.1 h with rfl | h
    · exact Or.inl ⟨rfl, fun he => hne (by simp [he])⟩
    · exact Or.inr h

theorem wordsFrom_forall (cs current : List Char) (hc : ∀ c ∈ current, isBlank c = false) :
    ∀ w ∈ wordsFrom current cs, w ≠ [] ∧ ∀ c ∈ w, isBlank c = false := by
  induction cs generalizing current with
  | nil =>
    intro w hw
    rcases mem_consWord hw with ⟨rfl, hne⟩ | hw
    · exact ⟨by simpa using hne, by simpa using hc⟩
    · simp at hw
  | cons c rest ih =>
    intro w hw
    unfold wordsFrom at hw
    split at hw
    · rcases mem_consWord hw with ⟨rfl, hne⟩ | hw
      · exact ⟨by simpa using hne, by simpa using hc⟩
      · exact ih [] (by simp) w hw
    · rename_i hb
      refine ih (c :: current) ?_ w hw
      intro x hx
      rcases List.mem_cons.1 hx with rfl | hx
      · simpa using hb
      · exact hc x hx

/-- No word is empty. -/
theorem words_forall_ne_nil (s : String) : ∀ w ∈ words s, w ≠ "" := by
  intro w hw
  obtain ⟨cs, hcs, rfl⟩ := List.mem_map.1 hw
  have := (wordsFrom_forall s.toList [] (by simp) cs hcs).1
  intro h
  exact this (by simpa using congrArg String.toList h)

/-- No word holds a blank. -/
theorem words_forall_not_blank (s : String) :
    ∀ w ∈ words s, ∀ c ∈ w.toList, isBlank c = false := by
  intro w hw
  obtain ⟨cs, hcs, rfl⟩ := List.mem_map.1 hw
  simpa using (wordsFrom_forall s.toList [] (by simp) cs hcs).2

end Text
end DebugConsole
