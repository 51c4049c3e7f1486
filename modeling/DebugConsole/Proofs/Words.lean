/-
# Words and the text they come from

A line is cut into words where it has blanks, and a command may join its words again, with one space
between them.  What comes out is the text that went in just if that was evenly spaced:

| the blanks of the text | after cutting and joining |
| --- | --- |
| single spaces, none at either end | as it was (`rejoined_eq_iff`) |
| others, or two side by side | another text with the same words |

Where a single separator counts, a text is cut at its first one or at its last one.
-/

import DebugConsole.Text.Blank
import DebugConsole.Text.Path
import Mathlib.Data.List.Chain
import Mathlib.Data.List.TakeDrop
import Mathlib.Tactic.SplitIfs

namespace DebugConsole
namespace Text

/-- Digits stand together in the order of characters. -/
theorem toNat_of_isDigit {c : Char} (h : c.isDigit) : 48 ≤ c.toNat ∧ c.toNat ≤ 57 := by
  rw [Char.isDigit, Bool.and_eq_true, decide_eq_true_eq, decide_eq_true_eq] at h
  exact h

/-- No digit is a blank. -/
theorem isBlank_of_isDigit {c : Char} (h : c.isDigit) : isBlank c = false := by
  obtain ⟨hlow, hhigh⟩ := toNat_of_isDigit h
  simp only [isBlank, Bool.or_eq_false_iff, Bool.and_eq_false_iff, decide_eq_false_iff_not]
  omega

/-! ### Separators -/

/-- The first separator is where a text is split. -/
theorem span_separator {sep : Char} {before : List Char} (h : sep ∉ before) (after : List Char) :
    (before ++ sep :: after).span (· ≠ sep) = (before, sep :: after) := by
  have hall : ∀ c ∈ before, decide (c ≠ sep) = true := fun c hc =>
    decide_eq_true (ne_of_mem_of_not_mem hc h)
  rw [List.span_eq_takeWhile_dropWhile, List.takeWhile_append_of_pos hall,
    List.dropWhile_append_of_pos hall]
  simp

/-- A text is cut at its last separator. -/
theorem splitLast?_append {sep : Char} {after : List Char} (h : sep ∉ after) (before : List Char) :
    splitLast? sep (before ++ sep :: after) = some (before, after) := by
  have hreversed : (before ++ sep :: after).reverse = after.reverse ++ sep :: before.reverse := by
    simp
  rw [splitLast?, hreversed, span_separator (by simpa using h)]
  simp

/-! ### Cutting -/

/-- What comes before the next blank belongs to the word that has begun. -/
theorem wordsFrom_append {w : List Char} (hw : ∀ c ∈ w, isBlank c = false)
    (current rest : List Char) :
    wordsFrom current (w ++ rest) = wordsFrom (w.reverse ++ current) rest := by
  induction w generalizing current with
  | nil => rfl
  | cons c w ih =>
    obtain ⟨hc, hw⟩ := List.forall_mem_cons.1 hw
    rw [List.cons_append, wordsFrom, if_neg (by simp [hc]), ih hw, List.reverse_cons,
      List.append_assoc, List.singleton_append]

theorem wordsFrom_blank {c : Char} (hc : isBlank c) (current rest : List Char) :
    wordsFrom current (c :: rest) = consWord current (wordsFrom [] rest) := by
  rw [wordsFrom, if_pos hc]

/-- A word begun is put before the others. -/
theorem consWord_of_ne_nil {current : List Char} (h : current ≠ []) (words : List (List Char)) :
    consWord current words = current.reverse :: words :=
  if_neg (by simpa using h)

/-- A word that has begun does not get lost. -/
theorem wordsFrom_ne_nil {current : List Char} (h : current ≠ []) (cs : List Char) :
    wordsFrom current cs ≠ [] := by
  induction cs generalizing current with
  | nil =>
    rw [wordsFrom, consWord_of_ne_nil h]
    exact List.cons_ne_nil _ _
  | cons c rest ih =>
    rw [wordsFrom]
    split_ifs
    · rw [consWord_of_ne_nil h]
      exact List.cons_ne_nil _ _
    · exact ih (List.cons_ne_nil _ _)

/-- A text without blanks that is not empty. -/
structure IsWord (s : String) : Prop where
  nonempty : s ≠ ""
  solid : ∀ c ∈ s.toList, isBlank c = false

-- the quantifiers are over all characters, and only those of the text need to be tried
instance (s : String) : Decidable (IsWord s) :=
  decidable_of_iff (s ≠ "" ∧ s.toList.all fun c => !isBlank c)
    ⟨fun h => ⟨h.1, by simpa using h.2⟩, fun h => ⟨h.nonempty, by simpa using h.solid⟩⟩

/-- A word is read as itself. -/
theorem wordsFrom_of_isWord {w : String} (h : IsWord w) :
    wordsFrom [] w.toList = [w.toList] := by
  have hne : w.toList.reverse ≠ [] := by simpa using h.nonempty
  have hcut := wordsFrom_append h.solid [] []
  rw [List.append_nil, List.append_nil] at hcut
  rw [hcut, wordsFrom, consWord_of_ne_nil hne, List.reverse_reverse]

/-- A word is the only word of itself. -/
theorem words_of_isWord {w : String} (h : IsWord w) : words w = [w] := by
  rw [words, wordsFrom_of_isWord h, List.map_singleton, String.ofList_toList]

/-- The word before a space is the first one. -/
theorem words_append {w : String} (h : IsWord w) (rest : String) :
    words (w ++ " " ++ rest) = w :: words rest := by
  have hne : w.toList.reverse ≠ [] := by simpa using h.nonempty
  have hspace : (" " : String).toList = [' '] := rfl
  rw [words, String.toList_append, String.toList_append, hspace, List.append_assoc,
    wordsFrom_append h.solid, List.append_nil, List.singleton_append,
    wordsFrom_blank (by decide), consWord_of_ne_nil hne, List.reverse_reverse, List.map_cons,
    String.ofList_toList, words]

/-- A space before a text changes none of its words. -/
theorem words_space_append (s : String) : words (" " ++ s) = words s := by
  have hspace : (" " : String).toList = [' '] := rfl
  rw [words, String.toList_append, hspace, List.singleton_append, wordsFrom_blank (by decide),
    words]
  rfl

/-! ### Joining -/

/-- The words of a text with one space between them. -/
def rejoined (s : String) : String := String.intercalate " " (words s)

/-- Words are rejoined with a single blank between them. -/
theorem toList_rejoined (s : String) :
    (rejoined s).toList = [' '].intercalate (wordsFrom [] s.toList) := by
  have hwords : (words s).map String.toList = wordsFrom [] s.toList := by
    rw [words, List.map_map]
    exact (List.map_congr_left fun _ _ => String.toList_ofList).trans (List.map_id _)
  rw [rejoined, String.toList_intercalate, hwords]
  rfl

/-- Text as a user may type it after a command: it neither begins nor ends with a blank. -/
structure IsTyped (s : String) : Prop where
  nonempty : s ≠ ""
  first : ∀ c ∈ s.toList.head?, isBlank c = false
  last : ∀ c ∈ s.toList.getLast?, isBlank c = false

instance (s : String) : Decidable (IsTyped s) :=
  decidable_of_iff (s ≠ "" ∧ s.toList.head?.all (fun c => !isBlank c) ∧
      s.toList.getLast?.all fun c => !isBlank c)
    ⟨fun h => ⟨h.1, by simpa [Option.all_eq_true] using h.2.1,
        by simpa [Option.all_eq_true] using h.2.2⟩,
      fun h => ⟨h.nonempty, by simpa [Option.all_eq_true] using h.first,
        by simpa [Option.all_eq_true] using h.last⟩⟩

/-- What is typed has a word. -/
theorem IsTyped.words_ne_nil {s : String} (h : IsTyped s) : words s ≠ [] := by
  have hchars : s.toList ≠ [] := by simpa using h.nonempty
  obtain ⟨c, rest, hcons⟩ := List.exists_cons_of_ne_nil hchars
  have hc : isBlank c = false := h.first c (by rw [hcons]; rfl)
  rw [words, hcons, wordsFrom, if_neg (by simp [hc])]
  simpa using wordsFrom_ne_nil (List.cons_ne_nil c []) rest

/-- The only blanks are spaces, and none of them has another one beside it. -/
structure IsEvenlySpaced (cs : List Char) : Prop where
  spaces : ∀ c ∈ cs, isBlank c → c = ' '
  single : cs.IsChain fun a b => ¬(isBlank a ∧ isBlank b)

/-- What follows the first character of an evenly spaced text is so too. -/
theorem IsEvenlySpaced.tail {c : Char} {cs : List Char} (h : IsEvenlySpaced (c :: cs)) :
    IsEvenlySpaced cs :=
  ⟨fun x hx => h.spaces x (List.mem_cons_of_mem c hx), h.single.tail⟩

/-- What is evenly spaced is restored by joining.  The words are cut from the text behind
`current`. -/
theorem IsEvenlySpaced.intercalate_wordsFrom {cs : List Char} (h : IsEvenlySpaced cs)
    (current : List Char) (hfirst : current = [] → ∀ c ∈ cs.head?, isBlank c = false)
    (hlast : ∀ c ∈ cs.getLast?, isBlank c = false) :
    [' '].intercalate (wordsFrom current cs) = current.reverse ++ cs := by
  induction cs generalizing current with
  | nil =>
    rw [wordsFrom, List.append_nil]
    by_cases hcurrent : current = []
    · subst hcurrent
      rfl
    · rw [consWord_of_ne_nil hcurrent, List.intercalate_singleton]
  | cons c rest ih =>
    have hlast' : ∀ x ∈ rest.getLast?, isBlank x = false := fun x hx =>
      hlast x (List.mem_getLast?_cons hx)
    cases hc : isBlank c with
    | false =>
      rw [wordsFrom, if_neg (by simp [hc]), ih h.tail (c :: current) nofun hlast',
        List.reverse_cons, List.append_assoc, List.singleton_append]
    | true =>
      obtain rfl := h.spaces c List.mem_cons_self hc
      have hcurrent : current ≠ [] := fun hnil =>
        Bool.false_ne_true ((hfirst hnil _ rfl).symm.trans hc)
      -- the text ends with no blank, and another one does not follow
      cases rest with
      | nil => exact absurd ((hlast _ rfl).symm.trans hc) Bool.false_ne_true
      | cons next more =>
        have hnext : isBlank next = false := by
          have hpair := (List.isChain_cons_cons.1 h.single).1
          simpa [hc] using hpair
        have hrest := ih h.tail [] (fun _ x hx => by
          obtain rfl := Option.some.inj hx
          exact hnext) hlast'
        have hwords : wordsFrom [] (next :: more) ≠ [] := fun hnil => by
          rw [hnil] at hrest
          cases hrest
        rw [wordsFrom_blank hc, consWord_of_ne_nil hcurrent,
          List.intercalate_cons_of_ne_nil hwords, hrest]
        simp

/-- A word before an evenly spaced text leaves it evenly spaced. -/
theorem IsEvenlySpaced.append {w cs : List Char} (h : IsEvenlySpaced cs)
    (hw : ∀ c ∈ w, isBlank c = false) : IsEvenlySpaced (w ++ cs) := by
  induction w with
  | nil => exact h
  | cons c w ih =>
    obtain ⟨hc, hw⟩ := List.forall_mem_cons.1 hw
    have hrest := ih hw
    refine ⟨fun x hx hblank => ?_, List.isChain_cons.2 ⟨fun y _ => by simp [hc], hrest.single⟩⟩
    rcases List.mem_cons.1 hx with rfl | hx
    · exact absurd (hc.symm.trans hblank) Bool.false_ne_true
    · exact hrest.spaces x hx hblank

/-- So does a blank, where none follows. -/
theorem IsEvenlySpaced.cons_space {cs : List Char} (h : IsEvenlySpaced cs)
    (hfirst : ∀ c ∈ cs.head?, isBlank c = false) : IsEvenlySpaced (' ' :: cs) := by
  refine ⟨fun x hx hblank => ?_,
    List.isChain_cons.2 ⟨fun y hy => by simp [hfirst y hy], h.single⟩⟩
  rcases List.mem_cons.1 hx with rfl | hx
  · rfl
  · exact h.spaces x hx hblank

/-- Words that are joined are evenly spaced, and begin with the first word. -/
theorem isEvenlySpaced_intercalate {ws : List (List Char)}
    (h : ∀ w ∈ ws, w ≠ [] ∧ ∀ c ∈ w, isBlank c = false) :
    IsEvenlySpaced ([' '].intercalate ws) ∧
      ∀ c ∈ ([' '].intercalate ws).head?, isBlank c = false := by
  have hbegins {w : List Char} (hne : w ≠ []) (hw : ∀ c ∈ w, isBlank c = false)
      (cs : List Char) : ∀ c ∈ (w ++ cs).head?, isBlank c = false := fun c hc => by
    rw [List.head?_append_of_ne_nil _ hne] at hc
    exact hw c (List.mem_of_mem_head? hc)
  induction ws with
  | nil => exact ⟨⟨nofun, .nil⟩, nofun⟩
  | cons w rest ih =>
    obtain ⟨⟨hne, hw⟩, hrest⟩ := List.forall_mem_cons.1 h
    obtain ⟨heven, hfirst⟩ := ih hrest
    cases rest with
    | nil =>
      have hword : [' '].intercalate [w] = w ++ [] := by simp
      rw [hword]
      exact ⟨.append ⟨nofun, .nil⟩ hw, hbegins hne hw []⟩
    | cons v more =>
      rw [List.intercalate_cons_cons, List.append_assoc, List.singleton_append]
      exact ⟨(heven.cons_space hfirst).append hw, hbegins hne hw _⟩

/-- **Cutting and joining restore a text if and only if it is evenly spaced.** -/
theorem rejoined_eq_iff {s : String} (h : IsTyped s) :
    rejoined s = s ↔ IsEvenlySpaced s.toList := by
  rw [← String.toList_inj, toList_rejoined]
  refine ⟨fun heq => ?_, fun heven => ?_⟩
  · rw [← heq]
    exact (isEvenlySpaced_intercalate (wordsFrom_forall _ [] nofun)).1
  · exact heven.intercalate_wordsFrom [] (fun _ => h.first) h.last

end Text
end DebugConsole
