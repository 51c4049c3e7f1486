/-
# Commands that share words

A command is found by its name and by its other names.  Several commands may have a word in common,
in any pattern: one may take only some of the words of another, and give them up to a third.

| the commands that have a word | what the word finds |
| --- | --- |
| none | nothing |
| one or several | the one registered last (`find?_ofList`) |

A registration gives its command the words it has and leaves every other word alone
(`find?_register`).  It adds at the end of the commands, so a slot that lay beyond them would come
to mean the new command; that each slot gives a command which has the word
(`CommandTable.IsSound`) is what every registration keeps.
-/

import DebugConsole.Command.Builtin
import Mathlib.Data.List.Induction
import Mathlib.Data.List.Nodup
import Mathlib.Tactic.SplitIfs

namespace DebugConsole

variable {σ : Type}

/-- All names of a command. -/
def Command.words (command : Command σ) : List String := command.name :: command.aliases

namespace CommandTable

/-! ### Slots -/

/-- The first slots go before the others. -/
theorem slotIn_append (word : String) (slots rest : List (String × Nat)) :
    slotIn word (slots ++ rest) = (slotIn word slots).or (slotIn word rest) := by
  induction slots with
  | nil => rfl
  | cons slot slots ih =>
    rw [List.cons_append, slotIn, slotIn]
    split_ifs
    · rfl
    · exact ih

/-- The words of one command share its place. -/
theorem slotIn_map (word : String) (words : List String) (place : Nat) :
    slotIn word (words.map (·, place)) = if word ∈ words then some place else none := by
  induction words with
  | nil => rfl
  | cons w words ih =>
    rw [List.map_cons, slotIn, ih]
    by_cases hw : w = word
    · rw [if_pos hw, if_pos (hw ▸ List.mem_cons_self)]
    · rw [if_neg hw]
      simp only [List.mem_cons, Ne.symm hw, false_or]

/-- A slot that is found is there. -/
theorem mem_of_slotIn {word : String} {slots : List (String × Nat)} {place : Nat}
    (h : slotIn word slots = some place) : (word, place) ∈ slots := by
  induction slots with
  | nil => cases h
  | cons slot slots ih =>
    rw [slotIn] at h
    split_ifs at h with hword
    · obtain rfl := Option.some.inj h
      exact hword ▸ List.mem_cons_self
    · exact List.mem_cons_of_mem _ (ih h)

/-- The words of a command that is registered come first. -/
theorem slots_register (table : CommandTable σ) (command : Command σ) :
    (table.register command).slots =
      command.words.reverse.map (·, table.commands.length) ++ table.slots := by
  rw [register, Command.words, List.reverse_cons]

/-- The words of a command get the place behind all others, and no other word is moved. -/
theorem slotIn_register (table : CommandTable σ) (command : Command σ) (word : String) :
    slotIn word (table.register command).slots =
      if word ∈ command.words then some table.commands.length else slotIn word table.slots := by
  rw [slots_register, slotIn_append, slotIn_map]
  simp only [List.mem_reverse]
  split_ifs <;> rfl

/-! ### One registration -/

/-- Each slot gives a command, which has the word. -/
def IsSound (table : CommandTable σ) : Prop :=
  ∀ slot ∈ table.slots, ∃ command, table.commands[slot.2]? = some command ∧ slot.1 ∈ command.words

/-- A slot leads to a command that is there. -/
theorem IsSound.place_lt {table : CommandTable σ} (h : table.IsSound) {slot : String × Nat}
    (hslot : slot ∈ table.slots) : slot.2 < table.commands.length := by
  obtain ⟨command, hplace, -⟩ := h slot hslot
  exact (List.getElem?_eq_some_iff.1 hplace).1

/-- A command that is registered leads to itself, and the others as before. -/
theorem IsSound.register {table : CommandTable σ} (h : table.IsSound) (command : Command σ) :
    (table.register command).IsSound := by
  intro slot hslot
  rw [slots_register, List.mem_append] at hslot
  rcases hslot with hnew | hold
  · obtain ⟨word, hword, rfl⟩ := List.mem_map.1 hnew
    exact ⟨command, List.getElem?_concat_length, List.mem_reverse.1 hword⟩
  · obtain ⟨other, hplace, hword⟩ := h slot hold
    exact ⟨other, (List.getElem?_append_left (h.place_lt hold)).trans hplace, hword⟩

/-- A registration gives its command the words it has, and no other word finds anything else. -/
theorem find?_register {table : CommandTable σ} (h : table.IsSound) (command : Command σ)
    (word : String) :
    (table.register command).find? word =
      if word ∈ command.words then some command else table.find? word := by
  rw [find?, slotIn_register]
  split_ifs
  · exact List.getElem?_concat_length
  · cases hslot : slotIn word table.slots with
    | none => rw [find?, hslot]; rfl
    | some place =>
      rw [find?, hslot]
      exact List.getElem?_append_left (h.place_lt (mem_of_slotIn hslot))

/-! ### All registrations -/

/-- The last command of a list is registered last. -/
theorem ofList_concat (commands : List (Command σ)) (command : Command σ) :
    ofList (commands ++ [command]) = (ofList commands).register command := List.foldl_concat ..

/-- Commands stay in the order in which they were registered. -/
theorem commands_ofList (commands : List (Command σ)) : (ofList commands).commands = commands := by
  induction commands using List.reverseRecOn with
  | nil => rfl
  | append_singleton commands command ih => rw [ofList_concat, register, ih]

/-- **Every slot of a table leads to a command that has the word.** -/
theorem isSound_ofList (commands : List (Command σ)) : (ofList commands).IsSound := by
  induction commands using List.reverseRecOn with
  | nil => exact fun _ hslot => absurd hslot List.not_mem_nil
  | append_singleton commands command ih =>
    rw [ofList_concat]
    exact ih.register command

/-- A word finds the command that has it, the one registered last if there are several. -/
theorem find?_ofList (commands : List (Command σ)) (word : String) :
    (ofList commands).find? word = commands.reverse.find? (word ∈ ·.words) := by
  induction commands using List.reverseRecOn with
  | nil => rfl
  | append_singleton commands command ih =>
    rw [ofList_concat, find?_register (isSound_ofList commands), List.reverse_concat,
      List.find?_cons, ih]
    split_ifs with hword
    · rw [decide_eq_true hword]
    · rw [decide_eq_false hword]

/-- The command that is found has the word, and none that was registered later has it. -/
theorem find?_ofList_eq_some_iff {commands : List (Command σ)} {word : String}
    {command : Command σ} :
    (ofList commands).find? word = some command ↔ ∃ earlier later,
      commands = earlier ++ command :: later ∧ word ∈ command.words ∧
        ∀ other ∈ later, word ∉ other.words := by
  rw [find?_ofList, List.find?_eq_some_iff_append]
  constructor
  · rintro ⟨hword, later, earlier, hsplit, hlater⟩
    refine ⟨earlier.reverse, later.reverse, ?_, of_decide_eq_true hword, fun other hother => ?_⟩
    · rw [← List.reverse_reverse commands, hsplit]
      simp
    · simpa using hlater other (List.mem_reverse.1 hother)
  · rintro ⟨earlier, later, rfl, hword, hlater⟩
    refine ⟨decide_eq_true hword, later.reverse, earlier.reverse, by simp, fun other hother => ?_⟩
    simpa using hlater other (List.mem_reverse.1 hother)

/-- A word is unknown where no command has it. -/
theorem find?_ofList_eq_none_iff {commands : List (Command σ)} {word : String} :
    (ofList commands).find? word = none ↔ ∀ command ∈ commands, word ∉ command.words := by
  rw [find?_ofList, List.find?_eq_none]
  simp only [List.mem_reverse, decide_eq_true_iff]

/-- A command that is found was registered. -/
theorem mem_of_find? {commands : List (Command σ)} {word : String} {command : Command σ}
    (h : (ofList commands).find? word = some command) : command ∈ commands := by
  obtain ⟨earlier, later, rfl, -⟩ := find?_ofList_eq_some_iff.1 h
  exact List.mem_append_right _ List.mem_cons_self

/-- The slot of a word stays with the command that has taken it for as long as none takes it
over. -/
theorem slotIn_ofList_iff {earlier later : List (Command σ)} {command : Command σ} {word : String}
    (hword : word ∈ command.words) :
    slotIn word (ofList (earlier ++ command :: later)).slots = some earlier.length ↔
      ∀ other ∈ later, word ∉ other.words := by
  induction later using List.reverseRecOn with
  | nil =>
    rw [ofList_concat, slotIn_register, if_pos hword, commands_ofList]
    exact iff_of_true rfl fun _ hother => absurd hother List.not_mem_nil
  | append_singleton later last ih =>
    rw [← List.cons_append, ← List.append_assoc, ofList_concat, slotIn_register, commands_ofList,
      List.forall_mem_append, List.forall_mem_singleton]
    split_ifs with hlast
    · -- the last command stands behind this one, so it is another place
      refine iff_of_false (fun hsame => ?_) fun hboth => hboth.2 hlast
      have hlength := Option.some.inj hsame
      rw [List.length_append, List.length_cons] at hlength
      omega
    · rw [ih]
      exact (and_iff_left hlast).symm

/-- Some commands were registered in this order, and of those that have a word the last one answers
to it. -/
structure LastAnswers (commands : List (Command σ)) (table : CommandTable σ) : Prop where
  registered : table.commands = commands
  /-- No slot lies beyond the commands or gives a command that does not have the word. -/
  sound : table.IsSound
  found : ∀ word command, table.find? word = some command ↔ ∃ earlier later,
    commands = earlier ++ command :: later ∧ word ∈ command.words ∧
      ∀ other ∈ later, word ∉ other.words
  missing : ∀ word, table.find? word = none ↔ ∀ command ∈ commands, word ∉ command.words
  /-- Of its words a command keeps just those that no later one has. -/
  kept : ∀ earlier command later, commands = earlier ++ command :: later → ∀ word ∈ command.words,
    (slotIn word table.slots = some earlier.length ↔ ∀ other ∈ later, word ∉ other.words)

/-- **A word finds the command registered last of those that have it**, whatever words the commands
share. -/
theorem last_answers (commands : List (Command σ)) : LastAnswers commands (ofList commands) where
  registered := commands_ofList commands
  sound := isSound_ofList commands
  found _ _ := find?_ofList_eq_some_iff
  missing _ := find?_ofList_eq_none_iff
  kept earlier command later hcommands word hword := by
    subst hcommands
    exact slotIn_ofList_iff hword

/-- Three commands of which the second takes one word of the first and gives another one up. -/
theorem last_answers_shadowing :
    let command (name : String) (aliases : List String) : Command Unit :=
      { name, aliases, help := "", run := fun _ => return }
    let step := command "step" ["s", "st"]
    let stop := command "stop" ["s", "halt"]
    let exit := command "halt" ["exit"]
    let table := ofList [step, stop, exit]
    table.find? "st" = some step ∧ table.find? "s" = some stop ∧ table.find? "halt" = some exit ∧
      slotIn "step" table.slots = some 0 ∧ table.find? "sto" = none := by
  intro command step stop exit table
  have h := last_answers [step, stop, exit]
  refine ⟨(h.found "st" step).2 ⟨[], [stop, exit], rfl, by decide, by decide⟩,
    (h.found "s" stop).2 ⟨[step], [exit], rfl, by decide, by decide⟩,
    (h.found "halt" exit).2 ⟨[step, stop], [], rfl, by decide, by decide⟩,
    (h.kept [] step [stop, exit] rfl "step" (by decide)).2 (by decide),
    (h.missing "sto").2 (by decide)⟩

/-! ### The commands of the debugger -/

/-- Commands that share no word answer to all their words. -/
theorem find?_ofList_of_nodup {commands : List (Command σ)}
    (h : (commands.flatMap Command.words).Nodup) {command : Command σ}
    (hcommand : command ∈ commands) {word : String} (hword : word ∈ command.words) :
    (ofList commands).find? word = some command := by
  obtain ⟨earlier, later, rfl⟩ := List.append_of_mem hcommand
  rw [List.flatMap_append, List.flatMap_cons] at h
  have hapart : List.Disjoint command.words (later.flatMap Command.words) :=
    List.disjoint_of_nodup_append (List.nodup_append.1 h).2.1
  refine find?_ofList_eq_some_iff.2 ⟨earlier, later, rfl, hword, fun other hother hshared => ?_⟩
  exact hapart hword (List.mem_flatMap.2 ⟨other, hother, hshared⟩)

variable [Environment σ]

/-- No two commands of the debugger share a word, so that each of them answers to all its words. -/
theorem find?_builtin (options : CommandOptions) {command : Command σ}
    (hcommand : command ∈ Builtin.all options ++ [Builtin.help (Builtin.all options)])
    {word : String} (hword : word ∈ command.words) :
    (builtin options).find? word = some command := by
  refine find?_ofList_of_nodup ?_ hcommand hword
  have hwords : (Builtin.all options ++ [Builtin.help (Builtin.all options)] :
      List (Command σ)).flatMap Command.words =
    ["run", "continue", "c", "next", "n", "step", "s", "pause", "restart", "backtrace", "bt",
      "thread", "threads", "frame", "f", "variables", "vars", "print", "p", "list", "l",
      "breakpoint", "b", "help"] := rfl
  rw [hwords]
  decide

end CommandTable
end DebugConsole
