/-
# Which variables a scope gets

The scopes of a frame are chosen by name, or because they are not expensive, and the variables of
each chosen scope are asked for.  The answers are kept by reference, and a scope takes the answer
for its reference away with it.  This gives each chosen scope what its own request was answered
with, and any other scope nothing, as long as no chosen scope has the reference of a scope listed
before it:

| an earlier scope with its reference | gets | the chosen scope gets |
| --- | --- | --- |
| is chosen too | what the later request was answered with | nothing |
| is not chosen | what the request of the chosen one was answered with | nothing |

Names, order and expense of the scopes are always those that the adapter has listed.
-/

import DebugConsole.Proofs.Statuses

namespace DebugConsole

open Protocol

variable {σ : Type}

/-- Are the variables of a scope asked for? -/
def Protocol.Scope.isChosen (scopeName : Option String) (s : Scope) : Bool :=
  match scopeName with
  | some name => s.name = name
  | none => !s.expensive

/-- Asks for the variables of a scope. -/
def Protocol.Scope.fetch (s : Scope) : Call (List Variable) :=
  Call.scopeVariables { variablesReference := s.variablesReference }

/-- The scopes with what is listed for the chosen ones, in order. -/
def ownContents (scopeName : Option String) :
    List Scope → List (List Variable) → List ScopeVariables
  | [], _ => []
  | s :: rest, lists =>
    if s.isChosen scopeName then
      ⟨s.name, s.expensive, lists.head?⟩ :: ownContents scopeName rest lists.tail
    else ⟨s.name, s.expensive, none⟩ :: ownContents scopeName rest lists

/-- No chosen scope has the reference of a scope listed before it. -/
def Unshared (scopeName : Option String) (scopes : List Scope) : Prop :=
  scopes.Pairwise fun a b => b.isChosen scopeName → a.variablesReference ≠ b.variablesReference

section Fetched

variable {fetched : List (Int64 × List Variable)} {reference other : Int64}

/-- The list that is kept for a reference. -/
def fetchedFor (reference : Int64) (fetched : List (Int64 × List Variable)) :
    Option (List Variable) :=
  (fetched.find? (·.1 = reference)).map (·.2)

theorem fetchedFor_cons (entry : Int64 × List Variable) :
    fetchedFor reference (entry :: fetched) =
      if entry.1 = reference then some entry.2 else fetchedFor reference fetched := by
  unfold fetchedFor
  split_ifs with h
  · rw [List.find?_cons_of_pos (by simpa using h)]
    rfl
  · rw [List.find?_cons_of_neg (by simpa using h)]

/-- The first list under a reference counts, also across two parts. -/
theorem fetchedFor_append (first last : List (Int64 × List Variable)) :
    fetchedFor reference (first ++ last) =
      (fetchedFor reference first).or (fetchedFor reference last) := by
  rw [fetchedFor, List.find?_append, Option.map_or]
  rfl

/-- A reference that is taken out has no list, and every other keeps its own. -/
theorem fetchedFor_filter : fetchedFor reference (fetched.filter (·.1 ≠ other)) =
    if reference = other then none else fetchedFor reference fetched := by
  induction fetched with
  | nil => simp [fetchedFor]
  | cons entry rest ih =>
    by_cases hentry : entry.1 = other
    · rw [List.filter_cons_of_neg (by simpa using hentry), ih, fetchedFor_cons, hentry]
      split_ifs with h h' <;> first | rfl | exact absurd h'.symm h
    · rw [List.filter_cons_of_pos (by simpa using hentry), fetchedFor_cons, fetchedFor_cons, ih]
      split_ifs with h h' <;> first | rfl | exact absurd (h.trans h') hentry

/-- What was never asked for has no list. -/
theorem fetchedFor_eq_none (h : ∀ entry ∈ fetched, entry.1 ≠ reference) :
    fetchedFor reference fetched = none := by
  rw [fetchedFor, List.find?_eq_none.2 fun entry hentry => by simpa using h entry hentry]
  rfl

/-- The list put in last is the one under its reference. -/
theorem fetchedFor_putFetched (content : List Variable) :
    fetchedFor reference (putFetched fetched other content) =
      if other = reference then some content else fetchedFor reference fetched := by
  rw [putFetched, fetchedFor_cons, fetchedFor_filter]
  split_ifs with h h' <;> first | rfl | exact absurd h'.symm h

/-- Of the lists for a reference the last one is kept. -/
theorem fetchedFor_putAll (entries : List (Int64 × List Variable)) :
    fetchedFor reference (putAll entries) = fetchedFor reference entries.reverse := by
  have hkept : ∀ kept : List (Int64 × List Variable),
      fetchedFor reference
          (entries.foldl (fun kept entry => putFetched kept entry.1 entry.2) kept) =
        fetchedFor reference (entries.reverse ++ kept) := by
    induction entries with
    | nil => exact fun _ => rfl
    | cons entry rest ih =>
      intro kept
      rw [List.foldl_cons, ih, List.reverse_cons, List.append_assoc, List.singleton_append]
      rw [fetchedFor_append, fetchedFor_append, fetchedFor_putFetched, fetchedFor_cons]
  rw [putAll, hkept, List.append_nil]

/-- Under different references their order does not matter. -/
theorem fetchedFor_reverse (hnodup : (fetched.map (·.1)).Nodup) :
    fetchedFor reference fetched.reverse = fetchedFor reference fetched := by
  induction fetched with
  | nil => rfl
  | cons entry rest ih =>
    obtain ⟨hnew, hrest⟩ := List.nodup_cons.1 hnodup
    rw [List.reverse_cons, fetchedFor_append, ih hrest, fetchedFor_cons, fetchedFor_cons]
    split_ifs with h
    · rw [fetchedFor_eq_none fun other hother heq =>
        hnew (List.mem_map.2 ⟨other, hother, heq.trans h.symm⟩)]
      rfl
    · exact Option.or_none

end Fetched

/-! ### Handing out -/

/-- The references that are asked for. -/
def chosenReferences (scopeName : Option String) (scopes : List Scope) : List Int64 :=
  (scopes.filter (·.isChosen scopeName)).map (·.variablesReference)

section HandOut

variable {scopeName : Option String} {scopes : List Scope} {lists : List (List Variable)}
  {fetched : List (Int64 × List Variable)}

theorem chosenReferences_cons_of_pos {s : Scope} (h : s.isChosen scopeName) :
    chosenReferences scopeName (s :: scopes) =
      s.variablesReference :: chosenReferences scopeName scopes := by
  rw [chosenReferences, List.filter_cons_of_pos h]
  rfl

theorem chosenReferences_cons_of_neg {s : Scope} (h : ¬s.isChosen scopeName) :
    chosenReferences scopeName (s :: scopes) = chosenReferences scopeName scopes := by
  rw [chosenReferences, List.filter_cons_of_neg h]
  rfl

theorem handOut_cons (s : Scope) (rest : List Scope) (fetched : List (Int64 × List Variable)) :
    handOut (s :: rest) fetched =
      ⟨s.name, s.expensive, fetchedFor s.variablesReference fetched⟩ ::
        handOut rest (fetched.filter (·.1 ≠ s.variablesReference)) := rfl

/-- Names and expense are those of the scopes, in order. -/
theorem map_handOut (scopes : List Scope) (fetched : List (Int64 × List Variable)) :
    (handOut scopes fetched).map (fun c => (c.scopeName, c.expensive)) =
      scopes.map fun s => (s.name, s.expensive) := by
  induction scopes generalizing fetched with
  | nil => rfl
  | cons s rest ih => rw [handOut, List.map_cons, List.map_cons, ih]

/-- A scope gets what is kept for its reference, unless an earlier one has got it. -/
theorem getElem?_handOut (scopes : List Scope) (fetched : List (Int64 × List Variable))
    (place : Nat) : (handOut scopes fetched)[place]? = scopes[place]?.map fun s =>
      ⟨s.name, s.expensive,
        if (scopes.take place).any (·.variablesReference = s.variablesReference) then none
        else fetchedFor s.variablesReference fetched⟩ := by
  induction scopes generalizing fetched place with
  | nil => rfl
  | cons s rest ih =>
    cases place with
    | zero => rfl
    | succ place =>
      rw [handOut_cons, List.getElem?_cons_succ, ih, List.getElem?_cons_succ]
      refine congrArg (rest[place]?.map ·) (funext fun t => ?_)
      rw [List.take_succ_cons, List.any_cons, fetchedFor_filter]
      by_cases heq : t.variablesReference = s.variablesReference
      · simp [heq]
      · simp [heq, Ne.symm heq]

/-- A reference that no later chosen scope has is not asked for later. -/
theorem fetchedFor_chosen_eq_none {reference : Int64}
    (h : ∀ b ∈ scopes, b.isChosen scopeName → reference ≠ b.variablesReference)
    (lists : List (List Variable)) :
    fetchedFor reference ((chosenReferences scopeName scopes).zip lists) = none := by
  refine fetchedFor_eq_none fun entry hentry heq => ?_
  obtain ⟨b, hb, hreference⟩ := List.mem_map.1 (List.of_mem_zip hentry).1
  obtain ⟨hmem, hchosen⟩ := List.mem_filter.1 hb
  exact h b hmem hchosen (heq.symm.trans hreference.symm)

/-- Where no chosen scope shares the reference of an earlier one, each gets its own list. -/
theorem handOut_eq_ownContents (h : Unshared scopeName scopes)
    (hlength : lists.length = (chosenReferences scopeName scopes).length)
    (hfetched : ∀ s ∈ scopes, fetchedFor s.variablesReference fetched =
      fetchedFor s.variablesReference ((chosenReferences scopeName scopes).zip lists)) :
    handOut scopes fetched = ownContents scopeName scopes lists := by
  induction scopes generalizing lists fetched with
  | nil => rfl
  | cons s rest ih =>
    obtain ⟨hfirst, hrest⟩ := List.pairwise_cons.1 h
    obtain ⟨hhead, htail⟩ := List.forall_mem_cons.1 hfetched
    -- what is kept for `s` is not handed out again
    have hothers (lists : List (List Variable))
        (hsame : ∀ t ∈ rest, t.variablesReference ≠ s.variablesReference →
          fetchedFor t.variablesReference fetched =
            fetchedFor t.variablesReference ((chosenReferences scopeName rest).zip lists)) :
        ∀ t ∈ rest, fetchedFor t.variablesReference
            (fetched.filter (·.1 ≠ s.variablesReference)) =
          fetchedFor t.variablesReference ((chosenReferences scopeName rest).zip lists) := by
      intro t ht
      rw [fetchedFor_filter]
      split_ifs with heq
      · rw [heq, fetchedFor_chosen_eq_none hfirst]
      · exact hsame t ht heq
    rw [handOut_cons, ownContents]
    by_cases hchosen : s.isChosen scopeName
    · rw [chosenReferences_cons_of_pos hchosen] at hlength hhead htail
      obtain ⟨list, others, rfl⟩ : ∃ list others, lists = list :: others :=
        List.exists_cons_of_length_eq_add_one hlength
      have hrests := ih hrest (Nat.succ.inj hlength) (hothers others fun t ht hne => by
        rw [htail t ht, List.zip_cons_cons, fetchedFor_cons, if_neg hne.symm])
      rw [hhead, List.zip_cons_cons, fetchedFor_cons, if_pos rfl, if_pos hchosen, hrests]
      rfl
    · rw [chosenReferences_cons_of_neg hchosen] at hlength hhead htail
      have hrests := ih hrest hlength (hothers lists fun t ht _ => htail t ht)
      rw [hhead, fetchedFor_chosen_eq_none hfirst, if_neg hchosen, hrests]

/-- A reference whose list was handed out is not that of a chosen scope with a list of its own. -/
theorem ne_of_handOut {reference : Int64} (hgone : ∀ entry ∈ fetched, entry.1 ≠ reference)
    (hlength : lists.length = (chosenReferences scopeName scopes).length)
    (h : handOut scopes fetched = ownContents scopeName scopes lists) :
    ∀ b ∈ scopes, b.isChosen scopeName → reference ≠ b.variablesReference := by
  induction scopes generalizing lists fetched with
  | nil => exact fun b hb => absurd hb List.not_mem_nil
  | cons s rest ih =>
    have hgone' : ∀ entry ∈ fetched.filter (·.1 ≠ s.variablesReference), entry.1 ≠ reference :=
      fun entry hentry => hgone entry (List.mem_of_mem_filter hentry)
    rw [handOut_cons, ownContents] at h
    by_cases hchosen : s.isChosen scopeName
    · rw [chosenReferences_cons_of_pos hchosen] at hlength
      obtain ⟨list, others, rfl⟩ : ∃ list others, lists = list :: others :=
        List.exists_cons_of_length_eq_add_one hlength
      rw [if_pos hchosen] at h
      obtain ⟨hhead, htail⟩ := List.cons.inj h
      refine List.forall_mem_cons.2 ⟨fun _ heq => ?_, ih hgone' (Nat.succ.inj hlength) htail⟩
      have hcontent : fetchedFor s.variablesReference fetched = some list :=
        congrArg ScopeVariables.content hhead
      rw [← heq, fetchedFor_eq_none hgone] at hcontent
      cases hcontent
    · rw [chosenReferences_cons_of_neg hchosen] at hlength
      rw [if_neg hchosen] at h
      exact List.forall_mem_cons.2 ⟨fun hs => absurd hs hchosen,
        ih hgone' hlength (List.cons.inj h).2⟩

/-- Scopes that get their own contents share no reference with one before them. -/
theorem unshared_of_handOut (hlength : lists.length = (chosenReferences scopeName scopes).length)
    (h : handOut scopes fetched = ownContents scopeName scopes lists) :
    Unshared scopeName scopes := by
  induction scopes generalizing lists fetched with
  | nil => exact .nil
  | cons s rest ih =>
    have hgone : ∀ entry ∈ fetched.filter (·.1 ≠ s.variablesReference),
        entry.1 ≠ s.variablesReference :=
      fun entry hentry => by simpa using List.of_mem_filter hentry
    rw [handOut_cons, ownContents] at h
    by_cases hchosen : s.isChosen scopeName
    · rw [chosenReferences_cons_of_pos hchosen] at hlength
      obtain ⟨list, others, rfl⟩ : ∃ list others, lists = list :: others :=
        List.exists_cons_of_length_eq_add_one hlength
      rw [if_pos hchosen] at h
      have htail := (List.cons.inj h).2
      exact .cons (ne_of_handOut hgone (Nat.succ.inj hlength) htail)
        (ih (Nat.succ.inj hlength) htail)
    · rw [chosenReferences_cons_of_neg hchosen] at hlength
      rw [if_neg hchosen] at h
      have htail := (List.cons.inj h).2
      exact .cons (ne_of_handOut hgone hlength htail) (ih hlength htail)

/-- The chosen scopes among unshared ones have references of their own. -/
theorem Unshared.nodup (h : Unshared scopeName scopes) :
    (chosenReferences scopeName scopes).Nodup := by
  refine List.pairwise_map.2 ((List.Pairwise.filter _ h).imp_of_mem fun _ hb hne => ?_)
  exact hne (List.of_mem_filter hb)

/-- What each scope is listed with, and whether it has variables. -/
theorem exists_of_mem_ownContents {c : ScopeVariables}
    (hlength : lists.length = (chosenReferences scopeName scopes).length)
    (hc : c ∈ ownContents scopeName scopes lists) : ∃ s ∈ scopes, c.scopeName = s.name ∧
      c.expensive = s.expensive ∧ c.content.isSome = s.isChosen scopeName := by
  induction scopes generalizing lists with
  | nil => cases hc
  | cons s rest ih =>
    rw [ownContents] at hc
    by_cases hchosen : s.isChosen scopeName
    · rw [chosenReferences_cons_of_pos hchosen] at hlength
      obtain ⟨list, others, rfl⟩ : ∃ list others, lists = list :: others :=
        List.exists_cons_of_length_eq_add_one hlength
      rw [if_pos hchosen] at hc
      rcases List.mem_cons.1 hc with rfl | hc
      · exact ⟨s, List.mem_cons_self, rfl, rfl, hchosen.symm⟩
      · obtain ⟨t, ht, hsame⟩ := ih (Nat.succ.inj hlength) hc
        exact ⟨t, List.mem_cons_of_mem s ht, hsame⟩
    · rw [chosenReferences_cons_of_neg hchosen] at hlength
      rw [if_neg hchosen] at hc
      rcases List.mem_cons.1 hc with rfl | hc
      · exact ⟨s, List.mem_cons_self, rfl, rfl, (Bool.eq_false_iff.2 hchosen).symm⟩
      · obtain ⟨t, ht, hsame⟩ := ih hlength hc
        exact ⟨t, List.mem_cons_of_mem s ht, hsame⟩

/-- **When each scope gets its own list**, whatever the lists are. -/
theorem handOut_putAll_iff
    (hlength : lists.length = (chosenReferences scopeName scopes).length) :
    handOut scopes (putAll ((chosenReferences scopeName scopes).zip lists)) =
      ownContents scopeName scopes lists ↔ Unshared scopeName scopes := by
  refine ⟨unshared_of_handOut hlength, fun h => handOut_eq_ownContents h hlength fun s _ => ?_⟩
  rw [fetchedFor_putAll, fetchedFor_reverse]
  rw [List.map_fst_zip hlength.ge]
  exact h.nodup

end HandOut

/-! ### Asking -/

/-- The chosen scopes were asked for in their order, and answered with these lists. -/
inductive Fetched (generation : Nat) : List Scope → List Exchange → List (List Variable) → Prop
  | none : Fetched generation [] [] []
  | next {s : Scope} {rest : List Scope} {asked : List Exchange} {lists : List (List Variable)}
      {answer : Except Error Json} {list : List Variable}
      (answered : s.fetch.result answer = .ok list)
      (others : Fetched generation rest asked lists) :
      Fetched generation (s :: rest) (.request (s.fetch.on generation) answer :: asked)
        (list :: lists)

/-- There is one list for each chosen scope. -/
theorem Fetched.length_eq {generation : Nat} {chosen : List Scope} {asked : List Exchange}
    {lists : List (List Variable)} (h : Fetched generation chosen asked lists) :
    lists.length = chosen.length := by
  induction h with
  | none => rfl
  | next _ _ ih => rw [List.length_cons, List.length_cons, ih]

/-- There is one list for each chosen reference. -/
theorem Fetched.length_chosen {generation : Nat} {scopes : List Scope} {asked : List Exchange}
    {lists : List (List Variable)} {scopeName : Option String}
    (h : Fetched generation (scopes.filter (·.isChosen scopeName)) asked lists) :
    lists.length = (chosenReferences scopeName scopes).length := by
  rw [h.length_eq, chosenReferences, List.length_map]

namespace Debugger

/-- The scopes of a frame were asked for, and then the variables of the chosen ones. -/
structure Fetches (scopeName : Option String) (frame : StackFrame) (scopes : List Scope)
    (lists : List (List Variable)) (d d' : Debugger σ) : Prop where
  exists_asked : ∃ answer asked,
    (Call.scopes { frameId := frame.id }).result answer = .ok scopes ∧
      Fetched d.generation (scopes.filter (·.isChosen scopeName)) asked lists ∧
      d'.exchanges = asked.reverse ++
        .request ((Call.scopes { frameId := frame.id }).on d.generation) answer :: d.exchanges

theorem scopesToFetch_some (scopes : List Scope) (name : String) :
    scopesToFetch scopes (some name) =
      if scopes.filter (·.isChosen (some name)) = [] then .error (.scopeNotFound name)
      else .ok (scopes.filter (·.isChosen (some name))) := by
  have hchosen : scopes.filter (·.isChosen (some name)) = scopes.filter (·.name = name) := rfl
  rw [hchosen, scopesToFetch]
  cases scopes.filter (·.name = name) <;> rfl

/-- What is fetched are the chosen scopes, in the order of the answer. -/
theorem scopesToFetch_eq {scopes chosen : List Scope} {scopeName : Option String}
    (h : scopesToFetch scopes scopeName = .ok chosen) :
    chosen = scopes.filter (·.isChosen scopeName) := by
  cases scopeName with
  | none => exact (Except.ok.inj h).symm
  | some name =>
    rw [scopesToFetch_some] at h
    split_ifs at h
    exact (Except.ok.inj h).symm

/-- Calls for the variables of the chosen scopes that have all succeeded. -/
theorem fetched_of_answered {generation : Nat} {chosen : List Scope} {asked : List Exchange}
    {lists : List (List Variable)}
    (h : Answered generation (chosen.map (·.fetch)) asked lists) :
    Fetched generation chosen asked lists := by
  induction chosen generalizing asked lists with
  | nil => cases h with | nil => exact .none
  | cons s rest ih => cases h with | cons success others => exact .next success (ih others)

variable [Environment σ]

/-- Where the variables of the chosen scopes were asked for together, each request has its list. -/
theorem fetched_sendAll {chosen : List Scope} {d d' : Debugger σ} {lists : List (List Variable)}
    (h : Action.sendAll (chosen.map (·.fetch)) d = (.ok lists, d')) :
    ∃ asked, Fetched d.generation chosen asked lists ∧
      d'.exchanges = asked.reverse ++ d.exchanges := by
  obtain ⟨environment, session, asked, result, -, -, htogether, heq⟩ :=
    Action.sendAll_apply (chosen.map (·.fetch)) d
  obtain ⟨rfl, rfl⟩ := Prod.mk.inj (heq.symm.trans h)
  generalize hcalls : chosen.map (·.fetch) = calls at htogether
  cases htogether with
  | answered all =>
    subst hcalls
    exact ⟨asked, fetched_of_answered all, rfl⟩

/-- The contents handed out are looked up in a table of what was answered. -/
theorem scopeContents_eq {d : Debugger σ} {scopeName : Option String} {frame : StackFrame}
    (hframe : (currentFrame d).1 = .ok (some frame)) {contents : List ScopeVariables}
    (hcontents : (scopeContents scopeName d).1 = .ok contents) : ∃ scopes lists,
      Fetches scopeName frame scopes lists (currentFrame d).2 (scopeContents scopeName d).2 ∧
      contents = handOut scopes (putAll ((chosenReferences scopeName scopes).zip lists)) := by
  rcases hcurrent : currentFrame d with ⟨result, d₁⟩
  rw [hcurrent] at hframe
  obtain rfl : result = .ok (some frame) := hframe
  rcases hrun : scopeContents scopeName d with ⟨result, d'⟩
  rw [hrun] at hcontents
  obtain rfl : result = .ok contents := hcontents
  -- each step has succeeded, for the whole has
  rw [scopeContents, Action.requireSession_bind_apply] at hrun
  split_ifs at hrun
  · cases hrun
  · cases hrun
  rw [Action.bind_apply, hcurrent] at hrun
  dsimp only at hrun
  obtain ⟨environment, session, answer, -, -, hsend⟩ :=
    Action.send_apply (Call.scopes { frameId := frame.id }) d₁
  rw [Action.bind_apply, hsend] at hrun
  cases hscopes : (Call.scopes { frameId := frame.id }).result answer with
  | error e =>
    rw [hscopes] at hrun
    cases hrun
  | ok scopes =>
  rw [hscopes] at hrun
  dsimp only at hrun
  rw [Action.bind_apply, Action.ofExcept_apply] at hrun
  cases hchosen : scopesToFetch scopes scopeName with
  | error e =>
    rw [hchosen] at hrun
    cases hrun
  | ok chosen =>
  rw [hchosen] at hrun
  obtain rfl := scopesToFetch_eq hchosen
  dsimp only at hrun
  rw [Action.bind_apply, List.map_map] at hrun
  split at hrun
  · rename_i lists d₂ hlists
    obtain ⟨hcontents, rfl⟩ := Prod.mk.inj hrun
    obtain rfl := Except.ok.inj hcontents
    obtain ⟨asked, hfetched, hexchanges⟩ := fetched_sendAll hlists
    exact ⟨scopes, lists, ⟨answer, asked, hscopes, hfetched, hexchanges⟩, rfl⟩
  · cases hrun

/-- **When the variables of a scope are its own.**  The scopes come as the adapter has listed them.
Each chosen one has what its own request was answered with, and every other one nothing, if and only
if no chosen scope has the reference of a scope listed before it.  In any case the first scope with
a reference has the last list for it, and the others with the reference have nothing. -/
theorem variables_own_iff {d : Debugger σ} {scopeName : Option String} {frame : StackFrame}
    (hframe : (currentFrame d).1 = .ok (some frame)) {contents : List ScopeVariables}
    (hcontents : (scopeContents scopeName d).1 = .ok contents) : ∃ scopes lists,
      Fetches scopeName frame scopes lists (currentFrame d).2 (scopeContents scopeName d).2 ∧
      contents.map (fun c => (c.scopeName, c.expensive)) =
        scopes.map (fun s => (s.name, s.expensive)) ∧
      (contents = ownContents scopeName scopes lists ↔ Unshared scopeName scopes) ∧
      ∀ (place : Nat) (s : Scope), scopes[place]? = some s →
        contents[place]? = some ⟨s.name, s.expensive,
          if (scopes.take place).any (·.variablesReference = s.variablesReference) then none
          else fetchedFor s.variablesReference
            ((chosenReferences scopeName scopes).zip lists).reverse⟩ := by
  obtain ⟨scopes, lists, hfetches, rfl⟩ := scopeContents_eq hframe hcontents
  obtain ⟨answer, asked, -, hfetched, -⟩ := hfetches.exists_asked
  refine ⟨scopes, lists, hfetches, map_handOut _ _, handOut_putAll_iff hfetched.length_chosen,
    fun place s hs => ?_⟩
  rw [getElem?_handOut, hs, Option.map_some, fetchedFor_putAll]

/-- Variables it speaks of: the scopes have different references, and one of them is expensive. -/
theorem variables_own_iff_scripted :
    let d := (Move.steps Script.standing [] (Script.rehearse { frames := Script.usualFrames })).2
    ∃ frame contents, (currentFrame d).1 = .ok (some frame) ∧
      (scopeContents none d).1 = .ok contents ∧
      contents.map (fun c => (c.scopeName, c.expensive, c.content.map (·.length))) =
        [("Locals", false, some 1), ("Globals", true, none)] ∧
      ∃ scopes lists,
        Fetches none frame scopes lists (currentFrame d).2 (scopeContents none d).2 ∧
        (contents = ownContents none scopes lists ↔ Unshared none scopes) := by
  intro d
  have hlisted : (scopeContents none d).1.toOption.map (·.map fun c =>
      (c.scopeName, c.expensive, c.content.map (·.length))) =
        some [("Locals", false, some 1), ("Globals", true, none)] := by decide +kernel
  have hstands : ((currentFrame d).1.toOption.bind id).isSome := by decide +kernel
  rcases hframe : (currentFrame d).1 with e | _ | frame <;> rw [hframe] at hstands
  · cases hstands
  · cases hstands
  cases hcontents : (scopeContents none d).1 with
  | error e =>
    rw [hcontents] at hlisted
    cases hlisted
  | ok contents =>
    rw [hcontents] at hlisted
    obtain ⟨scopes, lists, hfetches, -, hiff, -⟩ := variables_own_iff hframe hcontents
    exact ⟨frame, contents, rfl, rfl, Option.some.inj hlisted, scopes, lists, hfetches, hiff⟩

end Debugger

/-- An adapter with two scopes under one reference. -/
def Script.sharing : Script where
  frames := usualFrames
  usual := [("scopes", Json.object [("scopes", .arr (["Locals", "Registers"].map fun name =>
    Json.object [("name", .str name), ("variablesReference", .int 5)]))])]

/-- The variables of a scope are not always its own: a scope that was asked for has none. -/
theorem Debugger.variables_not_always_own : ¬∀ (history : List (Step Script)) (d : Debugger Script),
    Run history d → ∀ scopeName frame contents, (currentFrame d).1 = .ok (some frame) →
      (scopeContents scopeName d).1 = .ok contents → ∃ scopes lists,
        Fetches scopeName frame scopes lists (currentFrame d).2 (scopeContents scopeName d).2 ∧
        contents = ownContents scopeName scopes lists := by
  intro h
  let run := Move.steps Script.standing [] (Script.rehearse Script.sharing)
  have hrun : Run run.1 run.2 := (Run.start _ _ _).steps _
  have hlisted : (scopeContents none run.2).1.toOption.map (·.any fun c =>
      !c.expensive && c.content.isNone) = some true := by decide +kernel
  have hstands : ((currentFrame run.2).1.toOption.bind id).isSome := by decide +kernel
  rcases hframe : (currentFrame run.2).1 with e | _ | frame <;> rw [hframe] at hstands
  · cases hstands
  · cases hstands
  cases hcontents : (scopeContents none run.2).1 with
  | error e =>
    rw [hcontents] at hlisted
    cases hlisted
  | ok contents =>
    obtain ⟨scopes, lists, hfetches, rfl⟩ := h _ _ hrun none frame contents hframe hcontents
    obtain ⟨answer, asked, -, hfetched, -⟩ := hfetches.exists_asked
    rw [hcontents] at hlisted
    obtain ⟨c, hc, hmissing⟩ := List.any_eq_true.1 (Option.some.inj hlisted)
    obtain ⟨s, -, -, hexpensive, hcontent⟩ := exists_of_mem_ownContents hfetched.length_chosen hc
    obtain ⟨hcheap, hnone⟩ := Bool.and_eq_true_iff.1 hmissing
    rw [Scope.isChosen, ← hexpensive, hcheap, Option.isNone_iff_eq_none.1 hnone] at hcontent
    cases hcontent

end DebugConsole
