/-
# Whom a reader that has stopped leaves waiting

The reader empties the table once, when it stops, and does not look again.  Where a request stood
at that moment decides what becomes of it, as far as the reader goes:

| when the reader stops, the request | once it was written |
| --- | --- |
| has left the table | it ends with what was left for it |
| is in the table | it fails as soon as it goes on |
| is not in the table yet | it enters late: nobody takes it out, and it waits for its time limit |

So nothing waits on a dead stream if and only if nobody enters late (`Client.released_iff`), and a
request may do so as long as it can still be written (`Client.not_always_released`).
-/

import DebugConsole.Proofs.Routing

namespace DebugConsole
namespace Client

/-- Has the request with a number been in the table, and left it? -/
def HasLeft (seq : Nat) (c : Client) : Prop := ∃ t, c.ticket? seq = some t ∧ t.HasLeft

/-- The request with a number was entered into the table when the reader had stopped. -/
def EntersLate (steps : List Step) (seq : Nat) : Prop :=
  ∃ pre t, pre ++ [.entered seq] <+: steps ∧ (run pre).ended ∧ (run pre).ticket? seq = some t ∧
    t.stage = .numbered

/-- No request waits for a reader that has stopped. -/
structure Released (steps : List Step) : Prop where
  /-- No request stands in its table. -/
  empty {pre : List Step} (hpre : pre <+: steps) (hended : (run pre).ended) (seq : Nat) :
    (run pre).isPending seq = false
  /-- A request that had not left the table when it stopped, whether it was there or had yet to
  come, fails as soon as it goes on, once it was written. -/
  fails {stop pre : List Step} (hreading : (run stop).ended = false)
    (hstop : stop ++ [.streamEnded] <+: pre) (hpre : pre <+: steps) {seq : Nat}
    (hleft : ¬ (run stop).HasLeft seq) (hwritten : (run pre).isWritten seq) :
    ∃ e, ((run pre).step (.finished seq)).outcome? seq = some (.error e)

/-- A request waits for its own failure or time limit. -/
structure Waits (steps : List Step) (seq : Nat) : Prop where
  /-- It is in the table until it is over. -/
  pending : (run steps).isPending seq ↔ (run steps).outcome? seq = none
  /-- Going on leads nowhere. -/
  idle : ((run steps).step (.finished seq)).ticket? seq = (run steps).ticket? seq
  /-- When its time is up it is over. -/
  expires {t : Ticket} (ht : (run steps).ticket? seq = some t) (hwritten : t.isWritten)
    (seconds : Nat) : ((run steps).step (.expired seq seconds)).outcome? seq =
      some (.error (.timeout t.command seconds))
  /-- It ends in no other way, unless it cannot be written. -/
  only {t : Ticket} (ht : (run steps).ticket? seq = some t) {outcome : Except Error Json}
    (h : t.outcome = some outcome) : (∃ seconds, outcome = .error (.timeout t.command seconds)) ∨
      ∃ reason, outcome = .error (.inputOutput reason)

/-! ### When the reader stops -/

/-- A reader that has stopped does not start again. -/
theorem ended_mono {steps later : List Step} (h : steps <+: later) (hended : (run steps).ended) :
    (run later).ended := by
  obtain ⟨more, rfl⟩ := h
  induction more using List.reverseRecOn with
  | nil => rwa [List.append_nil]
  | append_singleton more s ih => rw [← List.append_assoc, run_concat, ended_step, ih, Bool.true_or]

/-- A reader that has stopped has done so at some point. -/
theorem exists_stop {steps : List Step} (h : (run steps).ended) :
    ∃ stop, (run stop).ended = false ∧ stop ++ [.streamEnded] <+: steps := by
  induction steps using List.reverseRecOn with
  | nil => cases h
  | append_singleton steps s ih =>
    cases hended : (run steps).ended with
    | true =>
      obtain ⟨stop, hreading, hstop⟩ := ih hended
      exact ⟨stop, hreading, hstop.trans (List.prefix_append _ _)⟩
    | false =>
      rw [run_concat, ended_step, hended, Bool.false_or] at h
      cases s with
      | streamEnded => exact ⟨steps, hended, List.prefix_refl _⟩
      | _ => cases h

/-- What came late is late for good. -/
theorem EntersLate.mono {steps later : List Step} {seq : Nat} (h : EntersLate steps seq)
    (hlater : steps <+: later) : EntersLate later seq := by
  obtain ⟨pre, t, hpre, hended, ht, hstage⟩ := h
  exact ⟨pre, t, hpre.trans hlater, hended, ht, hstage⟩

/-- Whatever holds of a request that has just got its number, and is kept by every occurrence, holds
throughout the rest of a run. -/
theorem forall_ticket?_append {P : List Step → Ticket → Prop} {base : List Step} {seq : Nat}
    (hbase : ∀ t, (run base).ticket? seq = some t → P base t)
    (hnew : ∀ steps t, t.stage = .numbered → P steps t)
    (hstep : ∀ steps s t, base <+: steps → (run steps).ticket? seq = some t → P steps t →
      P (steps ++ [s]) (t.react (run steps).ended s)) (more : List Step) {t : Ticket}
    (ht : (run (base ++ more)).ticket? seq = some t) : P (base ++ more) t := by
  induction more using List.reverseRecOn generalizing t with
  | nil =>
    rw [List.append_nil] at ht ⊢
    exact hbase t ht
  | append_singleton more s ih =>
    rw [← List.append_assoc, run_concat] at ht
    rw [← List.append_assoc]
    cases hbefore : (run (base ++ more)).ticket? seq with
    | some before =>
      rw [ticket?_step_of_some hbefore s] at ht
      obtain rfl := Option.some.inj ht
      exact hstep _ s before (List.prefix_append base more) hbefore (ih hbefore)
    | none =>
      rw [ticket?_step, hbefore, newcomer?] at ht
      obtain ⟨command, -, rfl⟩ := Option.map_eq_some_iff.1
        (Option.mem_toList.1 (List.mem_of_find?_eq_some ht))
      exact hnew _ _ rfl

/-- Where a request can stand when the reader has stopped after the occurrences `stopped`. -/
inductive Standing (stopped steps : List Step) (t : Ticket) : Prop
  | numbered (h : t.stage = .numbered)
  | late (h : EntersLate steps t.seq)
  | left (h : t.HasLeft) (hstopped : (run stopped).HasLeft t.seq)

/-- Whatever occurs next, a request stands in one of these ways still. -/
theorem Standing.step {stopped steps : List Step} {seq : Nat} {t : Ticket}
    (ht : (run steps).ticket? seq = some t) (hended : (run steps).ended)
    (h : Standing stopped steps t) (s : Step) :
    Standing stopped (steps ++ [s]) (t.react (run steps).ended s) := by
  obtain rfl := seq_of_ticket? ht
  have hturn : Ticket.Turn (run steps).ended s t (t.react (run steps).ended s) :=
    Ticket.turn_react s t
  generalize t.react (run steps).ended s = t' at hturn
  cases h with
  | late hlate => exact .late (hturn.seq_eq ▸ hlate.mono (List.prefix_append _ _))
  | left hleft hstopped => exact .left (hturn.hasLeft hleft) (hturn.seq_eq ▸ hstopped)
  | numbered hstage =>
    cases hturn with
    | idle => exact .numbered hstage
    | enters hs => exact .late ⟨steps, t, hs ▸ List.prefix_refl _, hended, ht, hstage⟩
    | answered _ hreading | dropped _ hreading => cases hended.symm.trans hreading
    | writes _ hother | refused _ hother | expired _ hother | finished _ hother =>
      cases hstage.symm.trans hother

/-- When the reader stops, every request in the table leaves it. -/
theorem numbered_or_hasLeft_drop (t : Ticket) : t.drop.stage = .numbered ∨ t.drop.HasLeft := by
  rcases t with ⟨seq, command, _ | (_ | _ | _) | (_ | _ | _) | outcome⟩
  case numbered => exact .inl rfl
  case ended => exact .inr trivial
  all_goals
    refine .inr ?_
    intro h
    cases h

/-- When the reader stops it drops every request that stands in the table. -/
theorem ticket?_stop {stop : List Step} (hreading : (run stop).ended = false) (seq : Nat) :
    (run (stop ++ [.streamEnded])).ticket? seq = ((run stop).ticket? seq).map Ticket.drop := by
  have hreact : Ticket.react (run stop).ended .streamEnded = Ticket.drop := by
    rw [hreading]
    rfl
  rw [run_concat, ticket?_step, hreact]
  exact Option.or_none

/-- After the reader has stopped every request stands in one of these ways. -/
theorem standing {stop steps : List Step} (hreading : (run stop).ended = false)
    (hstop : stop ++ [.streamEnded] <+: steps) {seq : Nat} {t : Ticket}
    (ht : (run steps).ticket? seq = some t) : Standing (stop ++ [.streamEnded]) steps t := by
  have hended : (run (stop ++ [.streamEnded])).ended := by
    rw [run_concat, ended_step]
    exact Bool.or_true _
  obtain ⟨more, rfl⟩ := hstop
  refine forall_ticket?_append (P := Standing _) (fun t ht => ?_) (fun _ _ => .numbered)
    (fun steps s t hbase ht h => h.step ht (ended_mono hbase hended) s) more ht
  have hseq := seq_of_ticket? ht
  rw [ticket?_stop hreading] at ht
  obtain ⟨before, -, rfl⟩ := Option.map_eq_some_iff.1 ht
  rcases numbered_or_hasLeft_drop before with hstage | hleft
  · exact .numbered hstage
  · refine .left hleft ⟨before.drop, ?_, hleft⟩
    rwa [ticket?_stop hreading, hseq]

/-! ### Who waits -/

/-- What still stands in the table then came late. -/
theorem entersLate_of_isPending {steps : List Step} (hended : (run steps).ended) {seq : Nat}
    (hpending : (run steps).isPending seq) : EntersLate steps seq := by
  obtain ⟨stop, hreading, hstop⟩ := exists_stop hended
  obtain ⟨t, ht, htabled⟩ := exists_ticket?_of_isPending hpending
  cases standing hreading hstop ht with
  | numbered hstage =>
    rw [Ticket.isTabled, hstage] at htabled
    cases htabled
  | late hlate => exact seq_of_ticket? ht ▸ hlate
  | left hleft => exact absurd htabled hleft.not_isTabled

/-- A request that leaves the table when the reader stops was in it. -/
theorem isPending_of_hasLeft {stop : List Step} (hreading : (run stop).ended = false) {seq : Nat}
    (hbefore : ¬ (run stop).HasLeft seq) (hafter : (run (stop ++ [.streamEnded])).HasLeft seq) :
    (run stop).isPending seq := by
  obtain ⟨t, ht, hleft⟩ := hafter
  rw [ticket?_stop hreading] at ht
  obtain ⟨before, hfound, rfl⟩ := Option.map_eq_some_iff.1 ht
  have hstays : ¬ before.HasLeft := fun h => hbefore ⟨before, hfound, h⟩
  rw [isPending_of_ticket? hfound]
  rcases before with ⟨seq, command, _ | (_ | _ | _) | (_ | _ | _) | outcome⟩
  case entered.tabled => rfl
  case written.tabled => rfl
  case numbered => exact hleft.elim
  case ended => exact absurd trivial hstays
  all_goals exact absurd hleft hstays

/-- A request that was written has a ticket that says so. -/
theorem exists_ticket?_of_isWritten {c : Client} {seq : Nat} (h : c.isWritten seq) :
    ∃ t, c.ticket? seq = some t ∧ t.isWritten := by
  rw [isWritten, Option.any_eq_true] at h
  exact h

/-- A request that is not late fails as soon as it is written. -/
theorem fails_of_not_entersLate {stop steps : List Step} (hreading : (run stop).ended = false)
    (hstop : stop ++ [.streamEnded] <+: steps) {seq : Nat} (hleft : ¬ (run stop).HasLeft seq)
    (hwritten : (run steps).isWritten seq) (hearly : ¬ EntersLate steps seq) :
    ((run steps).step (.finished seq)).outcome? seq = some (.error .adapterCrashed) := by
  obtain ⟨t, ht, hstage⟩ := exists_ticket?_of_isWritten hwritten
  obtain rfl := seq_of_ticket? ht
  cases standing hreading hstop ht with
  | numbered hnumbered =>
    rw [Ticket.isWritten, hnumbered] at hstage
    cases hstage
  | late hlate => exact absurd hlate hearly
  | left _ hstopped =>
    have hpending := isPending_of_hasLeft hreading hleft hstopped
    exact (endsWith_adapterCrashed hstop hreading hpending).finishes hwritten

/-- What can become of a request that enters late. -/
inductive IsAbandoned (t : Ticket) : Prop
  | entered (h : t.stage = .entered .tabled)
  | written (h : t.stage = .written .tabled)
  | expired {seconds : Nat} (h : t.stage = .ended (.error (.timeout t.command seconds)))
  | refused {reason : String} (h : t.stage = .ended (.error (.inputOutput reason)))

/-- A request that no one will answer stays so, whatever occurs. -/
theorem IsAbandoned.react {t : Ticket} (h : IsAbandoned t) (s : Step) :
    IsAbandoned (t.react true s) := by
  have hturn : Ticket.Turn true s t (t.react true s) := Ticket.turn_react s t
  generalize t.react true s = t' at hturn
  cases h with
  | entered hstage =>
    cases hturn with
    | idle => exact .entered hstage
    | enters => exact .entered rfl
    | writes _ hother =>
      cases hstage.symm.trans hother
      exact .written rfl
    | refused => exact .refused rfl
    | answered _ hreading | dropped _ hreading => cases hreading
    | expired _ hother | finished _ hother => cases hstage.symm.trans hother
  | written hstage =>
    cases hturn with
    | idle => exact .written hstage
    | expired => exact .expired rfl
    | finished _ hother hresult =>
      cases hstage.symm.trans hother
      cases hresult
    | answered _ hreading | dropped _ hreading => cases hreading
    | enters _ hother | writes _ hother | refused _ hother => cases hstage.symm.trans hother
  | expired hstage =>
    rw [hturn.eq_of_ended hstage]
    exact .expired hstage
  | refused hstage =>
    rw [hturn.eq_of_ended hstage]
    exact .refused hstage

/-- A request that came late is one of those. -/
theorem EntersLate.exists_isAbandoned {steps : List Step} {seq : Nat} (h : EntersLate steps seq) :
    ∃ t, (run steps).ticket? seq = some t ∧ IsAbandoned t := by
  obtain ⟨pre, t, ⟨more, rfl⟩, hended, ht, hstage⟩ := h
  have hentered := ticket?_step_of_some ht (.entered seq)
  rw [← run_concat] at hentered
  have habandoned : IsAbandoned (t.react (run pre).ended (.entered seq)) := by
    rw [Ticket.react, if_pos (seq_of_ticket? ht), Ticket.enter, hstage]
    exact .entered rfl
  refine exists_ticket?_append (P := fun _ => IsAbandoned) hentered habandoned
    (fun steps s t hbase _ h => ?_) more
  have hstopped : (run steps).ended := ended_mono ((List.prefix_append _ _).trans hbase) hended
  rw [hstopped]
  exact h.react s

/-- So it waits, until its time is up. -/
theorem waits_of_entersLate {steps : List Step} {seq : Nat} (h : EntersLate steps seq) :
    Waits steps seq := by
  obtain ⟨t, ht, habandoned⟩ := h.exists_isAbandoned
  have hseq := seq_of_ticket? ht
  have hunique {t' : Ticket} (ht' : (run steps).ticket? seq = some t') : t = t' :=
    Option.some.inj (ht.symm.trans ht')
  refine ⟨?_, ?_, fun ht' hwritten seconds => ?_, fun ht' outcome houtcome => ?_⟩
  · rw [isPending_of_ticket? ht, outcome?_of_ticket? ht, Ticket.isTabled, Ticket.outcome]
    cases habandoned with
    | entered hstage | written hstage | expired hstage | refused hstage => simp [hstage]
  · rw [ticket?_step_of_some ht, ht, Ticket.react, if_pos hseq, Ticket.finish]
    cases habandoned with
    | written hstage =>
      rw [hstage]
      rfl
    | entered hstage | expired hstage | refused hstage => rw [hstage]
  · obtain rfl := hunique ht'
    rw [outcome?_of_ticket? (ticket?_step_of_some ht _), Ticket.react, if_pos hseq, Ticket.expire]
    cases habandoned with
    | written hstage =>
      rw [hstage]
      rfl
    | entered hstage | expired hstage | refused hstage =>
      simp [Ticket.isWritten, hstage] at hwritten
  · obtain rfl := hunique ht'
    have hover := Ticket.stage_of_outcome houtcome
    cases habandoned with
    | entered hstage | written hstage => cases hstage.symm.trans hover
    | expired hstage => exact .inl ⟨_, Ticket.Stage.ended.inj (hover.symm.trans hstage)⟩
    | refused hstage => exact .inr ⟨_, Ticket.Stage.ended.inj (hover.symm.trans hstage)⟩

/-- **No request waits on a dead stream if and only if none enters late**, in any run.  Only those
who enter late stand in the table of a reader that has stopped, and they wait there until their own
time limit or write failure. -/
theorem released_iff (steps : List Step) :
    (Released steps ↔ ∀ seq, ¬ EntersLate steps seq) ∧
      ((run steps).ended → ∀ seq, (run steps).isPending seq → EntersLate steps seq) ∧
      ∀ seq, EntersLate steps seq → Waits steps seq := by
  refine ⟨⟨fun h seq hlate => ?_, fun h => ⟨fun hpre hended seq => ?_, ?_⟩⟩,
    fun hended _ hpending => entersLate_of_isPending hended hpending,
    fun _ hlate => waits_of_entersLate hlate⟩
  · obtain ⟨pre, t, hpre, hended, ht, hstage⟩ := hlate
    have hempty := h.empty hpre (ended_mono (List.prefix_append _ _) hended) seq
    rw [run_concat, isPending_of_ticket? (ticket?_step_of_some ht _), Ticket.react,
      if_pos (seq_of_ticket? ht), Ticket.enter, hstage] at hempty
    cases hempty
  · rw [← Bool.not_eq_true]
    exact fun hpending => h seq ((entersLate_of_isPending hended hpending).mono hpre)
  · intro stop pre hreading hstop hpre seq hleft hwritten
    exact ⟨_, fails_of_not_entersLate hreading hstop hleft hwritten
      fun hlate => h seq (hlate.mono hpre)⟩

/-- When the reader has just stopped, nobody has entered late. -/
theorem not_entersLate_stop {stop : List Step} (hreading : (run stop).ended = false) (seq : Nat) :
    ¬ EntersLate (stop ++ [.streamEnded]) seq := by
  rintro ⟨pre, t, hpre, hended, -, -⟩
  rcases List.prefix_concat_iff.1 hpre with heq | hpre
  · cases (List.append_inj' heq rfl).2
  · have hstopped := ended_mono ((List.prefix_append _ _).trans hpre) hended
    cases hreading.symm.trans hstopped

/-- The second request comes when the reader has stopped, and can be written. -/
def latecomer : List Step :=
  [ .numbered "threads", .entered 1, .written 1, .streamEnded,
    .numbered "pause", .entered 2, .written 2 ]

/-- **Requests may wait on a dead stream**: one that enters late and can be written does. -/
theorem not_always_released : ¬ ∀ steps, Released steps := fun h => by
  cases (h latecomer).empty (List.prefix_refl _) rfl 2

/-- Until it comes nobody waits; it waits until its time is up. -/
theorem released_iff_latecomer :
    Released (latecomer.take 3 ++ [.streamEnded]) ∧ EntersLate latecomer 2 ∧
      ((run latecomer).step (.finished 2)).ticket? 2 = (run latecomer).ticket? 2 ∧
      ((run latecomer).step (.expired 2 20)).outcome? 2 =
        some (.error (.timeout "pause" 20)) := by
  have hlate : EntersLate latecomer 2 := (released_iff latecomer).2.1 rfl 2 rfl
  have hwaits : Waits latecomer 2 := (released_iff latecomer).2.2 2 hlate
  exact ⟨(released_iff _).1.2 (not_entersLate_stop rfl), hlate, hwaits.idle,
    hwaits.expires (t := ⟨2, "pause", .written .tabled⟩) rfl rfl 20⟩

end Client
end DebugConsole
