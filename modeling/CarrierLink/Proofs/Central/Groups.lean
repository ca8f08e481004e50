import CarrierLink.Proofs.Central.Isolation

/-!
# Calls at the same time

A task that asks for several calls at once sends them in their order and gets the answers in
any order. The task of such a group (`CarrierLink.Task.Amid`) is known by the number of calls
that it has sent, and a call goes by its slot, its place in the group.

Which calls have an answer (`CarrierLink.Task.HasAnswer`) does not change when one is sent, and
grows by the one slot when one is answered (`CarrierLink.Task.Amid.hasAnswer_without`). A single
call is a group of one.
-/

namespace CarrierLink

/-- The tickets of the calls of a group. -/
def tickets (calls : List Call) : List Ticket := calls.mapIdx fun slot call => ⟨slot, call⟩

theorem getElem?_tickets {calls : List Call} {slot : Nat} :
    (tickets calls)[slot]? = calls[slot]?.map fun call => ⟨slot, call⟩ := by
  rw [tickets, List.getElem?_mapIdx]

namespace Task

/-- **A task amid a group of calls**: it has made the first of them, waits for some of these, and
is not through. -/
structure Amid (calls : List Call) (made : Nat) (t : Task) : Prop where
  queued : t.queued = (tickets calls).drop made
  sent : ∀ ticket ∈ t.sent, ticket.slot < made ∧ calls[ticket.slot]? = some ticket.call
  busy : t.unanswered ≠ []

/-- The call of a slot has its answer. -/
def HasAnswer (t : Task) (slot : Nat) : Prop := ∀ ticket ∈ t.unanswered, ticket.slot ≠ slot

section Group

variable {calls : List Call} {made : Nat} {t : Task} {ticket : Ticket}

theorem amid_askingAll (work : Work) (h : calls ≠ []) : (askingAll work calls).Amid calls 0 where
  queued := rfl
  sent := by simp [askingAll]
  busy := by simpa [askingAll, unanswered] using h

/-- No call has its answer before it is made. -/
theorem getElem?_eq_none_of_hasAnswer {work : Work} {slot : Nat}
    (h : (askingAll work calls).HasAnswer slot) : calls[slot]? = none := by
  cases hcall : calls[slot]? with
  | none => rfl
  | some call =>
    have hmem : ⟨slot, call⟩ ∈ tickets calls :=
      List.mem_of_getElem? (getElem?_tickets.trans (congrArg _ hcall))
    exact absurd rfl (h ⟨slot, call⟩ (List.mem_append_left _ hmem))

/-- **A call is sent**: the next of the group. -/
theorem Amid.send {queued : List Ticket} (h : t.Amid calls made)
    (hqueued : t.queued = ticket :: queued) :
    calls.take (made + 1) = calls.take made ++ [ticket.call] ∧
      Amid calls (made + 1) { t with queued, sent := t.sent ++ [ticket] } := by
  have hdrop := h.queued.symm.trans hqueued
  have hticket : (tickets calls)[made]? = some ticket := by
    rw [← List.head?_drop, hdrop, List.head?_cons]
  rw [getElem?_tickets, Option.map_eq_some_iff] at hticket
  obtain ⟨call, hcall, rfl⟩ := hticket
  refine ⟨by rw [List.take_add_one, hcall, Option.toList_some], ?_, ?_, by simp [unanswered]⟩
  · rw [← List.drop_drop, hdrop, List.drop_one, List.tail_cons]
  · refine List.forall_mem_append.mpr ⟨fun ticket hmem => ?_, by simpa using hcall⟩
    exact ⟨Nat.lt_succ_of_lt (h.sent ticket hmem).1, (h.sent ticket hmem).2⟩

/-- Sending a call answers none. -/
theorem hasAnswer_send {queued : List Ticket} (hqueued : t.queued = ticket :: queued)
    (slot : Nat) :
    HasAnswer { t with queued, sent := t.sent ++ [ticket] } slot ↔ t.HasAnswer slot := by
  simp only [HasAnswer, unanswered, hqueued, List.mem_append, List.mem_cons]
  grind

/-- **A call is answered**, and no other with it. -/
theorem Amid.hasAnswer_without (h : t.Amid calls made) (hmem : ticket ∈ t.sent) (slot : Nat) :
    (t.without ticket.slot).HasAnswer slot ↔ t.HasAnswer slot ∨ slot = ticket.slot := by
  have hqueued (other : Ticket) (hother : other ∈ t.queued) : other.slot ≠ ticket.slot := by
    rw [h.queued] at hother
    obtain ⟨i, hi⟩ := List.mem_iff_getElem?.mp hother
    rw [List.getElem?_drop, getElem?_tickets, Option.map_eq_some_iff] at hi
    obtain ⟨call, -, rfl⟩ := hi
    have hlt := (h.sent ticket hmem).1
    change made + i ≠ ticket.slot
    omega
  simp only [HasAnswer, unanswered, without, List.mem_append, List.mem_filter, bne_iff_ne]
  grind

/-- The group goes on while there are calls without an answer. -/
theorem Amid.without (h : t.Amid calls made) (slot : Nat)
    (hbusy : (t.without slot).isIdle = false) : (t.without slot).Amid calls made where
  queued := h.queued
  sent := fun other hother => h.sent other (List.mem_of_mem_filter hother)
  busy := List.isEmpty_eq_false_iff.mp hbusy

/-- **The group is through**: all its calls have been made. -/
theorem Amid.take_eq (h : t.Amid calls made) {slot : Nat} (hidle : (t.without slot).isIdle) :
    calls.take made = calls := by
  have hqueued : t.queued = [] :=
    (List.append_eq_nil_iff.mp (List.isEmpty_iff.mp hidle)).1
  refine List.take_of_length_le ?_
  simpa [h.queued, tickets] using hqueued

theorem hasAnswer_of_isIdle (h : t.isIdle) (slot : Nat) : t.HasAnswer slot := by
  simp [HasAnswer, List.isEmpty_iff.mp h]

/-- An answer leaves fewer calls out. -/
theorem length_sent_without (hmem : ticket ∈ t.sent) :
    (t.without ticket.slot).sent.length < t.sent.length :=
  List.length_filter_lt_length_iff_exists.mpr ⟨ticket, hmem, by simp⟩

/-- In a group of one the call that is answered is the one that there is. -/
theorem Amid.eq_of_single {call : Call} (h : t.Amid [call] made) (hmem : ticket ∈ t.sent) :
    ticket = ⟨0, call⟩ ∧ [call].take made = [call] := by
  obtain ⟨hlt, hcall⟩ := h.sent ticket hmem
  obtain ⟨hslot, rfl⟩ : ticket.slot = 0 ∧ call = ticket.call := by
    simpa [List.getElem?_singleton] using hcall
  refine ⟨by rw [← hslot], List.take_of_length_le ?_⟩
  simpa using Nat.one_le_of_lt hlt

end Group

end Task

end CarrierLink
