import CarrierLink.Proofs.Central.Receipts

/-!
# Who has the floor

A task that has calls to send keeps the floor until it has sent them: nobody else takes a turn
in the meantime. The laws of a single task rest on this where they say that something comes
next, and this module has the rule in the forms in which they need it: what a step asks of the
floor (`CarrierLink.System.isFloorFree_of_step`), what can only come next while a task has
calls to send (`CarrierLink.System.speaks_of_queued`, `CarrierLink.System.eq_send_of_queued`),
who has the floor afterwards (`CarrierLink.System.isFloorFree_of_start`,
`CarrierLink.System.isFloorFree_of_speaks`), and which steps are possible
(`CarrierLink.System.isSome_send`, `CarrierLink.System.isSome_reply`).
-/

namespace CarrierLink

namespace System

variable {s t : System} {action : Action} {now : List (Actor × Event)} {number : Nat}
  {task : Task}

/-- The floor is free when nobody but the given task has anything to send. -/
theorem isFloorFree_iff {except : Option Nat} :
    s.isFloorFree except ↔ ∀ number task, s.tasks[number]? = some task →
      some number = except ∨ task.queued = [] := by
  simp only [isFloorFree, List.all_eq_true, id_eq]
  constructor
  · intro h number task htask
    obtain ⟨hlt, rfl⟩ := List.getElem?_eq_some_iff.mp htask
    simpa using h _ (List.mem_mapIdx.mpr ⟨number, hlt, rfl⟩)
  · intro h entry hmem
    obtain ⟨number, hlt, rfl⟩ := List.mem_mapIdx.mp hmem
    simpa using h number _ (List.getElem?_eq_getElem hlt)

/-- The task that an action is a step of, if it is one of a task that is there. -/
def speaker? : Action → Option Nat
  | .send number | .reply number _ _ => some number
  | .start _ | .push .. | .endOfStream _ => none

/-- **Whoever acts has the floor.** -/
theorem isFloorFree_of_step (h : s.step action = some (t, now)) :
    s.isFloorFree (speaker? action) := by
  cases action with
  | start operation =>
    simp only [step, Option.ite_none_right_eq_some] at h
    exact h.1
  | send number =>
    simp only [step, Option.bind_eq_bind, Option.bind_eq_some_iff] at h
    obtain ⟨task, -, h⟩ := h
    split at h
    · exact (Option.ite_none_right_eq_some.mp h).1
    · exact absurd h (by simp)
  | reply number slot reply =>
    simp only [step, Option.bind_eq_bind, Option.bind_eq_some_iff] at h
    obtain ⟨task, -, h⟩ := h
    exact (Option.ite_none_right_eq_some.mp h).1
  | push session event =>
    simp only [step, Option.ite_none_right_eq_some, Bool.and_eq_true] at h
    exact h.1.1
  | endOfStream session =>
    simp only [step, Option.ite_none_right_eq_some, Bool.and_eq_true] at h
    exact h.1.1

/-- Whoever starts has waited until nobody has anything to send. -/
theorem isFloorFree_of_start {operation : Operation}
    (h : s.step (.start operation) = some (t, now)) : t.isFloorFree (some s.tasks.length) := by
  have hfree := isFloorFree_iff.mp (isFloorFree_of_step h)
  obtain ⟨rfl, -, -⟩ := step_start h
  refine isFloorFree_iff.mpr fun number task htask => ?_
  rcases eq_of_getElem?_concat htask with ⟨rfl, -⟩ | htask
  · exact .inl rfl
  · exact .inr ((hfree number task htask).resolve_left (by simp [speaker?]))

/-- A task that has a call to send can send it when it has the floor. -/
theorem isSome_send (htask : s.tasks[number]? = some task) (hqueued : task.queued ≠ [])
    (hfloor : s.isFloorFree (some number)) : (s.step (.send number)).isSome := by
  obtain ⟨ticket, queued, hqueued⟩ := List.exists_cons_of_ne_nil hqueued
  simp [step, htask, hqueued, hfloor]

/-- A task that has the floor takes any reply from which it has a turn to make. -/
theorem isSome_reply {slot : Nat} {reply : Reply} (htask : s.tasks[number]? = some task)
    (hfloor : s.isFloorFree (some number))
    (hturn : (task.answer s.central slot reply).isSome) :
    (s.step (.reply number slot reply)).isSome := by
  obtain ⟨turn, hturn⟩ := Option.isSome_iff_exists.mp hturn
  simp [step, htask, hfloor, hturn]

/-- A task that has the floor keeps it in its own steps. -/
theorem isFloorFree_of_speaks (h : s.step action = some (t, now))
    (hspeaks : speaker? action = some number) : t.isFloorFree (some number) := by
  have hfree := isFloorFree_iff.mp (isFloorFree_of_step h)
  have hset (task' : Task) (hafter : t.tasks = s.tasks.set number task') :
      t.isFloorFree (some number) := by
    refine isFloorFree_iff.mpr fun number' task htask => ?_
    rw [hafter] at htask
    rcases eq_of_getElem?_set htask with ⟨rfl, -⟩ | ⟨-, htask⟩
    · exact .inl rfl
    · exact hspeaks ▸ hfree number' task htask
  cases action with
  | send number' =>
    obtain rfl : number' = number := Option.some.inj hspeaks
    obtain ⟨task, ticket, queued, -, -, rfl, -⟩ := step_send h
    exact hset _ rfl
  | reply number' slot reply =>
    obtain rfl : number' = number := Option.some.inj hspeaks
    obtain ⟨task, turn, -, -, rfl, -⟩ := step_reply h
    exact hset _ rfl
  | _ => exact absurd hspeaks (by simp [speaker?])

/-- **All that is seen of a turn** is what the task tells the observer. -/
theorem seen_of_turn (h : s.step action = some (t, now)) (hturn : s.turn? action = some number) :
    now = (callbacksIn now).map fun callback => (.task number, .callback callback) := by
  cases action with
  | start operation =>
    obtain rfl := Option.some.inj hturn
    simp only [step, afterTurn, Option.ite_none_right_eq_some, Option.some.injEq,
      Prod.mk.injEq] at h
    obtain ⟨-, -, rfl⟩ := h
    rw [callbacksIn_callbacks]
  | reply number' slot reply =>
    obtain rfl := Option.some.inj hturn
    simp only [step, Option.bind_eq_bind, Option.bind_eq_some_iff] at h
    obtain ⟨task, -, h⟩ := h
    obtain ⟨turn, -, h⟩ := Option.bind_eq_some_iff.mp (Option.ite_none_right_eq_some.mp h).2
    simp only [afterTurn, Option.some.injEq, Prod.mk.injEq] at h
    obtain ⟨-, rfl⟩ := h
    rw [callbacksIn_callbacks]
  | _ => exact absurd hturn (by simp [turn?])

end System

end CarrierLink
