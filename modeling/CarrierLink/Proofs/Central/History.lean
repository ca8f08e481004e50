import CarrierLink.Central.System
import Mathlib.Data.List.Induction

/-!
# Histories of a central

A run of a central (`CarrierLink.System.run`) only keeps the state that it ends in and what
could be seen of it. The laws of a central speak about the states on the way and about who
acts at each of them, so this module keeps everything: a *moment*
(`CarrierLink.Moment`) is one action with the state before it, the state after it and what
could be seen, and a state *leads* to another by a list of moments
(`CarrierLink.System.Leads`) when each is a step from where the one before has ended.
`CarrierLink.System.run_iff_leads` says that these lists are the runs, no more and no less.

## Whom an action is for

A callback carries no session. What a session has told the observer is read off the actions
instead: an action belongs to the session whose connect cycle, pump or teardown makes it
(`CarrierLink.System.cycle?`), and what a session has *told*
(`CarrierLink.told`) is all that the actions belonging to it have called back. A request
belongs to no session in this sense. It may still hold a handle of one, and
`CarrierLink.System.transfer?` says which request a reply concludes.
-/

namespace CarrierLink

/-! ### Moments -/

/-- **A moment of a run**: one action, the states around it, and what could be seen of it. -/
structure Moment where
  before : System
  action : Action
  after : System
  seen : List (Actor × Event)

/-- The callback of an event, if it is one. -/
def Event.callback? : Event → Option Callback
  | .callback told => some told
  | .call _ => none

/-- The call of an event, if it is one. -/
def Event.call? : Event → Option Call
  | .call asked => some asked
  | .callback _ => none

/-- What the observer was told, in order. -/
def callbacksIn (seen : List (Actor × Event)) : List Callback :=
  seen.filterMap fun entry => entry.2.callback?

/-- The calls of a task among all that could be seen, in order. -/
def callsIn (seen : List (Actor × Event)) (number : Nat) : List Call :=
  seen.filterMap fun entry => if entry.1 = .task number then entry.2.call? else none

@[simp] theorem callbacksIn_callbacks (actor : Actor) (callbacks : List Callback) :
    callbacksIn (callbacks.map fun callback => (actor, .callback callback)) = callbacks := by
  rw [callbacksIn, List.filterMap_map]
  exact List.filterMap_some

@[simp] theorem callbacksIn_call (actor : Actor) (call : Call) :
    callbacksIn [(actor, .call call)] = [] := rfl

@[simp] theorem callsIn_callbacks (actor : Actor) (callbacks : List Callback) (number : Nat) :
    callsIn (callbacks.map fun callback => (actor, .callback callback)) number = [] := by
  simp [callsIn, Event.call?]

/-- The callbacks of a moment. -/
def Moment.callbacks (m : Moment) : List Callback := callbacksIn m.seen

namespace System

/-! ### From one state to another -/

/-- **A state leads to another** by way of the given moments, one after the other. -/
def Leads : System → List Moment → System → Prop
  | s, [], t => s = t
  | s, m :: rest, t =>
    m.before = s ∧ s.step m.action = some (m.after, m.seen) ∧ m.after.Leads rest t

theorem leads_cons {s t : System} {m : Moment} {rest : List Moment} :
    s.Leads (m :: rest) t ↔
      m.before = s ∧ s.step m.action = some (m.after, m.seen) ∧ m.after.Leads rest t :=
  Iff.rfl

theorem leads_append {s t : System} {first rest : List Moment} :
    s.Leads (first ++ rest) t ↔ ∃ u, s.Leads first u ∧ u.Leads rest t := by
  induction first generalizing s with
  | nil => simp [Leads]
  | cons m first ih =>
    simp only [List.cons_append, leads_cons, ih]
    constructor
    · rintro ⟨hbefore, hstep, u, hfirst, hrest⟩
      exact ⟨u, ⟨hbefore, hstep, hfirst⟩, hrest⟩
    · rintro ⟨u, ⟨hbefore, hstep, hfirst⟩, hrest⟩
      exact ⟨hbefore, hstep, u, hfirst, hrest⟩

/-- A history that is cut at a moment: what led to it, the step itself, and what came of it. -/
theorem Leads.split {s t : System} {past later : List Moment} {m : Moment}
    (h : s.Leads (past ++ m :: later) t) :
    s.Leads past m.before ∧ m.before.step m.action = some (m.after, m.seen) ∧
      m.after.Leads later t := by
  obtain ⟨u, hpast, hbefore, hstep, hlater⟩ := leads_append.mp h
  subst hbefore
  exact ⟨hpast, hstep, hlater⟩

/-- A history with one moment more. -/
theorem Leads.snoc {s : System} {past : List Moment} {m : Moment} (h : s.Leads past m.before)
    (hstep : m.before.step m.action = some (m.after, m.seen)) :
    s.Leads (past ++ [m]) m.after :=
  leads_append.mpr ⟨m.before, h, rfl, hstep, rfl⟩

/-- **Induction along a history**: what holds at its start, and at the end of every moment
if it held before it, holds of the whole. -/
theorem Leads.induction {s : System} {motive : List Moment → System → Prop}
    (start : motive [] s)
    (next : ∀ past m, s.Leads past m.before →
      m.before.step m.action = some (m.after, m.seen) → motive past m.before →
      motive (past ++ [m]) m.after)
    {ms : List Moment} {t : System} (h : s.Leads ms t) : motive ms t := by
  -- A history grows at its end, and so does everything that is read off it.
  induction ms using List.reverseRecOn generalizing t with
  | nil => exact h ▸ start
  | append_singleton past m ih =>
    obtain ⟨hpast, hstep, rfl⟩ := h.split
    exact next past m hpast hstep (ih hpast)

/-- What holds at the start of a history and is kept by every step holds at its end. -/
theorem Leads.invariant {P : System → Prop}
    (hstep : ∀ s action t seen, P s → s.step action = some (t, seen) → P t)
    {s t : System} {ms : List Moment} (h : s.Leads ms t) (hs : P s) : P t :=
  Leads.induction (motive := fun _ t => P t) hs
    (fun _ m _ hm ih => hstep m.before m.action m.after m.seen ih hm) h

/-- **The histories are the runs.** -/
theorem run_iff_leads {s t : System} {actions : List Action} {seen : List (Actor × Event)} :
    s.run actions = some (t, seen) ↔
      ∃ ms, s.Leads ms t ∧ ms.map Moment.action = actions ∧ ms.flatMap Moment.seen = seen := by
  induction actions generalizing s seen with
  | nil =>
    simp only [run, Option.some.injEq, Prod.mk.injEq, List.map_eq_nil_iff]
    constructor
    · rintro ⟨rfl, rfl⟩
      exact ⟨[], rfl, rfl, rfl⟩
    · rintro ⟨ms, h, rfl, rfl⟩
      exact ⟨h, rfl⟩
  | cons action rest ih =>
    simp only [run, Option.bind_eq_bind, Option.bind_eq_some_iff, Option.pure_def,
      Option.some.injEq, Prod.exists, Prod.mk.injEq]
    constructor
    · rintro ⟨u, now, hstep, v, soon, hrest, rfl, rfl⟩
      obtain ⟨ms, hms, rfl, rfl⟩ := ih.mp hrest
      exact ⟨⟨s, action, u, now⟩ :: ms, ⟨rfl, hstep, hms⟩, rfl, rfl⟩
    · rintro ⟨ms, hms, hactions, rfl⟩
      -- The first moment of the history is the first step of the run.
      cases ms with
      | nil => simp at hactions
      | cons m ms =>
        obtain ⟨rfl, rfl⟩ : m.action = action ∧ ms.map Moment.action = rest := by
          simpa using hactions
        obtain ⟨rfl, hstep, hrest⟩ := hms
        exact ⟨m.after, m.seen, hstep, t, _, ih.mpr ⟨ms, hrest, rfl, rfl⟩, rfl, rfl⟩

/-- **The history of a run**, as far as its actions can happen. -/
def history (s : System) : List Action → List Moment
  | [] => []
  | action :: rest =>
    match s.step action with
    | some (t, seen) => ⟨s, action, t, seen⟩ :: t.history rest
    | none => []

theorem leads_history {s t : System} {actions : List Action} {seen : List (Actor × Event)}
    (h : s.run actions = some (t, seen)) :
    s.Leads (s.history actions) t ∧ (s.history actions).map Moment.action = actions := by
  induction actions generalizing s seen with
  | nil => exact ⟨(Prod.mk.inj (Option.some.inj h)).1, rfl⟩
  | cons action rest ih =>
    simp only [run, Option.bind_eq_bind, Option.bind_eq_some_iff, Option.pure_def,
      Option.some.injEq, Prod.exists, Prod.mk.injEq] at h
    obtain ⟨u, now, hstep, v, soon, hrest, rfl, -⟩ := h
    obtain ⟨hleads, hactions⟩ := ih hrest
    rw [history, hstep]
    exact ⟨⟨rfl, hstep, hleads⟩, congrArg (action :: ·) hactions⟩

end System

/-! ### Whom an action is for -/

/-- The session whose connect cycle a task is, or whose connection it closes. -/
def Task.cycle? (t : Task) : Option Nat :=
  match t.work with
  | .attempt session _ => some session
  | .hangUp session => session
  | .single .. | .pair .. | .finished _ => none

/-- The session whose connect cycle a task is. -/
def Task.attempt? (t : Task) : Option Nat :=
  match t.work with
  | .attempt session _ => some session
  | .hangUp _ | .single .. | .pair .. | .finished _ => none

/-- The request of a task that waits in a slot. -/
def Task.transfer? (t : Task) (slot : Nat) : Option Transfer :=
  match t.work with
  | .single transfer _ => some transfer
  | .pair first second _ =>
    match slot, first, second with
    | 0, .pending transfer, _ => some transfer
    | 1, _, .pending transfer => some transfer
    | _, _, _ => none
  | .attempt .. | .hangUp _ | .finished _ => none

namespace System

/-- **The session that an action is for**: the one whose connect cycle begins or goes on,
whose connection is closed, or whose pump has something to do. -/
def cycle? (s : System) : Action → Option Nat
  | .start .connect =>
    if s.central.connection.phase = .disconnected then some (s.central.sessions + 1) else none
  | .start .disconnect => s.central.connection.session
  | .start (.run _) => none
  | .send number | .reply number _ _ => s.tasks[number]?.bind Task.cycle?
  | .push session _ | .endOfStream session => some session

/-- The session whose own connect cycle begins or goes on. -/
def attempt? (s : System) : Action → Option Nat
  | .start .connect => s.cycle? (.start .connect)
  | .send number | .reply number _ _ => s.tasks[number]?.bind Task.attempt?
  | .start _ | .push .. | .endOfStream _ => none

/-- **The session that is to be closed**: by a disconnect that found it, or because its link
or the stream of its events has come to an end. -/
def closing? (s : System) : Action → Option Nat
  | .start .disconnect => s.central.connection.session
  | .reply number _ _ => s.tasks[number]?.bind fun task =>
    match task.work with
    | .hangUp session => session
    | _ => none
  | .push session .disconnected | .endOfStream session => some session
  | .start _ | .send _ | .push _ (.notification ..) => none

/-- **The request that an action is for**: the one whose call is sent or answered. -/
def transfer? (s : System) : Action → Option Transfer
  | .send number => do
    let task ← s.tasks[number]?
    let ticket ← task.queued.head?
    task.transfer? ticket.slot
  | .reply number slot _ => s.tasks[number]?.bind (Task.transfer? · slot)
  | .start _ | .push .. | .endOfStream _ => none

end System

/-- The session that the action of a moment is for. -/
def Moment.cycle? (m : Moment) : Option Nat := m.before.cycle? m.action

/-- A moment is for a session when it is its cycle's, its pump's or its teardown's, or when
it is for a request that belongs to it. -/
def Moment.IsFor (m : Moment) (session : Nat) : Prop :=
  m.cycle? = some session ∨
    ∃ transfer, m.before.transfer? m.action = some transfer ∧ transfer.session = session

/-- A task begins with a moment. -/
def Moment.Begins (m : Moment) (number : Nat) (operation : Operation) : Prop :=
  m.action = .start operation ∧ m.before.tasks.length = number

/-- **What a session has told the observer** in a history: the callbacks of the moments that
are for it. -/
def told (ms : List Moment) (session : Nat) : List Callback :=
  ms.flatMap fun m => if m.cycle? = some session then m.callbacks else []

theorem told_append (first rest : List Moment) (session : Nat) :
    told (first ++ rest) session = told first session ++ told rest session := by
  simp [told]

theorem told_cons (m : Moment) (rest : List Moment) (session : Nat) :
    told (m :: rest) session =
      (if m.cycle? = some session then m.callbacks else []) ++ told rest session := by
  simp [told]

theorem told_snoc (past : List Moment) (m : Moment) (session : Nat) :
    told (past ++ [m]) session =
      told past session ++ if m.cycle? = some session then m.callbacks else [] := by
  simp [told]

/-- Whatever a session has told was told at one of its moments. -/
theorem mem_told {ms : List Moment} {session : Nat} {callback : Callback} :
    callback ∈ told ms session ↔
      ∃ m ∈ ms, m.cycle? = some session ∧ callback ∈ m.callbacks := by
  simp only [told, List.mem_flatMap]
  refine exists_congr fun m => and_congr_right fun _ => ?_
  split
  · simp_all
  · simp_all

/-! ### What a step is made of -/

namespace System

variable {s t : System} {now : List (Actor × Event)}

theorem step_start {operation : Operation} (h : s.step (.start operation) = some (t, now)) :
    t = ⟨(Task.start s.central operation).central,
        s.tasks ++ [(Task.start s.central operation).task]⟩ ∧
      callbacksIn now = (Task.start s.central operation).callbacks ∧
      ∀ number, callsIn now number = [] := by
  simp only [step, afterTurn] at h
  split at h
  · simp only [Option.some.injEq, Prod.mk.injEq] at h
    obtain ⟨rfl, rfl⟩ := h
    simp
  · exact absurd h (by simp)

theorem step_send {number : Nat} (h : s.step (.send number) = some (t, now)) :
    ∃ task ticket queued, s.tasks[number]? = some task ∧ task.queued = ticket :: queued ∧
      t = ⟨s.central,
        s.tasks.set number { task with queued, sent := task.sent ++ [ticket] }⟩ ∧
      now = [(.task number, .call ticket.call)] := by
  simp only [step, Option.bind_eq_bind, Option.bind_eq_some_iff] at h
  obtain ⟨task, htask, h⟩ := h
  split at h
  next ticket queued hqueued =>
    split at h
    · simp only [Option.some.injEq, Prod.mk.injEq] at h
      exact ⟨task, ticket, queued, htask, hqueued, h.1.symm, h.2.symm⟩
    · exact absurd h (by simp)
  next => exact absurd h (by simp)

theorem step_reply {number slot : Nat} {reply : Reply}
    (h : s.step (.reply number slot reply) = some (t, now)) :
    ∃ task turn, s.tasks[number]? = some task ∧
      task.answer s.central slot reply = some turn ∧
      t = ⟨turn.central, s.tasks.set number turn.task⟩ ∧
      callbacksIn now = turn.callbacks ∧ ∀ number, callsIn now number = [] := by
  simp only [step, Option.bind_eq_bind, Option.bind_eq_some_iff] at h
  obtain ⟨task, htask, h⟩ := h
  split at h
  · obtain ⟨turn, hturn, h⟩ := Option.bind_eq_some_iff.mp h
    simp only [afterTurn, Option.some.injEq, Prod.mk.injEq] at h
    obtain ⟨rfl, rfl⟩ := h
    exact ⟨task, turn, htask, hturn, rfl, by simp, by simp⟩
  · exact absurd h (by simp)

theorem step_push {session : Nat} {event : LinkEvent}
    (h : s.step (.push session event) = some (t, now)) :
    s.hasPump session ∧ t = { s with central := (s.central.receive session event).1 } ∧
      callbacksIn now = (s.central.receive session event).2 ∧
      ∀ number, callsIn now number = [] := by
  simp only [step, afterPump] at h
  split at h
  next hfree =>
    simp only [Option.some.injEq, Prod.mk.injEq] at h
    obtain ⟨rfl, rfl⟩ := h
    exact ⟨by simp_all, rfl, by simp, by simp⟩
  next => exact absurd h (by simp)

/-- The end of a stream is to a pump what a lost link is. -/
theorem step_endOfStream {session : Nat} (h : s.step (.endOfStream session) = some (t, now)) :
    s.step (.push session .disconnected) = some (t, now) := h

/-- **What a step does to a task**: nothing, unless the task itself sends or is answered. -/
theorem step_task {action : Action} {number : Nat} {task : Task}
    (h : s.step action = some (t, now)) (htask : s.tasks[number]? = some task) :
    (t.tasks[number]? = some task ∧ callsIn now number = [] ∧ action ≠ .send number ∧
      ∀ slot reply, action ≠ .reply number slot reply) ∨
    (action = .send number ∧ ∃ ticket queued, task.queued = ticket :: queued ∧
      t.tasks[number]? = some { task with queued, sent := task.sent ++ [ticket] } ∧
      t.central = s.central ∧ now = [(.task number, .call ticket.call)]) ∨
    ∃ slot reply turn, action = .reply number slot reply ∧
      task.answer s.central slot reply = some turn ∧ t.tasks[number]? = some turn.task ∧
      t.central = turn.central ∧ callbacksIn now = turn.callbacks ∧
      callsIn now number = [] := by
  have hlt : number < s.tasks.length := (List.getElem?_eq_some_iff.mp htask).1
  cases action with
  | start operation =>
    obtain ⟨rfl, -, hcalls⟩ := step_start h
    refine .inl ⟨?_, hcalls number, by simp, by simp⟩
    rw [List.getElem?_append_left hlt, htask]
  | send number' =>
    obtain ⟨task', ticket, queued, htask', hqueued, rfl, rfl⟩ := step_send h
    by_cases hnumber : number' = number
    · subst hnumber
      obtain rfl : task' = task := Option.some.inj (htask'.symm.trans htask)
      exact .inr (.inl ⟨rfl, ticket, queued, hqueued, by simp [hlt], rfl, rfl⟩)
    · exact .inl ⟨by simpa [hnumber] using htask, by simp [callsIn, hnumber],
        by simpa using hnumber, by simp⟩
  | reply number' slot reply =>
    obtain ⟨task', turn, htask', hturn, rfl, hcallbacks, hcalls⟩ := step_reply h
    by_cases hnumber : number' = number
    · subst hnumber
      obtain rfl : task' = task := Option.some.inj (htask'.symm.trans htask)
      exact .inr (.inr ⟨slot, reply, turn, rfl, hturn, by simp [hlt], rfl, hcallbacks,
        hcalls number'⟩)
    · refine .inl ⟨by simpa [hnumber] using htask, hcalls number, by simp, ?_⟩
      intro slot' reply' heq
      exact hnumber (Action.reply.inj heq).1
  | push session event =>
    obtain ⟨-, rfl, -, hcalls⟩ := step_push h
    exact .inl ⟨htask, hcalls number, by simp, by simp⟩
  | endOfStream session =>
    obtain ⟨-, rfl, -, hcalls⟩ := step_push (step_endOfStream h)
    exact .inl ⟨htask, hcalls number, by simp, by simp⟩

end System

end CarrierLink
