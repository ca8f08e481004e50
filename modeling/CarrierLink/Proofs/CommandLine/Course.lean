import CarrierLink.CommandLine.Program
import CarrierLink.Proofs.Central.Soundness

/-!
# What a step of the program is

A program runs one operation on its central after the other. This module takes its steps
apart (`CarrierLink.Program.Moves`): the operation under way has a step of its own, the
platform answers it, a link has something to report, the program looks at a report, or it
goes on to its next stage. Only the last of these starts an operation or changes the stage.

What it goes on with after an operation is a matter of its stages
(`CarrierLink.Program.Goes`).

A law of programs is proved on one step (`CarrierLink.Program.run_induction`). Whatever the
program does, its central stays one that a history of operations can lead to
(`CarrierLink.Program.Reached`), so that all the laws of a central hold of it.
-/

namespace CarrierLink

namespace Program

variable {p p' q : Program} {reports : List Callback}

/-! ### What showing and printing leave alone -/

@[simp] theorem show_system (p : Program) (report : Callback) :
    (p.show report).system = p.system := rfl

@[simp] theorem show_plan (p : Program) (report : Callback) : (p.show report).plan = p.plan := rfl

@[simp] theorem show_log (p : Program) (report : Callback) : (p.show report).log = p.log := rfl

@[simp] theorem show_stage (p : Program) (report : Callback) :
    (p.show report).stage = p.stage := rfl

/-- Whatever is queued, showing it concerns neither the central nor the radio. -/
theorem frame_foldl_show (reports : List Callback) (p : Program) :
    (reports.foldl «show» p).system = p.system ∧ (reports.foldl «show» p).plan = p.plan ∧
      (reports.foldl «show» p).log = p.log := by
  induction reports generalizing p with
  | nil => exact ⟨rfl, rfl, rfl⟩
  | cons report reports ih => exact ih (p.show report)

@[simp] theorem catchUp_system (p : Program) : p.catchUp.system = p.system :=
  (frame_foldl_show _ _).1

@[simp] theorem catchUp_plan (p : Program) : p.catchUp.plan = p.plan :=
  (frame_foldl_show _ _).2.1

@[simp] theorem catchUp_log (p : Program) : p.catchUp.log = p.log :=
  (frame_foldl_show _ _).2.2

@[simp] theorem print_system (p : Program) (lines : List String) :
    (p.print lines).system = p.system := rfl

@[simp] theorem print_plan (p : Program) (lines : List String) :
    (p.print lines).plan = p.plan := rfl

@[simp] theorem print_log (p : Program) (lines : List String) : (p.print lines).log = p.log := rfl

/-! ### Steps -/

/-- A step of the central, its reports being queued. -/
theorem act_eq_some {action : CarrierLink.Action} (h : p.act action = some (p', reports)) :
    ∃ system seen, p.system.step action = some (system, seen) ∧
      p' = { p with system, unseen := p.unseen ++ Program.reports seen } := by
  obtain ⟨⟨system, seen⟩, hstep, heq⟩ := Option.map_eq_some_iff.mp h
  exact ⟨system, seen, hstep, (Prod.mk.inj heq).1.symm⟩

/-- A new operation, with the stage that it belongs to. -/
theorem start_eq_some {operation : Operation} {stage : Stage}
    (h : p.start operation stage = some (p', reports)) :
    ∃ system seen, p.system.step (.start operation) = some (system, seen) ∧
      p' = { p with stage, system, unseen := p.unseen ++ Program.reports seen } :=
  act_eq_some h

/-- The action of the central that an action of the program amounts to, if it is no answer. -/
def central? (p : Program) : Action → Option CarrierLink.Action
  | .send => some (.send p.current)
  | .push session event => some (.push session event)
  | .endOfStream session => some (.endOfStream session)
  | .answer .. | .look | .proceed | .interrupt | .timeOut => none

/-- **What a step of the program is.** -/
inductive Moves (p : Program) : Action → Program → Prop
  /-- The operation under way sends a call, or a link has something to report. -/
  | acts {action : Action} {act : CarrierLink.Action} {system : System}
      {seen : List (Actor × Event)} (haction : p.central? action = some act)
      (hstep : p.system.step act = some (system, seen)) :
      Moves p action { p with system, unseen := p.unseen ++ Program.reports seen }
  /-- The radio is through with a call. -/
  | answers {slot : Nat} {result : Radio.Result} {call : Call} {reply : Reply} {system : System}
      {seen : List (Actor × Event)} (hcall : p.call? slot = some call)
      (hreply : Radio.reply? p.plan.filter call result = some reply)
      (hstep : p.system.step (.reply p.current slot reply) = some (system, seen)) :
      Moves p (.answer slot result) { p with
        log := p.log ++ Radio.steps call result
        system, unseen := p.unseen ++ Program.reports seen }
  /-- The program looks at a report, and perhaps prints it. -/
  | looks {p' : Program} (hsystem : p'.system = p.system) (hplan : p'.plan = p.plan)
      (hlog : p'.log = p.log) (hstage : p'.stage = p.stage) : Moves p .look p'
  /-- The program goes on after an operation. -/
  | proceeds {outcome : Outcome} {p' : Program} {reports : List Callback}
      (houtcome : p.outcome? = some outcome) (h : p.proceed outcome = some (p', reports)) :
      Moves p .proceed p'
  /-- The program has watched for long enough. -/
  | leaves {action : Action} {q p' : Program} {seconds : Option Nat} {reports : List Callback}
      (haction : action = .look ∨ action = .interrupt ∨ action = .timeOut)
      (hstage : p.stage = .watching seconds) (h : q.leave = some (p', reports))
      (hsystem : q.system = p.system) (hplan : q.plan = p.plan) (hlog : q.log = p.log) :
      Moves p action p'

theorem moves_of_watch {seconds : Option Nat} {report : Callback} {unseen : List Callback}
    (hstage : p.stage = .watching seconds)
    (h : { p with unseen }.watch report = some (p', reports)) : p.Moves .look p' := by
  cases report with
  | disconnected =>
    have hleave : ({ p with unseen }.show .disconnected).leave = some (p', reports) := h
    exact .leaves (.inl rfl) hstage hleave rfl rfl rfl
  | _ =>
    obtain ⟨rfl, -⟩ := Prod.mk.inj (Option.some.inj h)
    exact .looks rfl rfl rfl rfl

theorem moves_of_step {action : Action} (h : p.step action = some (p', reports)) :
    p.Moves action p' := by
  rw [step] at h
  split at h
  · exact absurd h (by simp)
  cases action with
  | send =>
    obtain ⟨system, seen, hstep, rfl⟩ := act_eq_some h
    exact .acts rfl hstep
  | answer slot result =>
    simp only [take, Option.bind_eq_bind, Option.bind_eq_some_iff] at h
    obtain ⟨call, hcall, reply, hreply, h⟩ := h
    obtain ⟨system, seen, hstep, rfl⟩ := act_eq_some h
    exact .answers hcall hreply hstep
  | push session event =>
    obtain ⟨system, seen, hstep, rfl⟩ := act_eq_some h
    exact .acts rfl hstep
  | endOfStream session =>
    obtain ⟨system, seen, hstep, rfl⟩ := act_eq_some h
    exact .acts rfl hstep
  | look =>
    simp only [take] at h
    split at h
    · obtain ⟨rfl, -⟩ := Prod.mk.inj (Option.some.inj h)
      exact .looks rfl rfl rfl rfl
    next hstage _ => exact moves_of_watch hstage h
    · exact absurd h (by simp)
  | proceed =>
    obtain ⟨outcome, houtcome, h⟩ := Option.bind_eq_some_iff.mp h
    exact .proceeds houtcome h
  | interrupt =>
    simp only [take] at h
    split at h
    next hstage => exact .leaves (.inr (.inl rfl)) hstage h rfl rfl rfl
    next => exact absurd h (by simp)
  | timeOut =>
    simp only [take] at h
    split at h
    next hstage => exact .leaves (.inr (.inr rfl)) hstage h rfl rfl rfl
    next => exact absurd h (by simp)

/-! ### What the stages go on with -/

/-- A stage from which the program goes on with its connection, after an outcome. -/
def Stage.GoesOn : Stage → Outcome → Prop
  | .opening, .ok _ => True
  | .settingClock, _ | .working _, _ => True
  | _, _ => False

/-- A stage after which the program is over, after an outcome. -/
def Stage.IsLast : Stage → Outcome → Prop
  | .opening, .error _ => True
  | .abandoning _, _ | .closing _, _ => True
  | _, _ => False

/-- **What the program goes on with** after an outcome: nothing, watching, another script, or
the end of the connection. -/
inductive Goes (p : Program) (outcome : Outcome) (p' : Program) : Prop
  | stops {result : Except Error Unit} (hstage : p.stage.IsLast outcome)
      (hsystem : p'.system = p.system) (hlog : p'.log = p.log) (hended : p'.stage = .ended result)
  | watches {seconds : Option Nat} (hstage : p.stage.GoesOn outcome)
      (hsystem : p'.system = p.system) (hlog : p'.log = p.log)
      (hwatching : p'.stage = .watching seconds)
  | runs {q : Program} {script : Script} {stage : Stage} {reports : List Callback}
      (hstage : p.stage.GoesOn outcome) (hsystem : q.system = p.system) (hlog : q.log = p.log)
      (hstart : q.start (.run script) stage = some (p', reports))
      (hstage' : stage = .settingClock ∨ ∃ printed, stage = .working printed)
  | hangsUp {q : Program} {stage : Stage} {reports : List Callback}
      (hstage : p.stage.GoesOn outcome) (hsystem : q.system = p.system) (hlog : q.log = p.log)
      (hstart : q.start .disconnect stage = some (p', reports))
      (hstage' : (∃ e, stage = .abandoning e) ∨ ∃ result, stage = .closing result)

section Goes

variable {outcome : Outcome}

theorem goes_of_hangUp {result : Except Error Unit} (hstage : p.stage.GoesOn outcome)
    (hsystem : q.system = p.system) (hlog : q.log = p.log)
    (h : q.hangUp result = some (p', reports)) : p.Goes outcome p' :=
  .hangsUp hstage (by simpa using hsystem) (by simpa using hlog) h (.inr ⟨result, rfl⟩)

theorem goes_of_startJob (hstage : p.stage.GoesOn outcome) (hsystem : q.system = p.system)
    (hlog : q.log = p.log) (h : q.startJob = some (p', reports)) : p.Goes outcome p' := by
  rw [startJob] at h
  split at h
  · exact .runs hstage hsystem hlog h (.inr ⟨_, rfl⟩)
  · obtain ⟨rfl, -⟩ := Prod.mk.inj (Option.some.inj h)
    exact .watches hstage hsystem hlog rfl
  · exact goes_of_hangUp hstage hsystem hlog h

theorem goes_of_stop {result : Except Error Unit} (hstage : p.stage.IsLast outcome)
    (hsystem : q.system = p.system) (hlog : q.log = p.log)
    (h : q.stop result = some (p', reports)) : p.Goes outcome p' := by
  obtain ⟨rfl, -⟩ := Prod.mk.inj (Option.some.inj h)
  exact .stops hstage hsystem hlog rfl

/-- **There is nothing else to go on with.** -/
theorem goes_of_proceed (h : p.proceed outcome = some (p', reports)) : p.Goes outcome p' := by
  simp only [proceed] at h
  split at h
  next hstage => exact goes_of_stop (by rw [hstage]; trivial) (by simp) (by simp) h
  next hstage =>
    have hgoes : p.stage.GoesOn (.ok ‹_›) := by rw [hstage]; trivial
    split at h
    · exact .runs hgoes (by simp) (by simp) h (.inl rfl)
    · exact goes_of_startJob hgoes (by simp) (by simp) h
  next e hstage => exact .hangsUp (by rw [hstage]; trivial) rfl rfl h (.inl ⟨e, rfl⟩)
  next hstage => exact goes_of_startJob (by rw [hstage]; trivial) (by simp) (by simp) h
  next hstage => exact goes_of_stop (by rw [hstage]; trivial) rfl rfl h
  next hstage => exact goes_of_hangUp (by rw [hstage]; trivial) rfl rfl h
  next hstage => exact goes_of_hangUp (by rw [hstage]; trivial) (by simp) (by simp) h
  next hstage => exact goes_of_stop (by rw [hstage]; trivial) (by simp) (by simp) h
  next => exact absurd h (by simp)
  next => exact absurd h (by simp)

end Goes

/-- A program that leaves the view closes its connection. -/
theorem leave_eq_some (h : p.leave = some (p', reports)) :
    ∃ q : Program, q.system = p.system ∧ q.log = p.log ∧
      q.start .disconnect (.closing (.ok ())) = some (p', reports) := by
  rw [leave] at h
  split at h
  · exact ⟨_, by simp, by simp, h⟩
  · exact ⟨_, by simp, by simp, h⟩

/-- **What a step of the program does to its central**, which is to connect only once. -/
theorem step_of_moves {action : Action} (h : p.Moves action p') :
    p'.system = p.system ∨ ∃ act seen, p.system.step act = some (p'.system, seen) ∧
      act ≠ .start .connect := by
  have hstart {q : Program} {operation : Operation} {stage : Stage} {reports : List Callback}
      (hsystem : q.system = p.system) (h : q.start operation stage = some (p', reports))
      (hoperation : operation ≠ .connect) :
      ∃ act seen, p.system.step act = some (p'.system, seen) ∧ act ≠ .start .connect := by
    obtain ⟨system, seen, hstep, rfl⟩ := start_eq_some h
    exact ⟨_, seen, hsystem ▸ hstep, by simpa using hoperation⟩
  cases h with
  | acts haction hstep =>
    refine .inr ⟨_, _, hstep, ?_⟩
    rintro rfl
    cases action <;> simp [central?] at haction
  | answers _ _ hstep => exact .inr ⟨_, _, hstep, by simp⟩
  | looks hsystem => exact .inl hsystem
  | proceeds _ h =>
    cases goes_of_proceed h with
    | stops _ hsystem => exact .inl hsystem
    | watches _ hsystem => exact .inl hsystem
    | runs _ hsystem _ h => exact .inr (hstart hsystem h (by simp))
    | hangsUp _ hsystem _ h => exact .inr (hstart hsystem h (by simp))
  | leaves _ _ h hsystem =>
    obtain ⟨q, hq, -, h⟩ := leave_eq_some h
    exact .inr (hstart (hq.trans hsystem) h (by simp))

/-! ### Runs -/

theorem run_cons {action : Action} {rest : List Action}
    (h : p.run (action :: rest) = some (q, reports)) :
    ∃ p' now later, p.step action = some (p', now) ∧ p'.run rest = some (q, later) ∧
      reports = now ++ later := by
  simp only [run, Option.bind_eq_bind, Option.bind_eq_some_iff] at h
  obtain ⟨⟨p', now⟩, hnow, ⟨q', later⟩, hlater, h⟩ := h
  obtain ⟨rfl, rfl⟩ := Prod.mk.inj (Option.some.inj h)
  exact ⟨p', now, later, hnow, hlater, rfl⟩

/-- A run that goes on with one more action. -/
theorem run_snoc {past : List Action} {action : Action}
    (h : p.run (past ++ [action]) = some (q, reports)) :
    ∃ p' soon now, p.run past = some (p', soon) ∧ p'.step action = some (q, now) := by
  induction past generalizing p reports with
  | nil =>
    obtain ⟨p', now, later, hnow, hlater, -⟩ := run_cons h
    obtain ⟨rfl, -⟩ := Prod.mk.inj (Option.some.inj hlater)
    exact ⟨p, [], now, rfl, hnow⟩
  | cons first past ih =>
    obtain ⟨p', now, later, hnow, hlater, -⟩ := run_cons h
    obtain ⟨p'', soon, now', hsoon, hlast⟩ := ih hlater
    refine ⟨p'', now ++ soon, now', ?_, hlast⟩
    simp [run, hnow, hsoon]

/-- **Induction along a run, with what has been done so far**: what holds at its start, and
after every action if it held before, holds at its end. -/
theorem run_induction_done {P : List Action → Program → Prop}
    (hstep : ∀ past action p' q' soon now, p.run past = some (p', soon) → P past p' →
      p'.step action = some (q', now) → P (past ++ [action]) q') {actions : List Action}
    (h : p.run actions = some (q, reports)) (hp : P [] p) : P actions q := by
  induction actions using List.reverseRecOn generalizing q reports with
  | nil =>
    obtain ⟨rfl, -⟩ := Prod.mk.inj (Option.some.inj h)
    exact hp
  | append_singleton past action ih =>
    obtain ⟨p', soon, now, hpast, hlast⟩ := run_snoc h
    exact hstep past action p' q soon now hpast (ih hpast) hlast

/-- **Induction along a run**: what every step keeps holds at its end. -/
theorem run_induction {P : Program → Prop}
    (hstep : ∀ {action} (p p' : Program), P p → p.Moves action p' → P p')
    {actions : List Action} (h : p.run actions = some (q, reports)) (hp : P p) : P q :=
  run_induction_done (P := fun _ p => P p)
    (fun _ _ p' q' _ _ _ hp' hnow => hstep p' q' hp' (moves_of_step hnow)) h hp

/-! ### The central of a program -/

/-- **The central is one that a history can lead to.** -/
def Reached (p : Program) : Prop :=
  ∃ ms, (System.initial p.plan.profile).Leads ms p.system

theorem Reached.sound (h : p.Reached) : p.system.Sound := by
  obtain ⟨ms, hms⟩ := h
  exact System.sound_of_leads hms

theorem Reached.profile_eq (h : p.Reached) : p.system.central.profile = p.plan.profile := by
  obtain ⟨ms, hms⟩ := h
  exact System.profile_eq_of_leads hms

theorem reached_initial (plan : Plan) : (initial plan).Reached := ⟨[], rfl⟩

/-- A program whose central has made one step more. -/
theorem Reached.next {action : CarrierLink.Action} {seen : List (Actor × Event)} (h : p.Reached)
    (hstep : p.system.step action = some (q.system, seen)) (hplan : q.plan = p.plan) :
    q.Reached := by
  obtain ⟨ms, hms⟩ := h
  rw [Reached, hplan]
  exact ⟨ms ++ [⟨p.system, action, q.system, seen⟩], System.Leads.snoc
    (m := ⟨p.system, action, q.system, seen⟩) hms hstep⟩

theorem Reached.congr (h : p.Reached) (hsystem : q.system = p.system) (hplan : q.plan = p.plan) :
    q.Reached := by
  rw [Reached, hsystem, hplan]
  exact h

/-! ### The operation under way -/

/-- The operation under way has a property. -/
def Doing (p : Program) (P : Task → Prop) : Prop :=
  ∃ task, p.system.tasks[p.current]? = some task ∧ P task

theorem Doing.congr {P : Task → Prop} (h : p.Doing P) (hsystem : q.system = p.system) :
    q.Doing P := by
  rw [Doing, current, hsystem]
  exact h

/-- The operation under way after a step of its own. -/
theorem task_of_set {task task' : Task} (htask : p.system.tasks[p.current]? = some task)
    (htasks : q.system.tasks = p.system.tasks.set p.current task') :
    q.system.tasks[q.current]? = some task' := by
  rw [current, htasks, List.length_set]
  exact List.getElem?_set_self (List.getElem?_eq_some_iff.mp htask).1

/-- What was started last is the operation under way. -/
theorem doing_of_start {operation : Operation} {stage : Stage}
    (h : p.start operation stage = some (p', reports)) :
    p'.stage = stage ∧ p'.plan = p.plan ∧ p'.log = p.log ∧
      p'.Doing (· = (Task.start p.system.central operation).task) ∧
      (p.Reached → p'.Reached) := by
  obtain ⟨system, seen, hstep, rfl⟩ := start_eq_some h
  refine ⟨rfl, rfl, rfl, ⟨_, ?_, rfl⟩, fun hreached => hreached.next hstep rfl⟩
  obtain ⟨rfl, -, -⟩ := System.step_start hstep
  simp [current]

/-- What the first turn of an operation makes of the central. -/
theorem central_of_start {operation : Operation} {stage : Stage}
    (h : p.start operation stage = some (p', reports)) :
    p'.system.central = (Task.start p.system.central operation).central := by
  obtain ⟨system, seen, hstep, rfl⟩ := start_eq_some h
  obtain ⟨rfl, -, -⟩ := System.step_start hstep
  rfl

/-- **A step of the central that is no answer** leaves the operation under way to the same
work, with no more calls than before. -/
theorem doing_of_acts {action : Action} {act : CarrierLink.Action} {system : System}
    {seen : List (Actor × Event)} {task : Task} (haction : p.central? action = some act)
    (hstep : p.system.step act = some (system, seen))
    (htask : p.system.tasks[p.current]? = some task) :
    ∃ task', system.tasks[system.tasks.length - 1]? = some task' ∧ task'.work = task.work ∧
      ∀ ticket ∈ task'.unanswered, ticket ∈ task.unanswered := by
  cases action with
  | send =>
    obtain rfl := Option.some.inj haction
    obtain ⟨task', ticket, queued, htask', hqueued, rfl, -⟩ := System.step_send hstep
    obtain rfl : task' = task := Option.some.inj (htask'.symm.trans htask)
    have hlt := (List.getElem?_eq_some_iff.mp htask).1
    refine ⟨{ task' with queued, sent := task'.sent ++ [ticket] }, ?_, rfl, ?_⟩
    · rw [List.length_set]
      exact List.getElem?_set_self hlt
    · intro ticket' hmem
      simp only [Task.unanswered, hqueued, List.mem_append, List.mem_cons, List.not_mem_nil,
        or_false] at hmem ⊢
      tauto
  | push session event =>
    obtain rfl := Option.some.inj haction
    obtain ⟨-, rfl, -, -⟩ := System.step_push hstep
    exact ⟨task, htask, rfl, fun _ => id⟩
  | endOfStream session =>
    obtain rfl := Option.some.inj haction
    obtain ⟨-, rfl, -, -⟩ := System.step_push (System.step_endOfStream hstep)
    exact ⟨task, htask, rfl, fun _ => id⟩
  | _ => exact absurd haction (by simp [central?])

/-- **An answer** gives the operation under way its next turn. -/
theorem doing_of_answers {slot : Nat} {reply : Reply} {system : System}
    {seen : List (Actor × Event)} {task : Task}
    (hstep : p.system.step (.reply p.current slot reply) = some (system, seen))
    (htask : p.system.tasks[p.current]? = some task) :
    ∃ turn, task.answer p.system.central slot reply = some turn ∧
      system.tasks[system.tasks.length - 1]? = some turn.task := by
  obtain ⟨task', turn, htask', hturn, rfl, -, -⟩ := System.step_reply hstep
  obtain rfl : task' = task := Option.some.inj (htask'.symm.trans htask)
  have hlt := (List.getElem?_eq_some_iff.mp htask).1
  refine ⟨turn, hturn, ?_⟩
  rw [List.length_set]
  exact List.getElem?_set_self hlt

/-- The call that is answered is one that the operation under way waits for. -/
theorem exists_of_call? {slot : Nat} {call : Call} {task : Task}
    (htask : p.system.tasks[p.current]? = some task) (h : p.call? slot = some call) :
    ∃ ticket ∈ task.unanswered, ticket.slot = slot ∧ call = ticket.call := by
  simp only [call?, htask, Option.bind_some, Option.map_eq_some_iff] at h
  obtain ⟨ticket, hfind, rfl⟩ := h
  exact ⟨ticket, List.mem_append_right _ (List.mem_of_find?_eq_some hfind),
    by simpa using List.find?_some hfind, rfl⟩

end Program

end CarrierLink
