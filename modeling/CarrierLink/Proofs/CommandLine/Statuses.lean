import CarrierLink.Proofs.CommandLine.Closing

/-!
# What the operator is told

Everything that the central reports goes into a queue, and the program shows what is in it when it
comes to look. A status that is shown is a line for the operator. This module says which lines
there are in the end (`CarrierLink.Program.statuses_of_run`).

What has been shown and what is still queued make up what has been reported, in its order
(`CarrierLink.Program.heard_of_run`). So all depends on whether the queue has been emptied when the
program ends. It has, but for one way out: a program that cannot set the clock of its board closes
the connection and ends without another look at the queue. From the beginning of the clock setting
on, the central has reported nothing but the end of the connection
(`CarrierLink.Program.Lingers`), and this is the status that the operator misses.
-/

namespace CarrierLink

/-! ### Texts -/

/-- The text of a status. -/
def Callback.text? : Callback → Option String
  | status text _ => some text
  | connected _ | disconnected | value .. => none

/-- The texts of the statuses among reports, in order. -/
def statusTexts (reports : List Callback) : List String := reports.filterMap Callback.text?

@[simp] theorem statusTexts_nil : statusTexts [] = [] := rfl

@[simp] theorem statusTexts_append (first rest : List Callback) :
    statusTexts (first ++ rest) = statusTexts first ++ statusTexts rest :=
  List.filterMap_append

theorem statusTexts_cons (report : Callback) (rest : List Callback) :
    statusTexts (report :: rest) = statusTexts [report] ++ statusTexts rest :=
  statusTexts_append [report] rest

/-- Values are no statuses. -/
theorem statusTexts_of_isValue {reports : List Callback}
    (h : ∀ report ∈ reports, report.isValue) : statusTexts reports = [] := by
  refine List.filterMap_eq_nil_iff.mpr fun report hmem => ?_
  have hvalue := h report hmem
  cases report with
  | value => rfl
  | _ => exact absurd hvalue Bool.false_ne_true

namespace Program

variable {p p' q : Program} {reports now : List Callback} {action : Action}

theorem reports_eq (seen : List (Actor × Event)) : Program.reports seen = callbacksIn seen := by
  refine List.filterMap_congr fun entry _ => ?_
  obtain ⟨actor, event⟩ := entry
  cases event <;> rfl

/-! ### What has been heard -/

/-- **What the operator has heard of**: what has been shown, and what is queued for it. -/
def heard (p : Program) : List String := p.statuses ++ statusTexts p.unseen

theorem statuses_show (p : Program) (report : Callback) :
    (p.show report).statuses = p.statuses ++ statusTexts [report] := by
  cases report with
  | status text level => rfl
  | _ => exact (List.append_nil _).symm

theorem heard_show (p : Program) (report : Callback) (unseen : List Callback) :
    ({ p with unseen }.show report).heard = p.statuses ++ statusTexts (report :: unseen) := by
  rw [heard, statuses_show, statusTexts_cons report unseen, ← List.append_assoc]
  rfl

theorem statuses_foldl_show (reports : List Callback) (p : Program) :
    (reports.foldl «show» p).statuses = p.statuses ++ statusTexts reports ∧
      (reports.foldl «show» p).unseen = p.unseen := by
  induction reports generalizing p with
  | nil => exact ⟨(List.append_nil _).symm, rfl⟩
  | cons report reports ih =>
    obtain ⟨hstatuses, hunseen⟩ := ih (p.show report)
    rw [statuses_show, List.append_assoc, ← statusTexts_cons] at hstatuses
    exact ⟨hstatuses, hunseen⟩

/-- **Catching up** shows everything. -/
theorem statuses_catchUp (p : Program) : p.catchUp.statuses = p.heard :=
  (statuses_foldl_show p.unseen { p with unseen := [] }).1

theorem unseen_catchUp (p : Program) : p.catchUp.unseen = [] :=
  (statuses_foldl_show p.unseen { p with unseen := [] }).2

theorem heard_catchUp (p : Program) : p.catchUp.heard = p.heard := by
  rw [heard, unseen_catchUp, statuses_catchUp]
  exact List.append_nil _

/-- What the central reports is queued. -/
theorem heard_act {act : CarrierLink.Action} (h : p.act act = some (p', now)) :
    p'.heard = p.heard ++ statusTexts now := by
  obtain ⟨⟨system, seen⟩, -, heq⟩ := Option.map_eq_some_iff.mp h
  obtain ⟨rfl, rfl⟩ := Prod.mk.inj heq
  simp [heard]

theorem heard_start {operation : Operation} {stage : Stage}
    (h : p.start operation stage = some (p', now)) : p'.heard = p.heard ++ statusTexts now :=
  heard_act (p := { p with stage }) h

theorem heard_stop {result : Except Error Unit} (h : p.stop result = some (p', now)) :
    p'.heard = p.heard ++ statusTexts now := by
  obtain ⟨rfl, rfl⟩ := Prod.mk.inj (Option.some.inj h)
  exact (List.append_nil _).symm

theorem heard_hangUp {result : Except Error Unit} (h : p.hangUp result = some (p', now)) :
    p'.heard = p.heard ++ statusTexts now := by
  rw [heard_start h, heard_catchUp]

theorem heard_startJob (h : p.startJob = some (p', now)) :
    p'.heard = p.heard ++ statusTexts now := by
  rw [startJob] at h
  split at h
  · exact heard_start h
  · obtain ⟨rfl, rfl⟩ := Prod.mk.inj (Option.some.inj h)
    exact (List.append_nil _).symm
  · exact heard_hangUp h

theorem heard_leave (h : p.leave = some (p', now)) : p'.heard = p.heard ++ statusTexts now := by
  rw [leave] at h
  split at h
  · exact heard_hangUp (p := p.print _) h
  · exact heard_hangUp h

/-- A report that is looked at moves from what is queued to what has been shown. -/
theorem heard_look {report : Callback} {unseen : List Callback}
    (hunseen : p.unseen = report :: unseen) : ({ p with unseen }.show report).heard = p.heard := by
  rw [heard_show, heard, hunseen]

theorem heard_watch {report : Callback} {unseen : List Callback}
    (hunseen : p.unseen = report :: unseen)
    (h : { p with unseen }.watch report = some (p', now)) :
    p'.heard = p.heard ++ statusTexts now := by
  have hlook := heard_look hunseen
  cases report with
  | disconnected =>
    have hleave : ({ p with unseen }.show .disconnected).leave = some (p', now) := h
    rw [heard_leave hleave, hlook]
  | _ =>
    obtain ⟨rfl, rfl⟩ := Prod.mk.inj (Option.some.inj h)
    exact hlook.trans (List.append_nil _).symm

theorem heard_proceed {outcome : Outcome} (h : p.proceed outcome = some (p', now)) :
    p'.heard = p.heard ++ statusTexts now := by
  simp only [proceed] at h
  split at h
  · rw [heard_stop h, heard_catchUp]
  · split at h
    · rw [heard_start h, heard_catchUp]
    · rw [heard_startJob h, heard_catchUp]
  · exact heard_start h
  · exact heard_startJob (p := p.print _) h
  · exact heard_stop h
  · exact heard_hangUp h
  · exact heard_hangUp (p := p.print _) h
  · rw [heard_stop h, heard_catchUp]
  · exact absurd h (by simp)
  · exact absurd h (by simp)

/-- **Every report of a step is heard of**, and nothing else. -/
theorem heard_of_step (h : p.step action = some (p', now)) :
    p'.heard = p.heard ++ statusTexts now := by
  rw [step] at h
  split at h
  · exact absurd h (by simp)
  cases action with
  | send => exact heard_act h
  | answer slot result =>
    simp only [take, Option.bind_eq_bind, Option.bind_eq_some_iff] at h
    obtain ⟨call, -, reply, -, h⟩ := h
    exact heard_act (p := { p with log := p.log ++ Radio.steps call result }) h
  | push session event => exact heard_act h
  | endOfStream session => exact heard_act h
  | look =>
    simp only [take] at h
    split at h
    next hunseen =>
      obtain ⟨rfl, rfl⟩ := Prod.mk.inj (Option.some.inj h)
      exact (heard_look hunseen).trans (List.append_nil _).symm
    next hunseen => exact heard_watch hunseen h
    · exact absurd h (by simp)
  | proceed =>
    obtain ⟨outcome, -, h⟩ := Option.bind_eq_some_iff.mp h
    exact heard_proceed h
  | interrupt =>
    simp only [take] at h
    split at h
    · exact heard_leave h
    · exact absurd h (by simp)
  | timeOut =>
    simp only [take] at h
    split at h
    · exact heard_leave h
    · exact absurd h (by simp)

/-- **Every report of a run is heard of**, in the order in which they were made. -/
theorem heard_of_run {actions : List Action} (h : p.run actions = some (q, reports)) :
    q.heard = p.heard ++ statusTexts reports := by
  induction actions generalizing p reports with
  | nil =>
    obtain ⟨rfl, rfl⟩ := Prod.mk.inj (Option.some.inj h)
    exact (List.append_nil _).symm
  | cons action rest ih =>
    obtain ⟨p', now, later, hnow, hlater, rfl⟩ := run_cons h
    rw [ih hlater, heard_of_step hnow, statusTexts_append, List.append_assoc]

/-! ### Going on -/

/-- The stages after the clock has been set. -/
def Stage.IsLater : Stage → Prop
  | .working _ | .watching _ | .closing _ => True
  | _ => False

theorem isLater_of_hangUp {result : Except Error Unit} (h : p.hangUp result = some (p', now)) :
    p'.stage.IsLater :=
  (doing_of_start h).1 ▸ trivial

theorem isLater_of_startJob (h : p.startJob = some (p', now)) : p'.stage.IsLater := by
  rw [startJob] at h
  split at h
  · exact (doing_of_start h).1 ▸ trivial
  · obtain ⟨rfl, -⟩ := Prod.mk.inj (Option.some.inj h)
    trivial
  · exact isLater_of_hangUp h

theorem isLater_of_leave (h : p.leave = some (p', now)) : p'.stage.IsLater := by
  rw [leave] at h
  split at h
  · exact isLater_of_hangUp h
  · exact isLater_of_hangUp h

/-- **What the program goes on with**, as far as its clock setting goes. Who ends has looked at
everything, unless the clock could not be set. -/
inductive Proceeds (p : Program) (outcome : Outcome) (now : List Callback) (p' : Program) : Prop
  | ends {result : Except Error Unit} (hclock : p.stage ≠ .settingClock)
      (hstage : ∀ e, p.stage ≠ .abandoning e) (hended : p'.stage = .ended result)
      (hunseen : p'.unseen = [])
  | sets (hstage : p.stage = .opening)
      (hstart : p.catchUp.start (.run (AlarmClock.setClock p.plan.now)) .settingClock =
        some (p', now))
  | abandons {e : Error} (hstage : p.stage = .settingClock)
      (hstart : p.start .disconnect (.abandoning e) = some (p', now))
  | gone {e : Error} (hstage : p.stage = .abandoning e)
      (hended : p' = { p with stage := .ended (.error e) })
  | later (hstage : ∀ e, p.stage ≠ .abandoning e) (hlater : p'.stage.IsLater)

theorem proceeds_of_proceed {outcome : Outcome} (h : p.proceed outcome = some (p', now)) :
    p.Proceeds outcome now p' := by
  have hends {result : Except Error Unit} (hclock : p.stage ≠ .settingClock)
      (hstage : ∀ e, p.stage ≠ .abandoning e)
      (h : p.catchUp.stop result = some (p', now)) : p.Proceeds outcome now p' := by
    obtain ⟨rfl, -⟩ := Prod.mk.inj (Option.some.inj h)
    exact .ends hclock hstage rfl (unseen_catchUp p)
  simp only [proceed] at h
  split at h
  next hstage => exact hends (by simp [hstage]) (by simp [hstage]) h
  next hstage =>
    split at h
    · exact .sets hstage h
    · exact .later (by simp [hstage]) (isLater_of_startJob h)
  next hstage => exact .abandons hstage h
  next hstage => exact .later (by simp [hstage]) (isLater_of_startJob h)
  next hstage => exact .gone hstage (Prod.mk.inj (Option.some.inj h)).1.symm
  next hstage => exact .later (by simp [hstage]) (isLater_of_hangUp h)
  next hstage => exact .later (by simp [hstage]) (isLater_of_hangUp h)
  next hstage => exact hends (by simp [hstage]) (by simp [hstage]) h
  next => exact absurd h (by simp)
  next => exact absurd h (by simp)

end Program

/-! ### The end of a session -/

/-- **At most the end of the session is reported**, when one central becomes another. -/
inductive Central.Parts (c : Central) : List String → Central → Prop
  | stays {c' : Central} (hsession : c'.connection.session = c.connection.session) : c.Parts [] c'
  | ends {c' : Central} (hlive : c.connection.session.isSome)
      (hdead : c'.connection.session = none) : c.Parts ["Disconnected"] c'

/-- Work that is not the connect cycle's says nothing else. -/
theorem Change.parts {session : Nat} {c c' : Central} {callbacks : List Callback}
    (h : Change session c false callbacks c') : c.Parts (statusTexts callbacks) c' := by
  cases h with
  | rests hcallbacks =>
    obtain rfl := List.eq_nil_iff_forall_not_mem.mpr fun callback hmem =>
      absurd (hcallbacks callback hmem).1 (by simp)
    exact .stays rfl
  | keeps hlive _ hcallbacks =>
    rw [statusTexts_of_isValue hcallbacks]
    exact .stays (by rw [Central.store_of_live hlive])
  | closes hlive => exact .ends (by simp [hlive]) rfl

/-- A disconnect says nothing else. -/
theorem Central.Coherent.hangUp_parts {c : Central} (hc : c.Coherent) (session : Option Nat) :
    c.Parts (statusTexts (hangUp c session).callbacks) (hangUp c session).central := by
  cases session with
  | none => exact .stays rfl
  | some session => exact (hc.close_change session).parts

/-- Who has closed the live session has left none. -/
theorem Central.Coherent.hangUp_dead {c : Central} (hc : c.Coherent) {session : Option Nat}
    (hnewest : ∀ live, c.connection.session = some live → session = some live) :
    (hangUp c session).central.connection.session = none := by
  cases hlive : c.connection.session with
  | none =>
    cases session with
    | none => exact hlive
    | some session =>
      simp only [hangUp]
      rwa [Central.close_of_dead (by simp [hlive])]
  | some live =>
    obtain rfl := hnewest live hlive
    simp only [hangUp]
    rw [hc.close_of_live hlive]
    rfl

/-! ### While the clock is set -/

namespace Program

section Lingers

/-- **What the program waits for** while it sets the clock or gives it up: one write, and then
the end of the session that is live. -/
inductive Stage.Winds (c : Central) : Stage → Work → Prop
  | writes {transfer : Transfer} {request : Request} :
      Winds c .settingClock (.single transfer request.next)
  | wrote {outcome : Outcome} : Winds c .settingClock (.finished outcome)
  | closes {e : Error} {session : Option Nat}
      (hlast : ∀ live, c.connection.session = some live → session = some live) :
      Winds c (.abandoning e) (.hangUp session)
  | closed {e : Error} {outcome : Outcome} (hdead : c.connection.session = none) :
      Winds c (.abandoning e) (.finished outcome)

/-- What the operator has not been told of the end of the session that was there. -/
def missed (connected : Bool) (c : Central) : List String :=
  if connected ∧ c.connection.session = none then ["Disconnected"] else []

/-- **Since the beginning of the clock setting** nothing has been shown, and the central has
reported the end of its session at most. -/
structure Lingers (connected : Bool) (p : Program) : Prop where
  unseen : statusTexts p.unseen = missed connected p.system.central
  live : p.system.central.connection.session.isSome → connected
  doing : p.Doing fun task => p.stage.Winds p.system.central task.work

variable {p p' : Program} {now : List Callback} {connected : Bool} {c c' : Central}
  {texts : List String}

theorem missed_of_parts (hlive : c.connection.session.isSome → connected)
    (h : c.Parts texts c') : missed connected c ++ texts = missed connected c' := by
  cases h with
  | stays hsession => rw [missed, missed, hsession, List.append_nil]
  | ends hsome hdead =>
    have hnone : c.connection.session ≠ none := Option.isSome_iff_ne_none.mp hsome
    simp [missed, hlive hsome, hdead, hnone]

theorem live_of_parts (h : c.Parts texts c') {live : Nat}
    (hlive : c'.connection.session = some live) : c.connection.session = some live := by
  cases h with
  | stays hsession => exact hsession ▸ hlive
  | ends _ hdead => exact absurd (hlive.symm.trans hdead) (by simp)

theorem Stage.Winds.congr {stage : Stage} {work : Work} (h : stage.Winds c work)
    (hparts : c.Parts texts c') : stage.Winds c' work := by
  cases h with
  | writes => exact .writes
  | wrote => exact .wrote
  | closes hlast => exact .closes fun live hlive => hlast live (live_of_parts hparts hlive)
  | closed hdead =>
    refine .closed (Option.eq_none_iff_forall_ne_some.mpr fun live hlive => ?_)
    exact absurd (hdead.symm.trans (live_of_parts hparts hlive)) (by simp)

/-- **An answer** is to the write or ends the session. -/
theorem Stage.Winds.answer {stage : Stage} {task : Task} {slot : Nat} {reply : Reply} {turn : Turn}
    (h : stage.Winds c task.work) (hc : c.Coherent) (hfits : task.Fits c)
    (hturn : task.answer c slot reply = some turn) :
    c.Parts (statusTexts turn.callbacks) turn.central ∧
      stage.Winds turn.central turn.task.work := by
  generalize hwork : task.work = work at h
  simp only [Task.answer, hwork] at hturn
  cases h with
  | @writes transfer request =>
    rw [Option.ite_none_right_eq_some] at hturn
    obtain ⟨⟨c', response⟩, hconclude, rfl⟩ := Option.map_eq_some_iff.mp hturn.2
    simp only [Task.Fits, hwork] at hfits
    rw [request.run_next]
    exact ⟨(Transfer.conclude_change hfits hconclude).parts, .wrote⟩
  | @closes e session hlast =>
    simp only [Option.ite_none_right_eq_some, Option.some.injEq] at hturn
    obtain ⟨-, rfl⟩ := hturn
    exact ⟨hc.hangUp_parts session, .closed (hc.hangUp_dead hlast)⟩
  | wrote => simp at hturn
  | closed => simp at hturn

namespace Lingers

/-- **Whatever is reported** is left to be seen. -/
theorem after (h : Lingers connected p) (hunseen : p'.unseen = p.unseen ++ now)
    (hparts : p.system.central.Parts (statusTexts now) p'.system.central)
    (hdoing : p'.Doing fun task => p'.stage.Winds p'.system.central task.work) :
    Lingers connected p' where
  unseen := by
    rw [hunseen, statusTexts_append, h.unseen, missed_of_parts h.live hparts]
  live hlive' := by
    obtain ⟨live, hlive'⟩ := Option.isSome_iff_exists.mp hlive'
    exact h.live (by rw [live_of_parts hparts hlive']; rfl)
  doing := hdoing

/-- **A step of the central**, of which nothing is shown. -/
theorem act {act : CarrierLink.Action} {seen : List (Actor × Event)} (h : Lingers connected p)
    (hs : p.system.Sound) (hact : act = .send p.current ∨
      (∃ slot reply, act = .reply p.current slot reply) ∨
      (∃ session event, act = .push session event) ∨ ∃ session, act = .endOfStream session)
    (hstep : p.system.step act = some (p'.system, seen)) (hstage : p'.stage = p.stage)
    (hunseen : p'.unseen = p.unseen ++ Program.reports seen) : Lingers connected p' := by
  obtain ⟨task, htask, hwinds⟩ := h.doing
  have hpush {session : Nat} {event : LinkEvent}
      (hstep : p.system.step (.push session event) = some (p'.system, seen)) :
      Lingers connected p' := by
    obtain ⟨-, hchange, -⟩ := hs.push hstep
    obtain ⟨-, hsystem, -, -⟩ := System.step_push hstep
    refine h.after hunseen (reports_eq seen ▸ hchange.parts) ⟨task, ?_, ?_⟩
    · rwa [current, hsystem]
    · exact hstage ▸ hwinds.congr hchange.parts
  rcases hact with rfl | ⟨slot, reply, rfl⟩ | ⟨session, event, rfl⟩ | ⟨session, rfl⟩
  · obtain ⟨task', ticket, queued, htask', -, hsystem, rfl⟩ := System.step_send hstep
    obtain rfl := Option.some.inj (htask.symm.trans htask')
    have hcentral : p'.system.central = p.system.central := by rw [hsystem]
    refine h.after hunseen (.stays (by rw [hcentral])) ⟨_, task_of_set htask (by rw [hsystem]), ?_⟩
    rw [hstage, hcentral]
    exact hwinds
  · obtain ⟨task', turn, htask', hturn, hsystem, hcallbacks, -⟩ := System.step_reply hstep
    obtain rfl := Option.some.inj (htask.symm.trans htask')
    obtain ⟨hparts, hwinds'⟩ := hwinds.answer hs.coherent (hs.fits _ _ htask) hturn
    have hcentral : p'.system.central = turn.central := by rw [hsystem]
    refine h.after hunseen ?_ ⟨_, task_of_set htask (by rw [hsystem]), ?_⟩
    · rwa [reports_eq, hcallbacks, hcentral]
    · rwa [hstage, hcentral]
  · exact hpush hstep
  · exact hpush (System.step_endOfStream hstep)

/-- **The clock cannot be set.** -/
theorem abandons {e : Error} (h : Lingers connected p) (hs : p.system.Sound)
    (hstart : p.start .disconnect (.abandoning e) = some (p', now)) : Lingers connected p' := by
  obtain ⟨hstage, -, -, ⟨task, htask, rfl⟩, -⟩ := doing_of_start hstart
  have hcentral := central_of_start hstart
  obtain ⟨⟨system, seen⟩, hstep, heq⟩ := Option.map_eq_some_iff.mp hstart
  obtain ⟨rfl, rfl⟩ := Prod.mk.inj heq
  have hcallbacks := (System.step_start hstep).2.1
  -- Without a link the session is closed at once.
  cases hlink : p.system.central.connection.link with
  | some link =>
    simp only [Task.start, hlink] at hcentral htask hcallbacks
    refine h.after rfl ?_ ⟨_, htask, ?_⟩
    · rw [reports_eq, hcallbacks]
      exact .stays (by rw [hcentral])
    · rw [hcentral]
      exact .closes fun _ => id
  | none =>
    simp only [Task.start, hlink] at hcentral htask hcallbacks
    refine h.after rfl ?_ ⟨_, htask, ?_⟩
    · rw [reports_eq, hcallbacks, hcentral]
      exact hs.coherent.hangUp_parts _
    · rw [hcentral]
      exact .closed (hs.coherent.hangUp_dead fun _ => id)

/-- **The clock is to be set**, on the connection that is there. -/
theorem sets {now : List Callback} {t : ClockTime} (hunseen : p.unseen = [])
    (hstart : p.start (.run (AlarmClock.setClock t)) .settingClock = some (p', now))
    (hconnected : p'.system.central.connection.session.isSome = p'.system.central.isConnected) :
    Lingers p'.system.central.isConnected p' := by
  obtain ⟨hstage, -, -, ⟨task, htask, rfl⟩, -⟩ := doing_of_start hstart
  obtain ⟨⟨system, seen⟩, hstep, heq⟩ := Option.map_eq_some_iff.mp hstart
  obtain ⟨rfl, rfl⟩ := Prod.mk.inj heq
  have hrun := (Request.write .localTime (.time t)).run_script p.system.central
  have hscript : (Request.write .localTime (.time t)).script = AlarmClock.setClock t := rfl
  rw [hscript] at hrun
  have hcallbacks := (System.step_start hstep).2.1
  refine ⟨?_, hconnected.le, _, htask, ?_⟩
  · have hsilent : statusTexts (Program.reports seen) = [] := by
      rw [reports_eq, hcallbacks, Task.start, hrun]
      split <;> rfl
    rw [missed, ← hconnected, if_neg (by simp +contextual [Option.isSome_iff_ne_none])]
    simp [hunseen, hsilent]
  · rw [Task.start, hrun]
    split
    · exact .writes
    · exact .wrote

/-- **What comes after a step**: the program waits on, it goes on with its clock set, or it ends
without one. -/
inductive Next (connected : Bool) (p p' : Program) : Prop
  | lingers (hstatuses : p'.statuses = p.statuses)
      (hstage : p'.stage = p.stage ∨ p.stage = .settingClock ∧ ∃ e, p'.stage = .abandoning e)
      (h : Lingers connected p')
  | later (hstage : p.stage = .settingClock) (hlater : p'.stage.IsLater)
  | gone {e : Error} (hstage : p.stage = .abandoning e)
      (hended : p' = { p with stage := .ended (.error e) })
      (hdead : p.system.central.connection.session = none)

theorem stage_eq (h : Lingers connected p) :
    p.stage = .settingClock ∨ ∃ e, p.stage = .abandoning e := by
  obtain ⟨task, -, hwinds⟩ := h.doing
  generalize p.stage = stage, task.work = work at hwinds
  cases hwinds with
  | writes | wrote => exact .inl rfl
  | closes | closed => exact .inr ⟨_, rfl⟩

/-- Who has ended the session has none. -/
theorem dead_of_outcome? {e : Error} {outcome : Outcome} (h : Lingers connected p)
    (hstage : p.stage = .abandoning e) (houtcome : p.outcome? = some outcome) :
    p.system.central.connection.session = none := by
  obtain ⟨task, htask, hwinds⟩ := h.doing
  rw [outcome?, htask, Option.bind_some] at houtcome
  rw [hstage, AlarmInput.outcome?_eq_some.mp houtcome] at hwinds
  cases hwinds with
  | closed hdead => exact hdead

/-- **Every step**, while the clock is set or given up. -/
theorem next (h : Lingers connected p) (hs : p.system.Sound)
    (hnow : p.step action = some (p', now)) : Next connected p p' := by
  cases moves_of_step hnow with
  | @acts action act system seen haction hstep =>
    refine .lingers rfl (.inl rfl) (h.act hs ?_ hstep rfl rfl)
    cases action with
    | send => exact .inl (Option.some.inj haction).symm
    | push session event => exact .inr (.inr (.inl ⟨_, _, (Option.some.inj haction).symm⟩))
    | endOfStream session => exact .inr (.inr (.inr ⟨_, (Option.some.inj haction).symm⟩))
    | _ => simp [central?] at haction
  | answers _ _ hstep =>
    exact .lingers rfl (.inl rfl) (h.act hs (.inr (.inl ⟨_, _, rfl⟩)) hstep rfl rfl)
  | looks =>
    rcases h.stage_eq with hstage | ⟨e, hstage⟩ <;> simp [step, take, result?, hstage] at hnow
  | leaves _ hwatching =>
    rcases h.stage_eq with hstage | ⟨e, hstage⟩ <;> simp [hstage] at hwatching
  | proceeds houtcome hproceed =>
    cases proceeds_of_proceed hproceed with
    | ends hclock hnot =>
      rcases h.stage_eq with hstage | ⟨e, hstage⟩
      · exact absurd hstage hclock
      · exact absurd hstage (hnot e)
    | sets hopening =>
      rcases h.stage_eq with hstage | ⟨e, hstage⟩ <;> simp [hstage] at hopening
    | abandons hstage hstart =>
      obtain ⟨hstage', -⟩ := doing_of_start hstart
      refine .lingers ?_ (.inr ⟨hstage, _, hstage'⟩) (h.abandons hs hstart)
      obtain ⟨system, seen, -, rfl⟩ := start_eq_some hstart
      rfl
    | gone hstage hended => exact .gone hstage hended (h.dead_of_outcome? hstage houtcome)
    | later hnot hlater =>
      rcases h.stage_eq with hstage | ⟨e, hstage⟩
      · exact .later hstage hlater
      · exact absurd hstage (hnot e)

end Lingers

end Lingers

/-! ### The whole run -/

/-- **A run gives its clock setting up** because of an error: it comes to close its connection
for that. -/
def Abandons (p₀ : Program) (actions : List Action) (e : Error) : Prop :=
  ∃ before rest q reports, actions = before ++ rest ∧ p₀.run before = some (q, reports) ∧
    q.stage = .abandoning e

/-- **The clock setting begins** after these actions: the connect cycle has ended, and this is
what the program goes on with. -/
structure BeginsClock (p₀ : Program) (actions : List Action) (q : Program)
    (reports : List Callback) : Prop where
  ran : p₀.run actions = some (q, reports)
  stage : q.stage = .settingClock
  opening : ∃ past q' soon, actions = past ++ [.proceed] ∧ p₀.run past = some (q', soon) ∧
    q'.stage = .opening

/-- **Since the beginning of the clock setting** the operator has been told nothing: these are
the statuses until then, and the board was connected at that time or not. -/
def Since (p₀ : Program) (first : List Callback) (done : List Action) (statuses : List String)
    (connected : Bool) : Prop :=
  ∃ start q soon, start <+: done ∧ p₀.BeginsClock start q soon ∧
    statuses = statusTexts (first ++ soon) ∧ q.system.central.isConnected = connected

/-- **How far a run has come**, as far as the operator is concerned. -/
inductive Tells (p₀ : Program) (first : List Callback) (done : List Action) (p : Program) : Prop
  /-- The clock has not been given up, and who ends has looked at everything. -/
  | going (hwhy : ∀ e, ¬p₀.Abandons done e) (hended : p.result?.isSome → p.unseen = [])
      (hclock : p.stage = .settingClock →
        ∃ connected, p₀.Since first done p.statuses connected ∧ Lingers connected p)
  /-- The clock is given up. -/
  | abandoning {e : Error} {connected : Bool} (hwhy : ∀ e', p₀.Abandons done e' ↔ e' = e)
      (hstage : p.stage = .abandoning e) (hsince : p₀.Since first done p.statuses connected)
      (hlingers : Lingers connected p)
  /-- The program is over without a clock. -/
  | gone {e : Error} {connected : Bool} (hwhy : ∀ e', p₀.Abandons done e' ↔ e' = e)
      (hstage : p.stage = .ended (.error e)) (hsince : p₀.Since first done p.statuses connected)
      (hunseen : statusTexts p.unseen = if connected then ["Disconnected"] else [])

section Run

variable {plan : Plan} {p₀ p p' : Program} {done actions : List Action} {action : Action}
  {first reports soon now : List Callback}

theorem run_concat (h : p₀.run done = some (p, soon)) (hstep : p.step action = some (p', now)) :
    p₀.run (done ++ [action]) = some (p', soon ++ now) := by
  induction done generalizing p₀ soon with
  | nil =>
    obtain ⟨rfl, rfl⟩ := Prod.mk.inj (Option.some.inj h)
    simp [run, hstep]
  | cons first done ih =>
    obtain ⟨q, _, _, hfirst, hrest, rfl⟩ := run_cons h
    simp [run, hfirst, ih hrest]

theorem abandons_concat {e : Error} (h : p₀.run done = some (p, soon))
    (hstep : p.step action = some (p', now)) :
    p₀.Abandons (done ++ [action]) e ↔ p₀.Abandons done e ∨ p'.stage = .abandoning e := by
  constructor
  · rintro ⟨before, rest, q, reports, hsplit, hran, hstage⟩
    -- It is this very action, or it has been before.
    rcases List.eq_nil_or_concat rest with rfl | ⟨rest, last, rfl⟩
    · rw [List.append_nil] at hsplit
      obtain ⟨rfl, -⟩ := Prod.mk.inj (Option.some.inj
        ((hsplit ▸ run_concat h hstep).symm.trans hran))
      exact .inr hstage
    · obtain ⟨rfl, -⟩ : done = before ++ rest ∧ [action] = [last] :=
        List.append_inj' (by simpa using hsplit) rfl
      exact .inl ⟨before, rest, q, reports, rfl, hran, hstage⟩
  · rintro (⟨before, rest, q, reports, rfl, hran, hstage⟩ | hstage)
    · exact ⟨before, rest ++ [action], q, reports, by simp, hran, hstage⟩
    · exact ⟨_, [], p', _, (List.append_nil _).symm, run_concat h hstep, hstage⟩

/-- A connection on which the clock is set is set up, if it is still there. -/
theorem Stands.connected (h : p₀.Stands done p) (hstage : p.stage = .settingClock) :
    p.system.central.connection.session.isSome = p.system.central.isConnected := by
  have hc := h.alone.sound.coherent
  have hdead (hnone : p.system.central.connection.session = none) :
      p.system.central.connection.session.isSome = p.system.central.isConnected := by
    simp [hnone, Central.isConnected, hc.phase_eq_iff.mpr hnone]
  rcases h.device with hholds | ⟨link, hsilent, -⟩
  · cases hholds with
    | cycle _ _ _ hopening => exact absurd (hopening.symm.trans hstage) (by simp)
    | connection _ _ _ hphase =>
      cases hlive : p.system.central.connection.session with
      | none => exact hlive ▸ hdead hlive
      | some session => simp [Central.isConnected, hphase]
    | closing _ hcloses => exact (hstage ▸ hcloses).elim
    | nobody _ hover => exact (hstage ▸ hover).elim
  · exact hdead hsilent.dead

theorem Since.concat {statuses statuses' : List String} {connected : Bool}
    (h : p₀.Since first done statuses connected) (hstatuses : statuses' = statuses) :
    p₀.Since first (done ++ [action]) statuses' connected := by
  obtain ⟨start, q, soon, hstart, hbegins, htexts, hconnected⟩ := h
  exact ⟨start, q, soon, hstart.trans (List.prefix_append done [action]), hbegins,
    hstatuses.trans htexts, hconnected⟩

/-- Nothing is done any more by a program that is over. -/
theorem result?_of_step (hstep : p.step action = some (p', now)) : ¬p.result?.isSome := by
  intro hended
  rw [step, if_pos hended] at hstep
  exact absurd hstep (by simp)

theorem result?_of_isLater (h : p.stage.IsLater) : ¬p.result?.isSome := by
  intro hended
  rw [result?] at hended
  split at hended
  next hstage => exact (hstage ▸ h : Stage.IsLater (.ended _))
  next => exact absurd hended (by simp)

/-- **The clock has not been given up**, and is not by this action. -/
theorem tells_going (hwhy : ∀ e, ¬p₀.Abandons done e) (hran : p₀.run done = some (p, soon))
    (hstep : p.step action = some (p', now)) (hstage : ∀ e, p'.stage ≠ .abandoning e)
    (hended : p'.result?.isSome → p'.unseen = [])
    (hclock : p'.stage = .settingClock →
      ∃ connected, p₀.Since first (done ++ [action]) p'.statuses connected ∧
        Lingers connected p') :
    Tells p₀ first (done ++ [action]) p' :=
  .going (fun e habandons => ((abandons_concat hran hstep).mp habandons).elim (hwhy e) (hstage e))
    hended hclock

theorem tells_later (hwhy : ∀ e, ¬p₀.Abandons done e) (hran : p₀.run done = some (p, soon))
    (hstep : p.step action = some (p', now)) (hlater : p'.stage.IsLater) :
    Tells p₀ first (done ++ [action]) p' := by
  refine tells_going hwhy hran hstep (fun e hstage => ?_)
    (fun hended => absurd hended (result?_of_isLater hlater)) fun hstage => ?_
  · exact (hstage ▸ hlater : Stage.IsLater (.abandoning e)).elim
  · exact (hstage ▸ hlater : Stage.IsLater .settingClock).elim

/-- **A step while the clock is set.** -/
theorem tells_of_settingClock {connected : Bool} (hwhy : ∀ e, ¬p₀.Abandons done e)
    (hran : p₀.run done = some (p, soon)) (hstep : p.step action = some (p', now))
    (hs : p.system.Sound) (hstage : p.stage = .settingClock)
    (hsince : p₀.Since first done p.statuses connected) (hlingers : Lingers connected p) :
    Tells p₀ first (done ++ [action]) p' := by
  cases hlingers.next hs hstep with
  | lingers hstatuses hstage' h =>
    rcases hstage' with hsame | ⟨-, e, he⟩
    · have hclock : p'.stage = .settingClock := hsame.trans hstage
      exact tells_going hwhy hran hstep (by simp [hclock]) (by simp [result?, hclock])
        fun _ => ⟨connected, hsince.concat hstatuses, h⟩
    · refine .abandoning (fun e' => ?_) he (hsince.concat hstatuses) h
      rw [abandons_concat hran hstep, he, or_iff_right (hwhy e'), Stage.abandoning.injEq, eq_comm]
  | later _ hlater => exact tells_later hwhy hran hstep hlater
  | gone habandoning => exact absurd (hstage.symm.trans habandoning) (by simp)

/-- **A step while the clock is given up.** -/
theorem tells_of_abandoning {e : Error} {connected : Bool}
    (hwhy : ∀ e', p₀.Abandons done e' ↔ e' = e) (hran : p₀.run done = some (p, soon))
    (hstep : p.step action = some (p', now)) (hs : p.system.Sound)
    (hstage : p.stage = .abandoning e) (hsince : p₀.Since first done p.statuses connected)
    (hlingers : Lingers connected p) : Tells p₀ first (done ++ [action]) p' := by
  have hwhy' (hnew : ∀ e', p'.stage = .abandoning e' → e' = e) (e' : Error) :
      p₀.Abandons (done ++ [action]) e' ↔ e' = e := by
    rw [abandons_concat hran hstep, hwhy]
    exact or_iff_left_of_imp (hnew e')
  cases hlingers.next hs hstep with
  | lingers hstatuses hstage' h =>
    rcases hstage' with hsame | ⟨hset, -⟩
    · have hsame : p'.stage = .abandoning e := hsame.trans hstage
      exact .abandoning (hwhy' (by simp [hsame, eq_comm])) hsame (hsince.concat hstatuses) h
    · exact absurd (hset.symm.trans hstage) (by simp)
  | later hset => exact absurd (hset.symm.trans hstage) (by simp)
  | @gone e' hstage' hended hdead =>
    obtain rfl : e' = e := by simpa [hstage] using hstage'.symm
    subst hended
    refine .gone (hwhy' (by simp)) rfl (hsince.concat rfl) ?_
    rw [hlingers.unseen, missed]
    simp [hdead]

/-- **The clock setting begins** with everything shown. -/
theorem since_of_sets {said : List Callback} (hran : p₀.run done = some (p, soon))
    (hstep : p.step .proceed = some (p', now)) (hfirst : p₀.heard = statusTexts first)
    (hstands : p₀.Stands (done ++ [.proceed]) p') (hstage : p.stage = .opening)
    (hstart : p.catchUp.start (.run (AlarmClock.setClock p.plan.now)) .settingClock =
      some (p', said)) :
    p₀.Since first (done ++ [.proceed]) p'.statuses p'.system.central.isConnected ∧
      Lingers p'.system.central.isConnected p' := by
  have hstage' : p'.stage = .settingClock := (doing_of_start hstart).1
  have hran' := run_concat hran hstep
  have hconnected := hstands.connected hstage'
  have hlingers := Lingers.sets (unseen_catchUp p) hstart hconnected
  refine ⟨⟨_, p', _, List.prefix_rfl, ⟨hran', hstage', done, p, soon, rfl, hran, hstage⟩, ?_, rfl⟩,
    hlingers⟩
  -- The session is there, so nothing is queued that has a text.
  have hheard := heard_of_run hran'
  have hseen : statusTexts p'.unseen = [] := by
    rw [hlingers.unseen, missed, ← hconnected]
    simp +contextual [Option.isSome_iff_ne_none]
  rw [heard, hseen, List.append_nil, hfirst] at hheard
  rw [hheard, statusTexts_append first]

/-- **Every action keeps the operator as well informed.** -/
theorem Tells.next (h : Tells p₀ first done p) (hstands : p₀.Stands done p)
    (hfirst : p₀.heard = statusTexts first) (hran : p₀.run done = some (p, soon))
    (hstep : p.step action = some (p', now)) : Tells p₀ first (done ++ [action]) p' := by
  have hs := hstands.alone.sound
  cases h with
  | going hwhy _ hclock =>
    by_cases hsetting : p.stage = .settingClock
    · obtain ⟨connected, hsince, hlingers⟩ := hclock hsetting
      exact tells_of_settingClock hwhy hran hstep hs hsetting hsince hlingers
    have hnot (e : Error) : p.stage ≠ .abandoning e := fun hstage =>
      hwhy e ⟨done, [], p, soon, (List.append_nil _).symm, hran, hstage⟩
    have hsame (hstage : p'.stage = p.stage) : Tells p₀ first (done ++ [action]) p' := by
      refine tells_going hwhy hran hstep (hstage ▸ hnot) (fun hended => ?_) fun hclock =>
        absurd (hstage.symm.trans hclock) hsetting
      rw [result?, hstage] at hended
      exact absurd hended (result?_of_step hstep)
    cases moves_of_step hstep with
    | acts => exact hsame rfl
    | answers => exact hsame rfl
    | looks _ _ _ hstage => exact hsame hstage
    | leaves _ _ hleave => exact tells_later hwhy hran hstep (isLater_of_leave hleave)
    | proceeds _ hproceed =>
      cases proceeds_of_proceed hproceed with
      | ends _ _ hended hunseen =>
        exact tells_going hwhy hran hstep (by simp [hended]) (fun _ => hunseen) (by simp [hended])
      | sets hstage hstart =>
        exact tells_going hwhy hran hstep (by simp [(doing_of_start hstart).1])
          (by simp [result?, (doing_of_start hstart).1]) fun _ =>
            ⟨_, since_of_sets hran hstep hfirst (hstands.next hran hstep) hstage hstart⟩
      | abandons hstage => exact absurd hstage hsetting
      | gone hstage => exact absurd hstage (hnot _)
      | later _ hlater => exact tells_later hwhy hran hstep hlater
  | abandoning hwhy hstage hsince hlingers =>
    exact tells_of_abandoning hwhy hran hstep hs hstage hsince hlingers
  | gone _ hstage => exact absurd (by simp [result?, hstage]) (result?_of_step hstep)

theorem heard_opened (h : opened plan = some (p, first)) : p.heard = statusTexts first := by
  rw [heard_start h]
  rfl

theorem Tells.of_run (hopened : opened plan = some (p₀, first))
    (hrun : p₀.run actions = some (p, reports)) : Tells p₀ first actions p := by
  refine (run_induction_done (P := fun done q => p₀.Stands done q ∧ Tells p₀ first done q)
    (fun past action q q' soon now hran h hstep => ?_) hrun ⟨stands_opened hopened, ?_⟩).2
  · exact ⟨h.1.next hran hstep, h.2.next h.1 (heard_opened hopened) hran hstep⟩
  · have hstage : p₀.stage = .opening := (doing_of_start hopened).1
    refine .going ?_ (by simp [result?, hstage]) (by simp [hstage])
    rintro e ⟨before, rest, q, reports, hsplit, hran, he⟩
    obtain ⟨rfl, -⟩ := List.append_eq_nil_iff.mp hsplit.symm
    obtain ⟨rfl, -⟩ := Prod.mk.inj (Option.some.inj hran)
    exact absurd (hstage.symm.trans he) (by simp)

/-- **The operator is told every status**, once and in order, by every run that ends, however it
ends, unless it gives the setting of the clock up. Such a run fails with the error of the clock
setting, and the operator is told the statuses until the clock was to be set. If the board was
still connected then, the run closes that connection, and this is the one status that the
operator is not told. -/
theorem statuses_of_run (hopened : opened plan = some (p₀, first))
    (hrun : p₀.run actions = some (p, reports)) (hended : p.result?.isSome) :
    ((∀ e, ¬p₀.Abandons actions e) → p.statuses = statusTexts (first ++ reports)) ∧
      ∀ e, p₀.Abandons actions e → p.result? = some (.error e) ∧
        ∃ start q soon, start <+: actions ∧ p₀.BeginsClock start q soon ∧
          p.statuses = statusTexts (first ++ soon) ∧
          statusTexts (first ++ reports) =
            p.statuses ++ if q.system.central.isConnected then ["Disconnected"] else [] := by
  have hheard : p.heard = statusTexts (first ++ reports) := by
    rw [heard_of_run hrun, heard_opened hopened, statusTexts_append]
  cases Tells.of_run hopened hrun with
  | going hwhy hunseen =>
    refine ⟨fun _ => ?_, fun e habandons => absurd habandons (hwhy e)⟩
    rw [← hheard, heard, hunseen hended, statusTexts_nil, List.append_nil]
  | abandoning _ hstage => exact absurd hended (by simp [result?, hstage])
  | @gone e _ hwhy hstage hsince hunseen =>
    refine ⟨fun hnot => absurd ((hwhy e).mpr rfl) (hnot e), fun e' habandons => ?_⟩
    obtain rfl := (hwhy e').mp habandons
    obtain ⟨start, q, soon, hstart, hbegins, htexts, rfl⟩ := hsince
    refine ⟨by rw [result?, hstage], start, q, soon, hstart, hbegins, htexts, ?_⟩
    rw [← hheard, heard, hunseen]

end Run

/-- The board refuses its clock, and the connection is closed. -/
def refused : List Action :=
  AlarmInput.obliging.take 12 ++
    [.answer 0 (.acknowledgement (some (.error (.runtime "boom")))), .proceed, .send,
      .answer 0 (.done (.ok ())), .proceed]

theorem run_refused :
    ∃ plan p₀ first p reports, Command.errand {} AlarmInput.halfPastSix .syncTime = .session plan ∧
      opened plan = some (p₀, first) ∧ p₀.run refused = some (p, reports) ∧
      p.result? = some (.error (.transport .writing (.runtime "boom"))) ∧
      p.statuses = ["Searching for device…", "Connecting…", "Discovering services…", "Connected"] ∧
      statusTexts (first ++ reports) = p.statuses ++ ["Disconnected"] := by
  let plan : Plan := ⟨.alarm, Command.filter {} .alarm, ⟨6, 30⟩, .nothing⟩
  let shown := ["Searching for device…", "Connecting…", "Discovering services…", "Connected"]
  have h : ((opened plan).bind fun opened => (opened.1.run refused).map fun ran =>
      (ran.1.result?, ran.1.statuses, statusTexts (opened.2 ++ ran.2))) =
        some (some (.error (.transport .writing (.runtime "boom"))), shown,
          shown ++ ["Disconnected"]) := by
    decide +kernel
  obtain ⟨⟨p₀, first⟩, hopened, h⟩ := Option.bind_eq_some_iff.mp h
  obtain ⟨⟨p, reports⟩, hrun, h⟩ := Option.map_eq_some_iff.mp h
  obtain ⟨hresult, h⟩ := Prod.mk.inj h
  obtain ⟨hstatuses, htexts⟩ := Prod.mk.inj h
  exact ⟨plan, p₀, first, p, reports, rfl, hopened, hrun, hresult, hstatuses,
    hstatuses.symm ▸ htexts⟩

/-- **The operator is not told** that the connection is closed when the clock is refused. -/
theorem status_lost :
    ∃ plan p₀ first p reports, Command.errand {} AlarmInput.halfPastSix .syncTime = .session plan ∧
      opened plan = some (p₀, first) ∧ p₀.run refused = some (p, reports) ∧ p.result?.isSome ∧
      p.statuses ≠ statusTexts (first ++ reports) := by
  obtain ⟨plan, p₀, first, p, reports, herrand, hopened, hrun, hresult, -, htexts⟩ := run_refused
  refine ⟨plan, p₀, first, p, reports, herrand, hopened, hrun, by rw [hresult]; rfl, ?_⟩
  rw [htexts]
  simp

/-- **Such a run gives its clock setting up**, with its board connected. -/
theorem statuses_of_refused :
    ∃ plan p₀ first p reports, Command.errand {} AlarmInput.halfPastSix .syncTime = .session plan ∧
      opened plan = some (p₀, first) ∧ p₀.run refused = some (p, reports) ∧
      p₀.Abandons refused (.transport .writing (.runtime "boom")) ∧
      ∃ start q soon, start <+: refused ∧ p₀.BeginsClock start q soon ∧
        p.statuses = statusTexts (first ++ soon) ∧ q.system.central.isConnected := by
  obtain ⟨plan, p₀, first, p, reports, herrand, hopened, hrun, hresult, -, htexts⟩ := run_refused
  obtain ⟨hall, hgone⟩ := statuses_of_run hopened hrun (by rw [hresult]; rfl)
  -- Not every status has been told, so the clock setting was given up.
  obtain ⟨e, habandons⟩ : ∃ e, p₀.Abandons refused e := by
    by_contra hnot
    have htold := hall (not_exists.mp hnot)
    rw [htexts] at htold
    simp at htold
  obtain ⟨hresult', start, q, soon, hstart, hbegins, hstatuses, hmissed⟩ := hgone e habandons
  obtain rfl : e = .transport .writing (.runtime "boom") :=
    Except.error.inj (Option.some.inj (hresult'.symm.trans hresult))
  refine ⟨plan, p₀, first, p, reports, herrand, hopened, hrun, habandons, start, q, soon, hstart,
    hbegins, hstatuses, ?_⟩
  by_contra hnot
  rw [htexts, if_neg hnot] at hmissed
  simp at hmissed

end Program

end CarrierLink
