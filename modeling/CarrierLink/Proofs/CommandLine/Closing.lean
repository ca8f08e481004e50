import CarrierLink.Proofs.Central.Outstanding
import CarrierLink.Proofs.CommandLine.AlarmInput

/-!
# A session leaves nothing open

A command that opens a session looks for a board, connects to it, does its job, and closes the
connection again. Each of these can fail, the link can be lost at any time, and still nothing
must be left open: the scan is over before the device is called, there is one device at most,
and the last thing that is asked of it is to disconnect. There is one exception. When a link
that was connected is lost, the central forgets it, and nothing more is asked of it at all.
`CarrierLink.Program.closed_of_run` says so of every run that ends.

What has been called is read off the actions of a run (`CarrierLink.Program.calls`): a call is
made when it is sent, though the log of the radio only has it when it is answered. The proof
follows the device through the program (`CarrierLink.Program.Holds`). The connect cycle has it
until the connection does, then the scripts call it, and in the end it is held by whoever
closes it. A loss is the only way to drop it, and from then on the program is silent
(`CarrierLink.Program.Silent`): its scripts fail their checks, and there is no link to close.
-/

namespace CarrierLink

namespace Program

/-! ### The calls of a run -/

/-- The call that is made with an action. -/
def asks (p : Program) : Action → List Call
  | .send =>
    ((p.system.tasks[p.current]?).bind fun task => task.queued.head?.map Ticket.call).toList
  | _ => []

/-- **The calls of a run**, in the order in which they are made. -/
def calls (p : Program) : List Action → List Call
  | [] => []
  | action :: rest =>
    match p.step action with
    | some (p', _) => p.asks action ++ p'.calls rest
    | none => []

theorem calls_snoc {p q q' : Program} {past : List Action} {action : Action}
    {soon now : List Callback} (h : p.run past = some (q, soon))
    (hstep : q.step action = some (q', now)) :
    p.calls (past ++ [action]) = p.calls past ++ q.asks action := by
  induction past generalizing p soon with
  | nil =>
    obtain ⟨rfl, -⟩ := Prod.mk.inj (Option.some.inj h)
    simp [calls, hstep]
  | cons first past ih =>
    obtain ⟨p', _, _, hfirst, hrest, -⟩ := run_cons h
    simp only [List.cons_append, calls, hfirst, ih hrest, List.append_assoc]

/-! ### One device -/

/-- **All that has been done so far is done with one device**, if with any: the calls are on
its link, and the steps of the radio concern it and come after the one scan. -/
structure Tidy (device : Option Link) (calls : List Call) (log : List (RadioStep × Bool)) :
    Prop where
  calls : ∀ call ∈ calls, ∀ link, call.link? = some link → device = some link
  steps : ∀ entry ∈ log, ∀ number, entry.1.device? = some number →
    device.map Link.number = some number
  scan : ∃ scan rest, log = scan ++ rest ∧ Radio.Scan scan ∧
    ∀ entry ∈ rest, entry.1.isScan = false

section Tidy

variable {device : Option Link} {calls : List Call} {log : List (RadioStep × Bool)} {link : Link}
  {call : Call}

theorem tidy_nil : Tidy device [] [] where
  calls := by simp
  steps := by simp
  scan := ⟨[], [], rfl, .none, by simp⟩

/-- As long as there is no device, it may be any. -/
theorem Tidy.found (h : Tidy none calls log) (device : Option Link) : Tidy device calls log where
  calls call hmem link hlink := absurd (h.calls call hmem link hlink) (by simp)
  steps entry hmem number hnumber := absurd (h.steps entry hmem number hnumber) (by simp)
  scan := h.scan

/-- A call that is made. -/
theorem Tidy.ask (h : Tidy device calls log) (hcall : ∀ link, call.link? = some link →
    device = some link) : Tidy device (calls ++ [call]) log where
  calls := List.forall_mem_append.mpr ⟨h.calls, by simpa using hcall⟩
  steps := h.steps
  scan := h.scan

/-- A call on the device that is answered. -/
theorem Tidy.answer (h : Tidy (some link) calls log) (hcall : call.link? = some link)
    (result : Radio.Result) : Tidy (some link) calls (log ++ Radio.steps call result) where
  calls := h.calls
  steps := by
    refine List.forall_mem_append.mpr ⟨h.steps, fun entry hmem number hnumber => ?_⟩
    exact congrArg some ((Radio.device_of_mem_steps hcall hmem).2 number hnumber).symm
  scan := by
    obtain ⟨scan, rest, rfl, hscan, hrest⟩ := h.scan
    refine ⟨scan, rest ++ Radio.steps call result, List.append_assoc .., hscan, ?_⟩
    exact List.forall_mem_append.mpr
      ⟨hrest, fun entry hmem => (Radio.device_of_mem_steps hcall hmem).1⟩

/-- The scan itself, before which there is nothing. -/
theorem Tidy.scanned (h : Tidy device calls []) (result : Radio.Result) :
    Tidy device calls (Radio.steps .requestDevice result) where
  calls := h.calls
  steps entry hmem number hnumber := by
    have hscan := (Radio.scan_steps result).isScan entry hmem
    cases hentry : entry.1 <;> simp_all [RadioStep.isScan, RadioStep.device?]
  scan := ⟨_, [], (List.append_nil _).symm, Radio.scan_steps result, by simp⟩

/-- An answer to a connect cycle, which may bring the device. -/
theorem Tidy.answered {stage : CarrierLink.Stage} {got : Option Link}
    (h : Tidy stage.link? calls log) (hscan : stage.link? = none → log = [])
    (hopen : stage.isOpen) (hasks : stage.Asks call)
    (hgot : ∀ link, stage.link? = some link → got = some link) (result : Radio.Result) :
    Tidy got calls (log ++ Radio.steps call result) := by
  have hlink := Stage.link?_of_asks hasks hopen
  cases hstage : stage.link? with
  | some link =>
    rw [hgot link hstage]
    exact (hstage ▸ h).answer (hlink.trans hstage) result
  | none =>
    -- There is no device yet, so this is the scan, or not even that.
    rw [hscan hstage, List.nil_append]
    have hfound : Tidy got calls [] := hscan hstage ▸ (hstage ▸ h).found got
    rcases CarrierLink.Stage.searches_of_link? hopen hstage with rfl | rfl
    · obtain rfl := CarrierLink.Stage.eq_available_of_asks hasks
      exact hfound
    · obtain rfl := CarrierLink.Stage.eq_requestDevice_of_asks hasks
      exact hfound.scanned result

end Tidy

/-! ### The loss of a link -/

/-- **The loss of a link**: while the central is connected over it, the stream of its events
reports that it is gone, or comes to its own end. -/
def Loses (p : Program) (link : Link) (action : Action) : Prop :=
  p.system.central.connection.phase = .connected ∧
    p.system.central.connection.link = some link ∧
    ∃ session, p.system.central.connection.session = some session ∧
      (action = .push session .disconnected ∨ action = .endOfStream session)

/-- **Nothing more will be called**: there is no connection, and what is under way has nothing
to send. It may still wait for answers that concern the link. -/
structure Silent (p : Program) (link : Link) : Prop where
  dead : p.system.central.connection.session = none
  doing : p.Doing fun task => task.attempt? = none ∧ task.queued = [] ∧
    ∀ ticket ∈ task.unanswered, ticket.call.link? = some link

section Silent

variable {p p' q : Program} {link : Link} {action : Action} {reports : List Callback}

/-- Only what is sent is called. -/
theorem asks_eq_nil (haction : action ≠ .send) : p.asks action = [] := by
  cases action with
  | send => exact absurd rfl haction
  | _ => rfl

theorem Silent.congr (h : p.Silent link) (hsystem : q.system = p.system) : q.Silent link where
  dead := hsystem ▸ h.dead
  doing := h.doing.congr hsystem

theorem Silent.start {operation : Operation} {stage : Stage} (h : p.Silent link)
    (hs : p.system.Sound) (hsystem : q.system = p.system)
    (hstart : q.start operation stage = some (p', reports)) (hoperation : operation ≠ .connect) :
    p'.Silent link := by
  obtain ⟨hcentral, hattempt, hcalls⟩ :=
    Task.silent_of_start hs.coherent h.dead hoperation
  obtain ⟨-, -, -, ⟨task, htask, rfl⟩, -⟩ := doing_of_start hstart
  rw [hsystem] at htask
  refine ⟨by rw [central_of_start hstart, hsystem, hcentral, h.dead], _, htask, hattempt,
    (List.append_eq_nil_iff.mp hcalls).1, fun ticket hmem => ?_⟩
  exact absurd (hcalls ▸ hmem) List.not_mem_nil

/-- **Silence is kept**, and only the answers that were still out come in. -/
theorem Silent.next (h : p.Silent link) (hs : p.system.Sound) (hmoves : p.Moves action p') :
    p'.Silent link ∧ p.asks action = [] ∧
      ∀ calls, Tidy (some link) calls p.log → Tidy (some link) calls p'.log := by
  obtain ⟨task, htask, hattempt, hqueued, hcalls⟩ := h.doing
  cases hmoves with
  | @acts action act system seen haction hstep =>
    -- Nothing is queued that could be sent, and no pump runs.
    exfalso
    have hpump {session : Nat} {event : LinkEvent}
        (hstep : p.system.step (.push session event) = some (system, seen)) : False := by
      have hlive := hs.live_of_hasPump (System.step_push hstep).1
      exact absurd (hlive.symm.trans h.dead) (by simp)
    cases action with
    | send =>
      obtain rfl := Option.some.inj haction
      obtain ⟨task', ticket, queued, htask', hnext, -⟩ := System.step_send hstep
      obtain rfl := Option.some.inj (htask.symm.trans htask')
      exact absurd (hnext.symm.trans hqueued) (by simp)
    | push session event => exact hpump (Option.some.inj haction ▸ hstep)
    | endOfStream session =>
      exact hpump (System.step_endOfStream (Option.some.inj haction ▸ hstep))
    | _ => simp [central?] at haction
  | @answers slot result call reply system seen hcall hreply hstep =>
    obtain ⟨task', turn, htask', hturn, rfl, -⟩ := System.step_reply hstep
    obtain rfl := Option.some.inj (htask.symm.trans htask')
    obtain ⟨ticket, hmem, -, rfl⟩ := exists_of_call? htask hcall
    obtain ⟨hdead, hattempt', hunanswered, hsends⟩ :=
      Task.silent_of_answer hs.coherent (hs.fits _ _ htask) h.dead hattempt hturn
    refine ⟨⟨hdead, turn.task, task_of_set htask rfl, hattempt', ?_, ?_⟩, rfl, fun calls htidy =>
      htidy.answer (hcalls ticket hmem) result⟩
    · exact List.eq_nil_iff_forall_not_mem.mpr fun ticket hmem =>
        List.not_mem_nil (hqueued ▸ hsends ticket hmem)
    · exact fun ticket hmem => hcalls ticket (hunanswered ticket hmem)
  | looks hsystem _ hlog => exact ⟨h.congr hsystem, rfl, fun _ htidy => hlog ▸ htidy⟩
  | proceeds _ hproceed =>
    cases goes_of_proceed hproceed with
    | stops _ hsystem hlog => exact ⟨h.congr hsystem, rfl, fun _ htidy => hlog ▸ htidy⟩
    | watches _ hsystem hlog => exact ⟨h.congr hsystem, rfl, fun _ htidy => hlog ▸ htidy⟩
    | runs _ hsystem hlog hstart =>
      exact ⟨h.start hs hsystem hstart (by simp), rfl, fun _ htidy =>
        (doing_of_start hstart).2.2.1 ▸ hlog ▸ htidy⟩
    | hangsUp _ hsystem hlog hstart =>
      exact ⟨h.start hs hsystem hstart (by simp), rfl, fun _ htidy =>
        (doing_of_start hstart).2.2.1 ▸ hlog ▸ htidy⟩
  | leaves haction _ hleave hsystem _ hlog =>
    obtain ⟨q', hsystem', hlog', hstart⟩ := leave_eq_some hleave
    refine ⟨h.start hs (hsystem'.trans hsystem) hstart (by simp), asks_eq_nil ?_, fun _ htidy =>
      (doing_of_start hstart).2.2.1 ▸ hlog'.trans hlog ▸ htidy⟩
    rintro rfl
    simp at haction

/-- A loss ends the session, of which the pump is told. -/
theorem Loses.step (h : p.Loses link action) (hmoves : p.Moves action p') :
    ∃ session seen, p.system.step (.push session .disconnected) = some (p'.system, seen) := by
  obtain ⟨-, -, session, -, rfl | rfl⟩ := h
  · cases hmoves with
    | acts haction hstep => exact ⟨session, _, Option.some.inj haction ▸ hstep⟩
    | leaves haction => simp at haction
  · cases hmoves with
    | acts haction hstep =>
      exact ⟨session, _, System.step_endOfStream (Option.some.inj haction ▸ hstep)⟩
    | leaves haction => simp at haction

/-- **When the session ends, there is silence**, unless a connect cycle is under way: who waits
for an event of the link waits until everything is sent. -/
theorem silent_of_disconnected {session : Nat} {seen : List (Actor × Event)} {task : Task}
    (hs : p.system.Sound)
    (hstep : p.system.step (.push session .disconnected) = some (p'.system, seen))
    (htask : p.system.tasks[p.current]? = some task) (hattempt : task.attempt? = none)
    (hcalls : ∀ ticket ∈ task.unanswered, ticket.call.link? = some link) : p'.Silent link := by
  have hqueued : task.queued = [] :=
    (System.isFloorFree_iff.mp (System.isFloorFree_of_step hstep) _ _ htask).resolve_left
      (by simp [System.speaker?])
  obtain ⟨hpump, hsystem, -, -⟩ := System.step_push hstep
  have hclosed := hs.coherent.close_of_live (hs.live_of_hasPump hpump)
  refine ⟨?_, task, by rwa [current, hsystem], hattempt, hqueued, hcalls⟩
  rw [hsystem]
  simp [Central.receive, hclosed, Central.cleared, Central.stopPump]

end Silent

/-! ### Who holds the device -/

/-- The program is using its connection. -/
def Stage.Uses : Stage → Work → Prop
  | .opening, work => ∃ answer, work = .finished (.ok answer)
  | .settingClock, _ | .working _, _ | .watching _, _ => True
  | _, _ => False

/-- The program is closing its connection. -/
def Stage.Closes : Stage → Work → Prop
  | .opening, work => ∃ session stage, work = .attempt session stage ∧ stage.isOpen = false
  | .abandoning _, work | .closing _, work => ∃ session, work = .hangUp session
  | _, _ => False

/-- The program has no connection any more. -/
def Stage.IsOver : Stage → Work → Prop
  | .opening, work => ∃ e, work = .finished (.error e)
  | .abandoning _, _ | .closing _, _ | .ended _, _ => True
  | _, _ => False

section Stages

variable {stage : Stage} {work work' : Work} {outcome : Outcome}

theorem Stage.Uses.congr (h : stage.Uses work) (hwork : ∀ outcome, work ≠ .finished outcome) :
    stage.Uses work' := by
  cases stage with
  | opening =>
    obtain ⟨answer, hanswer⟩ := h
    exact absurd hanswer (hwork _)
  | _ => exact h

/-- A connection that is used is used or closed by what comes next. -/
theorem Stage.Uses.not_isLast (h : stage.Uses (.finished outcome)) : ¬stage.IsLast outcome := by
  cases stage with
  | opening =>
    obtain ⟨answer, hanswer⟩ := h
    obtain rfl := Work.finished.inj hanswer
    exact id
  | _ => first | exact id | exact h.elim

theorem Stage.IsOver.not_goesOn (h : stage.IsOver (.finished outcome)) :
    ¬stage.GoesOn outcome := by
  cases stage with
  | opening =>
    obtain ⟨e, he⟩ := h
    obtain rfl := Work.finished.inj he
    exact id
  | _ => first | exact id | exact h.elim

/-- Closing takes an answer. -/
theorem Stage.Closes.ne_finished (h : stage.Closes work) : work ≠ .finished outcome := by
  rintro rfl
  cases stage with
  | opening =>
    obtain ⟨_, _, hwork, -⟩ := h
    exact absurd hwork (by simp)
  | abandoning | closing =>
    obtain ⟨_, hwork⟩ := h
    exact absurd hwork (by simp)
  | _ => exact h

/-- **The answer with which a connection is closed.** -/
theorem Stage.Closes.answer {c : Central} {task : Task} {slot : Nat} {reply : Reply}
    {turn : Turn} (h : stage.Closes task.work) (hfits : task.Fits c)
    (hturn : task.answer c slot reply = some turn) :
    stage.IsOver turn.task.work ∧ turn.task.unanswered = [] := by
  have hhangUp {session : Option Nat} (hwork : task.work = .hangUp session) :
      turn.task.unanswered = [] := by
    simp only [Task.answer, hwork, Option.ite_none_right_eq_some, Option.some.injEq] at hturn
    obtain ⟨-, rfl⟩ := hturn
    rfl
  cases stage with
  | opening =>
    obtain ⟨session, stage, hwork, hclosed⟩ := h
    obtain ⟨-, -, rfl⟩ := Task.report_of_answer hfits hwork hclosed hturn
    exact ⟨⟨_, rfl⟩, rfl⟩
  | abandoning | closing =>
    obtain ⟨session, hwork⟩ := h
    exact ⟨trivial, hhangUp hwork⟩
  | _ => exact h.elim

end Stages

/-- **The device has been closed**: nothing was asked of it and nothing done with it after it
was to disconnect. -/
def Closed (link : Link) (calls : List Call) (log : List (RadioStep × Bool)) : Prop :=
  calls.getLast? = some (.disconnect link) ∧
    ∃ ok, log.getLast? = some (.disconnect link.number, ok)

/-- **Who holds the device**, when these calls have been made. -/
inductive Holds (calls : List Call) (p : Program) : Prop
  /-- The connect cycle, if it has one yet. -/
  | cycle {task : Task} {session : Nat} {stage : CarrierLink.Stage}
      (htask : p.system.tasks[p.current]? = some task)
      (hwork : task.work = .attempt session stage) (hopen : stage.isOpen)
      (hstage : p.stage = .opening) (hasks : ∀ ticket ∈ task.unanswered, stage.Asks ticket.call)
      (hscan : stage.link? = none → p.log = []) (htidy : Tidy stage.link? calls p.log)
  /-- The connection; a script may have calls out. -/
  | connection {task : Task} {link : Link} (htask : p.system.tasks[p.current]? = some task)
      (hscript : task.cycle? = none) (hstage : p.stage.Uses task.work)
      (hphase : p.system.central.connection.phase = .connected)
      (hlink : p.system.central.connection.link = some link)
      (hcalls : ∀ ticket ∈ task.unanswered, ticket.call.link? = some link)
      (htidy : Tidy (some link) calls p.log)
  /-- Whoever closes it. -/
  | closing {task : Task} {link : Link} {before : List Call}
      (htask : p.system.tasks[p.current]? = some task) (hstage : p.stage.Closes task.work)
      (hunanswered : task.unanswered = [⟨0, .disconnect link⟩])
      (hmade : calls ++ task.queued.map Ticket.call = before ++ [.disconnect link])
      (htidy : Tidy (some link) calls p.log)
  /-- Nobody any more. -/
  | nobody {task : Task} {device : Option Link} (htask : p.system.tasks[p.current]? = some task)
      (hstage : p.stage.IsOver task.work) (hended : task.unanswered = [])
      (htidy : Tidy device calls p.log)
      (hclosed : ∀ link, device = some link → Closed link calls p.log)

namespace Holds

variable {calls : List Call} {p p' q : Program} {link : Link} {action : Action}
  {reports : List Callback} {system : System} {seen : List (Actor × Event)}

/-! ### The steps of the operation under way -/

theorem send (h : Holds calls p) (hstep : p.system.step (.send p.current) = some (system, seen)) :
    Holds (calls ++ p.asks .send)
      { p with system, unseen := p.unseen ++ Program.reports seen } := by
  obtain ⟨task, ticket, queued, htask, hqueued, rfl, -⟩ := System.step_send hstep
  have hasked : p.asks .send = [ticket.call] := by simp [asks, htask, hqueued]
  have hmem : ticket ∈ task.unanswered := by simp [Task.unanswered, hqueued]
  have hsub : ∀ ticket' ∈ Task.unanswered { task with queued, sent := task.sent ++ [ticket] },
      ticket' ∈ task.unanswered := by
    intro ticket' hmem'
    simp only [Task.unanswered, hqueued, List.mem_append, List.mem_cons, List.not_mem_nil,
      or_false] at hmem' ⊢
    tauto
  rw [hasked]
  cases h with
  | cycle htask' hwork hopen hstage hasks hscan htidy =>
    obtain rfl := Option.some.inj (htask.symm.trans htask')
    have hlink := Stage.link?_of_asks (hasks ticket hmem) hopen
    exact .cycle (task_of_set htask rfl) hwork hopen hstage
      (fun ticket' hmem' => hasks ticket' (hsub ticket' hmem')) hscan
      (htidy.ask fun _ hcall => hlink.symm.trans hcall)
  | connection htask' hscript huses hphase hlink hcalls htidy =>
    obtain rfl := Option.some.inj (htask.symm.trans htask')
    exact .connection (task_of_set htask rfl) hscript huses hphase hlink
      (fun ticket' hmem' => hcalls ticket' (hsub ticket' hmem'))
      (htidy.ask fun _ hcall => (hcalls ticket hmem).symm.trans hcall)
  | closing htask' hcloses hunanswered hmade htidy =>
    obtain rfl := Option.some.inj (htask.symm.trans htask')
    rw [Task.unanswered, hqueued, List.cons_append, List.cons.injEq,
      List.append_eq_nil_iff] at hunanswered
    obtain ⟨rfl, rfl, hsent⟩ := hunanswered
    rw [hqueued] at hmade
    exact .closing (task_of_set htask rfl) hcloses (by simp [Task.unanswered, hsent])
      (by simpa using hmade) (htidy.ask fun _ hcall => hcall)
  | nobody htask' _ hended =>
    obtain rfl := Option.some.inj (htask.symm.trans htask')
    exact absurd (hended ▸ hmem) List.not_mem_nil

/-- **An answer to the connect cycle.** -/
theorem answer_cycle {task : Task} {session slot : Nat} {stage : CarrierLink.Stage}
    {ticket : Ticket} {result : Radio.Result} {reply : Reply} {turn : Turn}
    (hs : p.system.Sound) (htask : p.system.tasks[p.current]? = some task)
    (hwork : task.work = .attempt session stage) (hopen : stage.isOpen)
    (hstage : p.stage = .opening) (hasks : ∀ ticket ∈ task.unanswered, stage.Asks ticket.call)
    (hscan : stage.link? = none → p.log = []) (htidy : Tidy stage.link? calls p.log)
    (hmem : ticket ∈ task.unanswered)
    (hturn : task.answer p.system.central slot reply = some turn) :
    Holds calls { p with
      log := p.log ++ Radio.steps ticket.call result
      system := ⟨turn.central, p.system.tasks.set p.current turn.task⟩
      unseen := p.unseen ++ Program.reports seen } := by
  have hfits := hs.fits _ _ htask
  have hcycle : Cycle session p.system.central (reply.link?.or stage.link?) (fun _ => True) turn :=
    Task.cycle_of_answer hs.coherent hfits hwork hopen hturn (fun _ _ => trivial)
      (fun _ _ => trivial) fun _ _ => trivial
  have hgot : ∀ link, stage.link? = some link → reply.link?.or stage.link? = some link := by
    intro link hlink
    cases hnew : reply.link? with
    | none => rwa [Option.none_or]
    | some new =>
      rw [Task.eq_searching_of_answer hwork hturn hnew] at hlink
      exact absurd hlink (by simp [CarrierLink.Stage.link?])
  have htidy' := htidy.answered hscan hopen (hasks ticket hmem) hgot result
  cases hcycle with
  | goesOn stage' hwork' hopen' hlink =>
    refine .cycle (task_of_set htask rfl) hwork' hopen' hstage
      (Task.asks_of_answer hs.coherent hfits hwork hasks hturn hwork') (fun hnone => ?_)
      (hlink ▸ htidy')
    -- There is still no device, so there was no scan either, but the question before it.
    have hbefore : stage.link? = none := by
      cases hstage : stage.link? with
      | none => rfl
      | some link => exact absurd ((hgot link hstage).symm.trans (hlink.symm.trans hnone)) (by simp)
    rw [hscan hbefore, List.nil_append]
    rcases CarrierLink.Stage.searches_of_link? hopen hbefore with rfl | rfl
    · rw [CarrierLink.Stage.eq_available_of_asks (hasks ticket hmem)]
      rfl
    · exact absurd hnone (Task.link?_of_search hwork hturn hwork' hopen')
  | refuses hlink =>
    have hcloses : p.stage.Closes (.attempt session .refusing) := hstage ▸ ⟨_, _, rfl, rfl⟩
    exact .closing (task_of_set htask rfl) hcloses rfl rfl (hlink ▸ htidy')
  | completes =>
    obtain ⟨hphase, link, hlink, hlink'⟩ :=
      Task.joined_of_answer hs.coherent hfits hwork hturn rfl
    have huses : p.stage.Uses (.finished (.ok .done)) := hstage ▸ ⟨_, rfl⟩
    exact .connection (task_of_set htask rfl) rfl huses hphase hlink'
      (fun _ hmem => absurd hmem List.not_mem_nil) (hgot link hlink ▸ htidy')
  | @givesUp _ _ e _ hlink =>
    have hcloses : p.stage.Closes (.attempt session (.closing e)) := hstage ▸ ⟨_, _, rfl, rfl⟩
    exact .closing (task_of_set htask rfl) hcloses rfl rfl (hlink ▸ htidy')
  | @reports _ _ e hlink =>
    have hover : p.stage.IsOver (.finished (.error e)) := hstage ▸ ⟨_, rfl⟩
    exact .nobody (task_of_set htask rfl) hover rfl (hlink ▸ htidy') fun _ h => absurd h (by simp)

theorem answer {slot : Nat} {result : Radio.Result} {call : Call} {reply : Reply}
    (h : Holds calls p) (hs : p.system.Sound) (hcall : p.call? slot = some call)
    (hreply : Radio.reply? p.plan.filter call result = some reply)
    (hstep : p.system.step (.reply p.current slot reply) = some (system, seen)) :
    Holds calls { p with
      log := p.log ++ Radio.steps call result
      system, unseen := p.unseen ++ Program.reports seen } := by
  obtain ⟨task, turn, htask, hturn, rfl, -⟩ := System.step_reply hstep
  obtain ⟨ticket, hmem, -, rfl⟩ := exists_of_call? htask hcall
  have hfits := hs.fits _ _ htask
  cases h with
  | cycle htask' hwork hopen hstage hasks hscan htidy =>
    obtain rfl := Option.some.inj (htask.symm.trans htask')
    exact answer_cycle hs htask hwork hopen hstage hasks hscan htidy hmem hturn
  | connection htask' hscript huses hphase hlink hcalls htidy =>
    obtain rfl := Option.some.inj (htask.symm.trans htask')
    obtain ⟨hscript', hphase', hlink', -⟩ := Task.frame_of_answer hs.coherent hfits hscript hturn
    obtain ⟨hcalls', -⟩ := Task.calls_of_answer hs.coherent hfits hscript hturn
    have hwaits : ∀ outcome, task.work ≠ .finished outcome := fun outcome hwork => by
      simp [Task.answer, hwork] at hturn
    refine .connection (task_of_set htask rfl) hscript' (huses.congr hwaits)
      (hphase'.trans hphase) (hlink'.trans hlink) (fun ticket hmem => ?_)
      (htidy.answer (hcalls ticket hmem) result)
    rcases hcalls' ticket hmem with hold | ⟨-, hserves⟩
    · exact hcalls ticket hold
    · exact hserves.symm.trans (hlink'.trans hlink)
  | @closing _ link before htask' hcloses hunanswered hmade htidy =>
    obtain rfl := Option.some.inj (htask.symm.trans htask')
    obtain ⟨hqueued, -⟩ := Task.sole_of_answer hturn hunanswered
    obtain rfl : ticket = ⟨0, .disconnect link⟩ := by simpa [hunanswered] using hmem
    obtain ⟨hover, hended⟩ := hcloses.answer hfits hturn
    obtain ⟨ok, hsteps⟩ := Radio.steps_of_disconnect hreply
    refine .nobody (task_of_set htask rfl) hover hended (htidy.answer rfl result)
      fun link' hlink' => ?_
    obtain rfl := Option.some.inj hlink'
    rw [hqueued, List.map_nil, List.append_nil] at hmade
    exact ⟨by rw [hmade]; simp, ok, by simp [hsteps]⟩
  | nobody htask' _ hended =>
    obtain rfl := Option.some.inj (htask.symm.trans htask')
    exact absurd (hended ▸ hmem) List.not_mem_nil

/-! ### The events of the link -/

/-- **An event of the link**: unless it is the loss of the connection, it is no matter who
holds the device. -/
theorem push {session : Nat} {event : LinkEvent} (h : Holds calls p) (hs : p.system.Sound)
    (haction : action = .push session event ∨ action = .endOfStream session ∧ event = .disconnected)
    (hstep : p.system.step (.push session event) = some (p'.system, seen)) (hlog : p'.log = p.log)
    (hstage : p'.stage = p.stage) :
    Holds calls p' ∨
      ∃ link, p.Loses link action ∧ p'.Silent link ∧ Tidy (some link) calls p'.log := by
  obtain ⟨hpump, hsystem, -, -⟩ := System.step_push hstep
  have hlive := hs.live_of_hasPump hpump
  have htask' {task : Task} (htask : p.system.tasks[p.current]? = some task) :
      p'.system.tasks[p'.current]? = some task := by rwa [current, hsystem]
  rw [hlog]
  cases h with
  | cycle htask hwork hopen hopening hasks hscan htidy =>
    exact .inl (.cycle (htask' htask) hwork hopen (hstage.trans hopening) hasks (hlog ▸ hscan)
      (hlog ▸ htidy))
  | @connection _ link htask hscript huses hphase hlink hcalls htidy =>
    cases event with
    | notification characteristic data =>
      obtain ⟨hchange, hteardown⟩ :=
        hs.coherent.receive_change hlive (.notification characteristic data)
      obtain ⟨hphase', hlink', -⟩ := hchange.frame_of_other fun h => absurd (hteardown h) (by simp)
      exact .inl (.connection (htask' htask) hscript (hstage ▸ huses)
        (hsystem ▸ hphase'.trans hphase) (hsystem ▸ hlink'.trans hlink) hcalls (hlog ▸ htidy))
    | disconnected =>
      exact .inr ⟨link, ⟨hphase, hlink, session, hlive, haction.imp_right And.left⟩,
        silent_of_disconnected hs hstep htask (Task.attempt?_of_cycle? hscript) hcalls, htidy⟩
  | closing htask hcloses hunanswered hmade htidy =>
    exact .inl (.closing (htask' htask) (hstage ▸ hcloses) hunanswered hmade (hlog ▸ htidy))
  | nobody htask hover hended htidy hclosed =>
    exact .inl (.nobody (htask' htask) (hstage ▸ hover) hended (hlog ▸ htidy) (hlog ▸ hclosed))

/-! ### The steps of the program -/

/-- An action that concerns neither the operation under way nor the radio. -/
theorem idle (h : Holds calls p) (hsystem : q.system = p.system) (hlog : q.log = p.log)
    (hstage : q.stage = p.stage) : Holds calls q := by
  have htask' {task : Task} (htask : p.system.tasks[p.current]? = some task) :
      q.system.tasks[q.current]? = some task := by rwa [current, hsystem]
  cases h with
  | cycle htask hwork hopen hopening hasks hscan htidy =>
    exact .cycle (htask' htask) hwork hopen (hstage.trans hopening) hasks (hlog ▸ hscan)
      (hlog ▸ htidy)
  | connection htask hscript huses hphase hlink hcalls htidy =>
    exact .connection (htask' htask) hscript (hstage ▸ huses) (hsystem ▸ hphase)
      (hsystem ▸ hlink) hcalls (hlog ▸ htidy)
  | closing htask hcloses hunanswered hmade htidy =>
    exact .closing (htask' htask) (hstage ▸ hcloses) hunanswered hmade (hlog ▸ htidy)
  | nobody htask hover hended htidy hclosed =>
    exact .nobody (htask' htask) (hstage ▸ hover) hended (hlog ▸ htidy) (hlog ▸ hclosed)

/-- **A script is started** on the connection. -/
theorem runs {script : Script} {stage : Stage} (hs : p.system.Sound)
    (hsystem : q.system = p.system) (hlog : q.log = p.log)
    (hstart : q.start (.run script) stage = some (p', reports))
    (hstage : stage = .settingClock ∨ ∃ printed, stage = .working printed)
    (hphase : p.system.central.connection.phase = .connected)
    (hlink : p.system.central.connection.link = some link)
    (htidy : Tidy (some link) calls p.log) : Holds calls p' := by
  obtain ⟨hstage', -, hlog', ⟨task, htask, rfl⟩, -⟩ := doing_of_start hstart
  have hscript := script.ofScript_run hs.coherent
  have hcentral : p'.system.central = p.system.central := by
    rw [central_of_start hstart, hsystem]
    exact hscript.central
  rw [hsystem] at htask
  refine .connection htask hscript.work ?_ (by rw [hcentral, hphase]) (by rw [hcentral, hlink])
    (fun ticket hmem => (Script.serves_of_run hmem).2.symm.trans hlink) (hlog'.trans hlog ▸ htidy)
  rcases hstage with rfl | ⟨printed, rfl⟩ <;> exact hstage' ▸ trivial

/-- **The connection is closed.** -/
theorem hangsUp {stage : Stage} (hsystem : q.system = p.system) (hlog : q.log = p.log)
    (hstart : q.start .disconnect stage = some (p', reports))
    (hstage : (∃ e, stage = .abandoning e) ∨ ∃ result, stage = .closing result)
    (hlink : p.system.central.connection.link = some link)
    (htidy : Tidy (some link) calls p.log) : Holds calls p' := by
  obtain ⟨hstage', -, hlog', ⟨task, htask, rfl⟩, -⟩ := doing_of_start hstart
  have htask' : (Task.start q.system.central .disconnect).task =
      .asking (.hangUp p.system.central.connection.session) (.disconnect link) := by
    simp [Task.start, hsystem, hlink]
  rw [htask'] at htask
  refine .closing htask ?_ rfl rfl (hlog'.trans hlog ▸ htidy)
  rcases hstage with ⟨e, rfl⟩ | ⟨result, rfl⟩ <;> exact hstage' ▸ ⟨_, rfl⟩

/-- **What the program goes on with** is a matter of whether it still has the device. -/
theorem goesOn {outcome : Outcome} (h : Holds calls p) (hs : p.system.Sound)
    (houtcome : p.outcome? = some outcome) (hgoes : p.Goes outcome p') : Holds calls p' := by
  have hfinished {task : Task} (htask : p.system.tasks[p.current]? = some task) :
      task.work = .finished outcome := by
    simp only [outcome?, htask, Option.bind_some, Task.outcome?] at houtcome
    split at houtcome
    next hwork => rw [hwork, Option.some.inj houtcome]
    next => exact absurd houtcome (by simp)
  cases h with
  | cycle htask hwork => exact absurd ((hfinished htask).symm.trans hwork) (by simp)
  | connection htask hscript huses hphase hlink hcalls htidy =>
    cases hgoes with
    | stops hlast => exact absurd hlast (hfinished htask ▸ huses).not_isLast
    | watches _ hsystem hlog hwatching =>
      exact .connection (by rwa [current, hsystem]) hscript (hwatching ▸ trivial)
        (hsystem ▸ hphase) (hsystem ▸ hlink) hcalls (hlog ▸ htidy)
    | runs _ hsystem hlog hstart hstage =>
      exact runs hs hsystem hlog hstart hstage hphase hlink htidy
    | hangsUp _ hsystem hlog hstart hstage =>
      exact hangsUp hsystem hlog hstart hstage hlink htidy
  | closing htask hcloses => exact absurd (hfinished htask) hcloses.ne_finished
  | nobody htask hover hended htidy hclosed =>
    have hnot := (hfinished htask ▸ hover).not_goesOn
    cases hgoes with
    | stops _ hsystem hlog hstopped =>
      exact .nobody (by rwa [current, hsystem]) (hstopped ▸ trivial) hended (hlog ▸ htidy)
        (hlog ▸ hclosed)
    | watches hgoes => exact absurd hgoes hnot
    | runs hgoes => exact absurd hgoes hnot
    | hangsUp hgoes => exact absurd hgoes hnot

/-- **Every step passes the device on**, unless the link is lost. -/
theorem next (h : Holds calls p) (hs : p.system.Sound) (hmoves : p.Moves action p') :
    Holds (calls ++ p.asks action) p' ∨
      ∃ link, p.Loses link action ∧ p'.Silent link ∧
        Tidy (some link) (calls ++ p.asks action) p'.log := by
  have hstays (haction : action ≠ .send) (h : Holds calls p') :
      Holds (calls ++ p.asks action) p' := by
    rwa [asks_eq_nil haction, List.append_nil]
  cases hmoves with
  | acts haction hstep =>
    cases action with
    | send => exact .inl (h.send (Option.some.inj haction ▸ hstep))
    | push session event =>
      rw [asks_eq_nil (by simp), List.append_nil]
      exact h.push hs (.inl rfl) (Option.some.inj haction ▸ hstep) rfl rfl
    | endOfStream session =>
      rw [asks_eq_nil (by simp), List.append_nil]
      exact h.push hs (.inr ⟨rfl, rfl⟩)
        (System.step_endOfStream (Option.some.inj haction ▸ hstep)) rfl rfl
    | _ => simp [central?] at haction
  | answers hcall hreply hstep => exact .inl (hstays (by simp) (h.answer hs hcall hreply hstep))
  | looks hsystem _ hlog hstage => exact .inl (hstays (by simp) (h.idle hsystem hlog hstage))
  | proceeds houtcome hproceed =>
    exact .inl (hstays (by simp) (h.goesOn hs houtcome (goes_of_proceed hproceed)))
  | leaves haction hstage hleave hsystem _ hlog =>
    refine .inl (hstays (by rintro rfl; simp at haction) ?_)
    obtain ⟨q', hsystem', hlog', hstart⟩ := leave_eq_some hleave
    cases h with
    | cycle _ _ _ hopening => exact absurd (hopening.symm.trans hstage) (by simp)
    | connection _ _ _ _ hlink _ htidy =>
      exact hangsUp (hsystem'.trans hsystem) (hlog'.trans hlog) hstart (.inr ⟨_, rfl⟩) hlink htidy
    | closing _ hcloses => exact (hstage ▸ hcloses).elim
    | nobody _ hover => exact (hstage ▸ hover).elim

/-- **At the beginning** the device is the connect cycle's, which has yet to find it. -/
theorem opened {plan : Plan} (h : Program.opened plan = some (p, reports)) : Holds [] p := by
  obtain ⟨hstage, -, hlog, ⟨task, htask, rfl⟩, -⟩ := doing_of_start h
  refine .cycle htask rfl rfl hstage (fun ticket hmem => ?_) (fun _ => hlog) (hlog ▸ tidy_nil)
  obtain rfl := List.mem_singleton.mp hmem
  trivial

/-- Whoever holds the device has no call out on another. -/
theorem exists_device (h : Holds calls p) :
    ∃ task, p.system.tasks[p.current]? = some task ∧
      ((∃ session stage, task.work = .attempt session stage) ∨
        ∃ link, ∀ ticket ∈ task.unanswered, ticket.call.link? = some link) := by
  cases h with
  | cycle htask hwork => exact ⟨_, htask, .inl ⟨_, _, hwork⟩⟩
  | connection htask _ _ _ _ hcalls => exact ⟨_, htask, .inr ⟨_, hcalls⟩⟩
  | @closing _ link _ htask _ hunanswered =>
    refine ⟨_, htask, .inr ⟨link, fun ticket hmem => ?_⟩⟩
    obtain rfl : ticket = ⟨0, .disconnect link⟩ := by simpa [hunanswered] using hmem
    rfl
  | nobody htask _ hended => exact ⟨_, htask, .inr ⟨⟨0, none⟩, by simp [hended]⟩⟩

end Holds

/-! ### After a loss -/

/-- **The central is in order and has begun one session.** -/
structure Alone (p : Program) : Prop where
  sound : p.system.Sound
  sessions : p.system.central.sessions = 1

section Loss

variable {p p' : Program} {link : Link} {action : Action} {calls : List Call}
  {reports : List Callback}

theorem alone_opened {plan : Plan} (h : opened plan = some (p, reports)) : p.Alone := by
  refine ⟨((doing_of_start h).2.2.2.2 (reached_initial plan)).sound, ?_⟩
  rw [central_of_start h]
  rfl

theorem Alone.next (h : p.Alone) (hmoves : p.Moves action p') : p'.Alone := by
  rcases step_of_moves hmoves with hsame | ⟨act, seen, hstep, hact⟩
  · exact ⟨hsame ▸ h.sound, hsame ▸ h.sessions⟩
  · exact ⟨(h.sound.step hstep).1, (h.sound.sessions_eq_of_step hstep hact).trans h.sessions⟩

/-- While the one session is connected there is no connect cycle. -/
theorem Alone.attempt?_of_connected {number : Nat} {task : Task} (h : p.Alone)
    (hphase : p.system.central.connection.phase = .connected)
    (htask : p.system.tasks[number]? = some task) : task.attempt? = none := by
  cases hattempt : task.attempt? with
  | none => rfl
  | some session =>
    obtain ⟨stage, hwork⟩ := Task.attempt?_eq_some.mp hattempt
    have hfits := h.sound.fits number task htask
    simp only [Task.Fits, hwork] at hfits
    obtain ⟨hpos, hbegun, hmatches, -⟩ := hfits
    cases hlive : p.system.central.connection.session with
    | none => simp [h.sound.coherent.idle hlive] at hphase
    | some live =>
      -- The live session is the last one, and there has been no other.
      have hnewest := (h.sound.coherent.newest live hlive).2
      obtain rfl : live = session := by
        have := h.sessions
        omega
      exact absurd (hmatches hlive).isSettingUp (by simp [hphase, Phase.isSettingUp])

/-- **A loss is followed by silence**: whoever holds the device has made all its calls. -/
theorem Holds.silent_of_loss (h : Holds calls p) (halone : p.Alone) (hloses : p.Loses link action)
    (hmoves : p.Moves action p') : ∃ link', p'.Silent link' := by
  obtain ⟨session, seen, hstep⟩ := hloses.step hmoves
  obtain ⟨task, htask, hdevice⟩ := h.exists_device
  have hattempt := halone.attempt?_of_connected hloses.1 htask
  rcases hdevice with ⟨session, stage, hwork⟩ | ⟨link', hcalls⟩
  · simp [Task.attempt?, hwork] at hattempt
  · exact ⟨link', silent_of_disconnected halone.sound hstep htask hattempt hcalls⟩

end Loss

/-! ### The whole run -/

/-- A run loses a link with an action, after those before it. -/
def LosesAt (p₀ : Program) (link : Link) (before : List Action) (loss : Action) : Prop :=
  ∃ q reports, p₀.run before = some (q, reports) ∧ q.Loses link loss

/-- **Nothing is left open** by a run with these actions, of which the radio has kept this
log. -/
structure LeavesNothingOpen (p₀ : Program) (actions : List Action)
    (log : List (RadioStep × Bool)) : Prop where
  /-- There is one scan at most, and it is over before anything else is done. -/
  scan : ∃ scan rest, log = scan ++ rest ∧ Radio.Scan scan ∧
    ∀ entry ∈ rest, entry.1.isScan = false
  /-- There is one device at most. -/
  device : ∃ device : Link,
    (∀ call ∈ p₀.calls actions, ∀ link, call.link? = some link → link = device) ∧
    ∀ entry ∈ log, ∀ number, entry.1.device? = some number → number = device.number
  /-- A device that was to be connected is closed, unless its link has been lost. -/
  closed : ∀ link, .connect link ∈ p₀.calls actions →
    Closed link (p₀.calls actions) log ∨
      ∃ before loss after, actions = before ++ loss :: after ∧ p₀.LosesAt link before loss
  /-- Nothing is called after a loss. -/
  silent : ∀ link before loss after, actions = before ++ loss :: after →
    p₀.LosesAt link before loss → p₀.calls actions = p₀.calls before

/-- **Where a run stands**: somebody holds the device, or its link has been lost, and since a
loss nothing has been called. -/
structure Stands (p₀ : Program) (done : List Action) (p : Program) : Prop where
  alone : p.Alone
  device : Holds (p₀.calls done) p ∨
    ∃ link, p.Silent link ∧ Tidy (some link) (p₀.calls done) p.log ∧
      ∃ before loss after, done = before ++ loss :: after ∧ p₀.LosesAt link before loss
  silent : ∀ link before loss after, done = before ++ loss :: after →
    p₀.LosesAt link before loss → (∃ link', p.Silent link') ∧ p₀.calls done = p₀.calls before

section Run

variable {plan : Plan} {p₀ p p' : Program} {done actions : List Action} {action : Action}
  {first reports soon now : List Callback}

theorem stands_opened (h : opened plan = some (p₀, first)) : p₀.Stands [] p₀ where
  alone := alone_opened h
  device := .inl (.opened h)
  silent _ _ _ _ h := absurd h (by simp)

/-- **Every action keeps a run where it stands.** -/
theorem Stands.next (h : p₀.Stands done p) (hran : p₀.run done = some (p, soon))
    (hstep : p.step action = some (p', now)) : p₀.Stands (done ++ [action]) p' := by
  have hmoves := moves_of_step hstep
  have hcalls := calls_snoc hran hstep
  refine ⟨h.alone.next hmoves, ?_, fun link before loss after hsplit hloses => ?_⟩
  · rw [hcalls]
    rcases h.device with hholds | ⟨link, hsilent, htidy, before, loss, after, rfl, hloses⟩
    · rcases hholds.next h.alone.sound hmoves with hholds' | ⟨link, hloses, hsilent, htidy⟩
      · exact .inl hholds'
      · exact .inr ⟨link, hsilent, htidy, done, action, [], rfl, p, soon, hran, hloses⟩
    · obtain ⟨hsilent', hasks, hlog⟩ := hsilent.next h.alone.sound hmoves
      rw [hasks, List.append_nil]
      exact .inr ⟨link, hsilent', hlog _ htidy, before, loss, after ++ [action], by simp, hloses⟩
  · rw [hcalls]
    -- The loss is this very action, or it has been before.
    rcases List.eq_nil_or_concat after with rfl | ⟨after, last, rfl⟩
    · obtain ⟨rfl, hloss⟩ := List.append_inj' hsplit rfl
      obtain rfl := List.singleton_inj.mp hloss
      obtain ⟨q, reports, hran', hloses⟩ := hloses
      obtain ⟨rfl, -⟩ := Prod.mk.inj (Option.some.inj (hran.symm.trans hran'))
      have hasks : p.asks action = [] := asks_eq_nil (by rintro rfl; simp [Loses] at hloses)
      rw [hasks, List.append_nil]
      refine ⟨?_, rfl⟩
      rcases h.device with hholds | ⟨link', hsilent, -⟩
      · exact hholds.silent_of_loss h.alone hloses hmoves
      · exact ⟨link', (hsilent.next h.alone.sound hmoves).1⟩
    · obtain ⟨rfl, -⟩ : done = before ++ loss :: after ∧ [action] = [last] :=
        List.append_inj' (by simpa using hsplit) rfl
      obtain ⟨⟨link', hsilent⟩, hsince⟩ := h.silent link before loss after rfl hloses
      obtain ⟨hsilent', hasks, -⟩ := hsilent.next h.alone.sound hmoves
      rw [hasks, List.append_nil]
      exact ⟨⟨link', hsilent'⟩, hsince⟩

theorem Stands.of_run (hopened : opened plan = some (p₀, first))
    (hrun : p₀.run actions = some (p, reports)) : p₀.Stands actions p :=
  run_induction_done (fun _ _ _ _ _ _ hran h hstep => h.next hran hstep) hrun
    (stands_opened hopened)

/-- **A session leaves nothing open**, whatever it was opened for and however the platform
behaves: every run of it that ends has stopped its scan before it has called a device, has
called one device at most, and the last call was to disconnect that device, unless its link
has been lost while it was connected. After such a loss nothing was called. -/
theorem closed_of_run (hopened : opened plan = some (p₀, first))
    (hrun : p₀.run actions = some (p, reports)) (hended : p.result?.isSome) :
    p₀.LeavesNothingOpen actions p.log := by
  have hstands := Stands.of_run hopened hrun
  obtain ⟨result, hstage⟩ : ∃ result, p.stage = .ended result := by
    simp only [result?] at hended
    split at hended
    next result hstage => exact ⟨result, hstage⟩
    next => exact absurd hended (by simp)
  have hsilent : ∀ link before loss after, actions = before ++ loss :: after →
      p₀.LosesAt link before loss → p₀.calls actions = p₀.calls before :=
    fun link before loss after hsplit hloses =>
      (hstands.silent link before loss after hsplit hloses).2
  -- Whoever holds the device when the program is over has closed it.
  obtain ⟨device, htidy, hclosed⟩ : ∃ device, Tidy device (p₀.calls actions) p.log ∧
      ∀ link, device = some link → Closed link (p₀.calls actions) p.log ∨
        ∃ before loss after, actions = before ++ loss :: after ∧ p₀.LosesAt link before loss := by
    rcases hstands.device with hholds | ⟨link, -, htidy, hlost⟩
    · cases hholds with
      | cycle _ _ _ hopening => exact absurd (hopening.symm.trans hstage) (by simp)
      | connection _ _ huses => exact (hstage ▸ huses).elim
      | closing _ hcloses => exact (hstage ▸ hcloses).elim
      | nobody _ _ _ htidy hclosed =>
        exact ⟨_, htidy, fun link hlink => .inl (hclosed link hlink)⟩
    · refine ⟨some link, htidy, fun link' hlink => .inr ?_⟩
      obtain rfl := Option.some.inj hlink
      exact hlost
  refine ⟨htidy.scan, ?_, fun link hmem => hclosed link (htidy.calls _ hmem link rfl), hsilent⟩
  refine ⟨device.getD ⟨0, none⟩, fun call hmem link hlink => ?_,
    fun entry hmem number hnumber => ?_⟩
  · rw [htidy.calls call hmem link hlink, Option.getD_some]
  · obtain ⟨link, rfl, rfl⟩ := Option.map_eq_some_iff.mp (htidy.steps entry hmem number hnumber)
    rfl

end Run

/-- The board is lost while its clock is being set. -/
def losing : List Action :=
  AlarmInput.obliging.take 12 ++ [.push 1 .disconnected,
    .answer 0 (.acknowledgement (some (.error .notConnected))), .proceed, .proceed]

/-- **A board that is lost** is not called any more, and nothing is left open. -/
theorem closed_after_loss :
    ∃ plan p₀ first p reports, Command.errand {} AlarmInput.halfPastSix .syncTime = .session plan ∧
      opened plan = some (p₀, first) ∧ p₀.run losing = some (p, reports) ∧ p.result?.isSome ∧
      p.log.map Prod.fst =
        [.startScan, .stopScan, .connect 1, .notifications 1, .adapterEvents, .discover 1,
          .write 1 (Uuid.ofChannel .localTime) [6, 30]] ∧
      p₀.LeavesNothingOpen losing p.log := by
  let plan : Plan := ⟨.alarm, Command.filter {} .alarm, ⟨6, 30⟩, .nothing⟩
  have h : ((opened plan).bind fun opened => (opened.1.run losing).map fun ran =>
      (ran.1.result?.isSome, ran.1.log.map Prod.fst)) =
        some (true, [.startScan, .stopScan, .connect 1, .notifications 1, .adapterEvents,
          .discover 1, .write 1 (Uuid.ofChannel .localTime) [6, 30]]) := by
    decide +kernel
  obtain ⟨⟨p₀, first⟩, hopened, h⟩ := Option.bind_eq_some_iff.mp h
  obtain ⟨⟨p, reports⟩, hrun, h⟩ := Option.map_eq_some_iff.mp h
  have hended : p.result?.isSome := congrArg Prod.fst h
  exact ⟨plan, p₀, first, p, reports, rfl, hopened, hrun, hended, congrArg Prod.snd h,
    closed_of_run hopened hrun hended⟩

end Program

end CarrierLink
