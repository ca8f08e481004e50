import CarrierLink.Proofs.Central.Observer

/-!
# A connect that fails

A connect may fail at any of its calls, and at each of them somebody else may have closed
its session already, with or without its link. This module proves that it makes no
difference (`CarrierLink.System.failed_of_leads`): once a connect has failed, its session is
over, its pump is gone, its link has been closed and is left alone, and the observer has
been told the reason as the last thing of that session. A connect that finds the central
busy does nothing at all.

The proof keeps a ledger of the connect (`CarrierLink.Ledger`) from its beginning on: the
links that it has been given, the calls that it has made and will make, and what its session
has told. A cycle that still hopes to connect has the link that it was given and has not
closed any; one that has stopped hoping has the closing of that link as its last call; one
that has failed has made it. `CarrierLink.System.ledger_of_leads` carries the ledger along a
history, one lemma for each of the three ways in which a step can concern the connect: it
sends a call, it is answered, or it has nothing to do with the step.

The platform may itself answer that it is busy, and a connect then fails with that answer as
it does with any other. `CarrierLink.Excused` keeps this apart from the refusal.
-/

namespace CarrierLink

/-! ### What happens to a task -/

/-- The platform gives a task a link. -/
def Moment.Brings (m : Moment) (number : Nat) (link : Link) : Prop :=
  ∃ slot, m.action = .reply number slot (.device (.ok link))

/-- The platform gives a task an error. -/
def Moment.Denies (m : Moment) (number : Nat) (e : Error) : Prop :=
  ∃ slot reply, m.action = .reply number slot reply ∧ reply.error? = some e

/-- The calls that a task has made in a history, in order. -/
def made (ms : List Moment) (number : Nat) : List Call :=
  callsIn (ms.flatMap Moment.seen) number

theorem made_snoc (past : List Moment) (m : Moment) (number : Nat) :
    made (past ++ [m]) number = made past number ++ callsIn m.seen number := by
  simp [made, callsIn]

/-- **An error that the task did not make up**, if it is the one that a refusal has. -/
def Excused (ms : List Moment) (number : Nat) (e : Error) : Prop :=
  e = .busy → ∃ m ∈ ms, m.Denies number .busy

theorem Excused.snoc {past : List Moment} {number : Nat} {e : Error}
    (h : Excused past number e) (m : Moment) : Excused (past ++ [m]) number e := by
  intro he
  obtain ⟨m', hmem, hdenies⟩ := h he
  exact ⟨m', List.mem_append_left _ hmem, hdenies⟩

/-- A list of calls in which no link is closed. -/
def Unclosed (calls : List Call) : Prop := ∀ call ∈ calls, call.isDisconnect = false

/-- A list of callbacks in which no failure is told. -/
def Unwarned (callbacks : List Callback) : Prop :=
  ∀ callback ∈ callbacks, callback.isWarning = false

theorem Unwarned.append {first rest : List Callback} (hfirst : Unwarned first)
    (hrest : Unwarned rest) : Unwarned (first ++ rest) := fun callback hmem =>
  (List.mem_append.mp hmem).elim (hfirst callback) (hrest callback)

/-- The word with which a connect reports its failure. -/
def Error.warning (e : Error) : Callback := .status ("Error: " ++ e.message) .warn

/-! ### The ledger -/

/-- **How a connect stands**, by its session, its number among the tasks and its history. -/
inductive Ledger (session number : Nat) (ms : List Moment) (s : System) : Prop
  /-- It still hopes to connect. -/
  | hopes {task : Task} {stage : Stage} (htask : s.tasks[number]? = some task)
      (hwork : task.work = .attempt session stage) (hopen : stage.isOpen)
      (hgot : ∀ m ∈ ms, ∀ link, m.Brings number link → stage.link? = some link)
      (hwhy : ∀ e, stage.failure? = some e → Excused ms number e)
      (hcalls : Unclosed (made ms number)) (hsaid : Unwarned (told ms session))
  /-- It has stopped hoping, and the last of its calls closes its link. -/
  | closes {task : Task} {stage : Stage} {link : Link} {calls : List Call}
      (htask : s.tasks[number]? = some task) (hwork : task.work = .attempt session stage)
      (hclosed : stage.isOpen = false)
      (hgot : ∀ m ∈ ms, ∀ link', m.Brings number link' → link' = link)
      (hwhy : Excused ms number (stage.failure?.getD .notConnected))
      (hcalls : made ms number ++ task.queued.map Ticket.call = calls ++ [.disconnect link])
      (hrest : Unclosed calls) (hsaid : Unwarned (told ms session))
  /-- It has failed. -/
  | failed {e : Error} {callbacks : List Callback}
      (htask : s.tasks[number]? = some (Task.finished (.error e)))
      (hlone : ∀ (number' : Nat) (task' : Task), s.tasks[number']? = some task' →
        task'.attempt? ≠ some session)
      (hdead : s.central.connection.session ≠ some session)
      (hgot : ∀ m ∈ ms, ∀ link, m.Brings number link →
        ∃ calls, made ms number = calls ++ [.disconnect link] ∧ Unclosed calls)
      (hwhy : Excused ms number e) (hsaid : told ms session = callbacks ++ [e.warning])
      (hrest : Unwarned callbacks)
  /-- It has come to its end. -/
  | done (htask : s.tasks[number]? = some (Task.finished (.ok .done)))

/-! ### What others do for the session of a connect -/

namespace System

variable {session number : Nat} {m : Moment}

/-- Whoever is not the connect is not its connect cycle. -/
theorem attempt?_ne_of_lone {s : System} {action : Action}
    (hbegun : session ≤ s.central.sessions)
    (hlone : ∀ (number' : Nat) (task' : Task), s.tasks[number']? = some task' →
      task'.attempt? = some session → number' = number)
    (hsend : action ≠ .send number) (hreply : ∀ slot reply, action ≠ .reply number slot reply) :
    s.attempt? action ≠ some session := by
  intro hattempt
  cases action with
  | start operation =>
    cases operation with
    | connect =>
      simp only [attempt?, cycle?] at hattempt
      split at hattempt
      · have hnext := Option.some.inj hattempt
        omega
      · exact absurd hattempt (by simp)
    | _ => exact absurd hattempt (by simp [attempt?])
  | send number' =>
    obtain ⟨task', htask', hattempt'⟩ := Option.bind_eq_some_iff.mp hattempt
    exact hsend (hlone number' task' htask' hattempt' ▸ rfl)
  | reply number' slot reply =>
    obtain ⟨task', htask', hattempt'⟩ := Option.bind_eq_some_iff.mp hattempt
    exact hreply slot reply (hlone number' task' htask' hattempt' ▸ rfl)
  | _ => exact absurd hattempt (by simp [attempt?])

/-- Others do not warn in the name of a session. -/
theorem Sound.unwarned_of_other (hs : m.before.Sound)
    (hstep : m.before.step m.action = some (m.after, m.seen))
    (hother : m.before.attempt? m.action ≠ some session) : Unwarned (told [m] session) := by
  intro callback hmem
  obtain ⟨m', hm', hcycle, hcallback⟩ := mem_told.mp hmem
  obtain rfl := List.mem_singleton.mp hm'
  obtain ⟨own, hchange, hattempt, -⟩ := (hs.step hstep).2.change_of_cycle? hcycle
  cases own with
  | true => exact absurd (hattempt rfl) hother
  | false => exact hchange.not_isWarning callback hcallback

/-- Others have nothing to say in the name of a session that is over. -/
theorem Sound.silent_of_other (hs : m.before.Sound)
    (hstep : m.before.step m.action = some (m.after, m.seen))
    (hother : m.before.attempt? m.action ≠ some session)
    (hended : m.before.central.HasEnded session) : told [m] session = [] := by
  obtain ⟨-, hbegun, hdead⟩ := hended
  refine List.eq_nil_iff_forall_not_mem.mpr fun callback hmem => ?_
  obtain ⟨m', hm', hcycle, hcallback⟩ := mem_told.mp hmem
  obtain rfl := List.mem_singleton.mp hm'
  obtain ⟨own, hchange, hattempt, -⟩ := (hs.step hstep).2.change_of_cycle? hcycle
  exact hother (hattempt ((hchange.eq_of_dead hdead hbegun).2 callback hcallback).1)

end System

/-! ### The ledger along a history -/

namespace Ledger

open CarrierLink.System

variable {session number : Nat} {past : List Moment} {m : Moment}

/-- What is settled about the links of a connect stays so when no link is brought. -/
theorem brings_snoc {P : Link → Prop} (hgot : ∀ m ∈ past, ∀ link, m.Brings number link → P link)
    (hm : ∀ link, m.Brings number link → P link) :
    ∀ m' ∈ past ++ [m], ∀ link, m'.Brings number link → P link :=
  List.forall_mem_append.mpr ⟨hgot, by simpa using hm⟩

/-- **A step that has nothing to do with the connect** leaves its ledger. -/
theorem idle (h : Ledger session number past m.before) (hs : m.before.Sound)
    (hstep : m.before.step m.action = some (m.after, m.seen))
    (hbegun : 0 < session ∧ session ≤ m.before.central.sessions)
    (hsend : m.action ≠ .send number) (hreply : ∀ slot reply, m.action ≠ .reply number slot reply) :
    Ledger session number (past ++ [m]) m.after := by
  have hnone (link : Link) : ¬m.Brings number link := fun ⟨slot, haction⟩ =>
    hreply slot _ haction
  have hkept (task : Task) (htask : m.before.tasks[number]? = some task) :
      m.after.tasks[number]? = some task ∧ made (past ++ [m]) number = made past number := by
    rcases step_task hstep htask with ⟨htask', hcalls, -⟩ | ⟨haction, -⟩ |
      ⟨slot, reply, turn, haction, -⟩
    · exact ⟨htask', by rw [made_snoc, hcalls, List.append_nil]⟩
    · exact absurd haction hsend
    · exact absurd haction (hreply slot reply)
  have hunwarned (task : Task) (htask : m.before.tasks[number]? = some task) (stage : Stage)
      (hwork : task.work = .attempt session stage) : Unwarned (told [m] session) := by
    refine hs.unwarned_of_other hstep (attempt?_ne_of_lone hbegun.2 ?_ hsend hreply)
    intro number' task' htask' hattempt'
    exact hs.alone _ _ _ _ session htask' htask hattempt'
      (Task.attempt?_eq_some.mpr ⟨stage, hwork⟩)
  cases h with
  | @hopes task stage htask hwork hopen hgot hwhy hcalls hsaid =>
    obtain ⟨htask', hmade⟩ := hkept task htask
    refine .hopes htask' hwork hopen (brings_snoc hgot fun link h => absurd h (hnone link))
      (fun e he => (hwhy e he).snoc m) (hmade ▸ hcalls) ?_
    rw [told_append]
    exact hsaid.append (hunwarned task htask stage hwork)
  | @closes task stage link calls htask hwork hclosed hgot hwhy hcalls hrest hsaid =>
    obtain ⟨htask', hmade⟩ := hkept task htask
    refine .closes htask' hwork hclosed (brings_snoc hgot fun link h => absurd h (hnone link))
      (hwhy.snoc m) (hmade ▸ hcalls) hrest ?_
    rw [told_append]
    exact hsaid.append (hunwarned task htask stage hwork)
  | @failed e callbacks htask hlone hdead hgot hwhy hsaid hrest =>
    -- The session is over and has no cycle any more, so nobody speaks in its name.
    obtain ⟨htask', hmade⟩ := hkept _ htask
    have hended : m.before.central.HasEnded session := ⟨hbegun.1, hbegun.2, hdead⟩
    have hafter : m.before.Leads [m] m.after := ⟨rfl, hstep, rfl⟩
    have hsilent := hs.silent_of_other hstep (attempt?_ne_of_lone hbegun.2
      (fun number' task' htask' hattempt' => absurd hattempt' (hlone number' task' htask'))
      hsend hreply) hended
    refine .failed htask' (fun number' task' htask' hattempt' => ?_)
      (hs.hasEnded_of_leads hafter hended).2.2.2
      (hmade ▸ brings_snoc hgot fun link h => absurd h (hnone link)) (hwhy.snoc m) ?_ hrest
    · obtain ⟨task, htask, hattempt⟩ := hs.attempt?_of_step hstep hbegun.2 htask' hattempt'
      exact hlone number' task htask hattempt
    · rw [told_append, hsilent, List.append_nil, hsaid]
  | done htask => exact .done (hkept _ htask).1

/-- **A call that the connect sends** moves from the calls to come to the calls made. -/
theorem send (h : Ledger session number past m.before) (hs : m.before.Sound)
    (hstep : m.before.step m.action = some (m.after, m.seen)) (haction : m.action = .send number) :
    Ledger session number (past ++ [m]) m.after := by
  have hnone (link : Link) : ¬m.Brings number link := by
    rintro ⟨slot, hreply⟩
    simp [haction] at hreply
  have hsent (task : Task) (htask : m.before.tasks[number]? = some task) :
      ∃ ticket queued, task.queued = ticket :: queued ∧
        m.after.tasks[number]? =
          some { task with queued, sent := task.sent ++ [ticket] } ∧
        made (past ++ [m]) number = made past number ++ [ticket.call] ∧
        told [m] session = [] := by
    rcases step_task hstep htask with ⟨-, -, hsend, -⟩ | ⟨-, ticket, queued, hqueued, htask', -,
      hseen⟩ | ⟨slot, reply, turn, hreply, -⟩
    · exact absurd haction hsend
    · refine ⟨ticket, queued, hqueued, htask', by simp [made_snoc, hseen, callsIn, Event.call?],
        List.eq_nil_iff_forall_not_mem.mpr fun callback hmem => ?_⟩
      obtain ⟨m', hm', -, hcallback⟩ := mem_told.mp hmem
      obtain rfl := List.mem_singleton.mp hm'
      simp [Moment.callbacks, hseen] at hcallback
    · simp [haction] at hreply
  cases h with
  | @hopes task stage htask hwork hopen hgot hwhy hcalls hsaid =>
    obtain ⟨ticket, queued, hqueued, htask', hmade, htold⟩ := hsent task htask
    refine .hopes htask' hwork hopen (brings_snoc hgot fun link h => absurd h (hnone link))
      (fun e he => (hwhy e he).snoc m) ?_ (by rwa [told_append, htold, List.append_nil])
    have hfits := hs.fits number task htask
    simp only [Task.Fits, hwork, Stage.Awaits, hopen, if_true] at hfits
    have hticket := hfits.2.2.2 ticket (by simp [Task.unanswered, hqueued])
    rw [hmade]
    exact List.forall_mem_append.mpr ⟨hcalls, by simpa using hticket⟩
  | @closes task stage link calls htask hwork hclosed hgot hwhy hcalls hrest hsaid =>
    -- The calls made and to come are together what they were.
    obtain ⟨ticket, queued, hqueued, htask', hmade, htold⟩ := hsent task htask
    refine .closes htask' hwork hclosed (brings_snoc hgot fun link h => absurd h (hnone link))
      (hwhy.snoc m) ?_ hrest (by rwa [told_append, htold, List.append_nil])
    rw [← hcalls, hmade, hqueued]
    simp
  | failed htask =>
    obtain ⟨ticket, queued, hqueued, -⟩ := hsent _ htask
    simp [Task.finished] at hqueued
  | done htask =>
    obtain ⟨ticket, queued, hqueued, -⟩ := hsent _ htask
    simp [Task.finished] at hqueued

/-- Once the connect has ended, nobody is its connect cycle. -/
theorem lone_of_finished {task : Task} {outcome : Outcome} (hs : m.before.Sound)
    (hstep : m.before.step m.action = some (m.after, m.seen))
    (htask : m.before.tasks[number]? = some task) (hattempt : task.attempt? = some session)
    (htask' : m.after.tasks[number]? = some (Task.finished outcome)) (number' : Nat)
    (other : Task) (hother : m.after.tasks[number']? = some other) :
    other.attempt? ≠ some session := by
  intro hattempt'
  obtain ⟨stage, hwork⟩ := Task.attempt?_eq_some.mp hattempt
  have hfits := hs.fits number task htask
  simp only [Task.Fits, hwork] at hfits
  obtain ⟨before, hbefore, hbeforeAttempt⟩ :=
    hs.attempt?_of_step hstep hfits.2.1 hother hattempt'
  obtain rfl := hs.alone _ _ _ _ session hbefore htask hbeforeAttempt hattempt
  obtain rfl : other = Task.finished outcome := Option.some.inj (hother.symm.trans htask')
  exact absurd hattempt' (by simp [Task.finished, Task.attempt?])

/-- **A turn of the cycle**, read into the ledger. -/
theorem of_cycle {task : Task} {turn : Turn} {got : Option Link} (hs : m.before.Sound)
    (hstep : m.before.step m.action = some (m.after, m.seen))
    (htask : m.before.tasks[number]? = some task) (hattempt : task.attempt? = some session)
    (hturn : Cycle session m.before.central got (Excused (past ++ [m]) number) turn)
    (htask' : m.after.tasks[number]? = some turn.task)
    (hcentral : m.after.central = turn.central)
    (htold : told (past ++ [m]) session = told past session ++ turn.callbacks)
    (hmade : made (past ++ [m]) number = made past number)
    (hgot : ∀ m' ∈ past ++ [m], ∀ link, m'.Brings number link → got = some link)
    (hcalls : Unclosed (made past number)) (hsaid : Unwarned (told past session)) :
    Ledger session number (past ++ [m]) m.after := by
  have hgiven {link : Link} (hlink : got = some link) :
      ∀ m' ∈ past ++ [m], ∀ link', m'.Brings number link' → link' = link :=
    fun m' hmem link' hbrings =>
      Option.some.inj ((hgot m' hmem link' hbrings).symm.trans hlink)
  cases hturn with
  | goesOn stage hwork hopen hlink hwhy _ _ hquiet _ =>
    refine .hopes htask' hwork hopen
      (fun m' hmem link hbrings => hlink.trans (hgot m' hmem link hbrings)) hwhy
      (hmade ▸ hcalls) ?_
    rw [htold]
    exact hsaid.append hquiet
  | refuses hlink hdead =>
    refine .closes htask' rfl rfl (hgiven hlink) (fun h => absurd h (by simp [Stage.failure?]))
      ?_ hcalls ?_
    · simp [hmade, Task.asking]
    · rwa [htold, List.append_nil]
  | completes => exact .done htask'
  | givesUp hlink hwhy hdead hquiet hchange =>
    refine .closes htask' rfl rfl (hgiven hlink) hwhy ?_ hcalls ?_
    · simp [hmade, Task.asking]
    · rw [htold]
      exact hsaid.append hquiet
  | reports hlink hwhy hdead hquiet hchange =>
    refine .failed htask' (lone_of_finished hs hstep htask hattempt htask') (hcentral ▸ hdead)
      (fun m' hmem link hbrings => ?_) hwhy ?_ (hsaid.append hquiet)
    · exact absurd ((hgot m' hmem link hbrings).symm.trans hlink) (by simp)
    · rw [htold, List.append_assoc]
      rfl

/-- A reply to a task is a turn of it, and a turn makes no call. -/
theorem exists_turn_of_reply {task : Task} {slot : Nat} {reply : Reply}
    (hstep : m.before.step m.action = some (m.after, m.seen))
    (haction : m.action = .reply number slot reply)
    (htask : m.before.tasks[number]? = some task) :
    ∃ turn, task.answer m.before.central slot reply = some turn ∧
      m.after.tasks[number]? = some turn.task ∧ m.after.central = turn.central ∧
      made (past ++ [m]) number = made past number ∧
      (task.attempt? = some session →
        told (past ++ [m]) session = told past session ++ turn.callbacks) := by
  rcases step_task hstep htask with ⟨-, -, -, hreply⟩ | ⟨hsend, -⟩ |
    ⟨slot', reply', turn, haction', hturn, htask', hcentral, hcallbacks, hcalls⟩
  · exact absurd haction (hreply slot reply)
  · simp [haction] at hsend
  · obtain ⟨-, rfl, rfl⟩ := Action.reply.inj (haction'.symm.trans haction)
    refine ⟨turn, hturn, htask', hcentral, by rw [made_snoc, hcalls, List.append_nil],
      fun hattempt => ?_⟩
    have hcycle : m.cycle? = some session := by
      simp [Moment.cycle?, haction, cycle?, htask, Task.cycle?_of_attempt? hattempt]
    rw [told_snoc, if_pos hcycle, Moment.callbacks, hcallbacks]

/-- The link that a reply brings is the reply's. -/
theorem link?_of_brings {slot : Nat} {reply : Reply} {link : Link}
    (haction : m.action = .reply number slot reply) (hbrings : m.Brings number link) :
    reply.link? = some link := by
  obtain ⟨slot', haction'⟩ := hbrings
  rw [(Action.reply.inj (haction.symm.trans haction')).2.2]
  rfl

/-- A reply to a connect that still hopes. -/
theorem reply_of_open {task : Task} {stage : Stage} {slot : Nat} {reply : Reply}
    (hs : m.before.Sound) (hstep : m.before.step m.action = some (m.after, m.seen))
    (haction : m.action = .reply number slot reply)
    (htask : m.before.tasks[number]? = some task)
    (hwork : task.work = .attempt session stage) (hopen : stage.isOpen)
    (hgot : ∀ m ∈ past, ∀ link, m.Brings number link → stage.link? = some link)
    (hwhy : ∀ e, stage.failure? = some e → Excused past number e)
    (hcalls : Unclosed (made past number)) (hsaid : Unwarned (told past session)) :
    Ledger session number (past ++ [m]) m.after := by
  have hattempt := Task.attempt?_eq_some.mpr ⟨stage, hwork⟩
  obtain ⟨turn, hturn, htask', hcentral, hmade, htold⟩ :=
    exists_turn_of_reply hstep haction htask
  have hcycle : Cycle session m.before.central (reply.link?.or stage.link?)
      (Excused (past ++ [m]) number) turn := by
    refine Task.cycle_of_answer hs.coherent (hs.fits number task htask) hwork hopen hturn
      (fun e hne heq => absurd heq hne) (fun e herror heq => ?_)
      fun e hfailure => (hwhy e hfailure).snoc m
    exact ⟨m, by simp, slot, reply, haction, heq ▸ herror⟩
  refine of_cycle hs hstep htask hattempt hcycle htask' hcentral (htold hattempt) hmade
    (List.forall_mem_append.mpr ⟨?_, ?_⟩) hcalls hsaid
  · -- A link that came before is the stage's, and then no other comes now.
    intro m' hmem link' hbrings
    have hstage := hgot m' hmem link' hbrings
    cases hlink : reply.link? with
    | none => rw [Option.none_or, hstage]
    | some link =>
      obtain rfl := Task.eq_searching_of_answer hwork hturn hlink
      exact absurd hstage (by simp [Stage.link?])
  · intro m' hmem link hbrings
    obtain rfl := List.mem_singleton.mp hmem
    rw [link?_of_brings haction hbrings, Option.some_or]

/-- The reply to the last call of a connect. -/
theorem reply_of_closed {task : Task} {stage : Stage} {slot : Nat} {reply : Reply} {link : Link}
    {calls : List Call} (hs : m.before.Sound)
    (hstep : m.before.step m.action = some (m.after, m.seen))
    (haction : m.action = .reply number slot reply)
    (htask : m.before.tasks[number]? = some task)
    (hwork : task.work = .attempt session stage) (hclosed : stage.isOpen = false)
    (hgot : ∀ m ∈ past, ∀ link', m.Brings number link' → link' = link)
    (hwhy : Excused past number (stage.failure?.getD .notConnected))
    (hcalls : made past number ++ task.queued.map Ticket.call = calls ++ [.disconnect link])
    (hrest : Unclosed calls) (hsaid : Unwarned (told past session)) :
    Ledger session number (past ++ [m]) m.after := by
  have hattempt := Task.attempt?_eq_some.mpr ⟨stage, hwork⟩
  obtain ⟨turn, hturn, htask', hcentral, hmade, htold⟩ :=
    exists_turn_of_reply hstep haction htask
  obtain ⟨hqueued, hdead, rfl⟩ :=
    Task.report_of_answer (hs.fits number task htask) hwork hclosed hturn
  -- All its calls are made by now, the closing of the link last.
  rw [hqueued, List.map_nil, List.append_nil] at hcalls
  refine .failed htask' (lone_of_finished hs hstep htask hattempt htask') (hcentral ▸ hdead)
    (List.forall_mem_append.mpr ⟨?_, ?_⟩) (hwhy.snoc m) (htold hattempt) hsaid
  · intro m' hmem link' hbrings
    obtain rfl := hgot m' hmem link' hbrings
    exact ⟨calls, hmade.trans hcalls, hrest⟩
  · intro m' hmem link' hbrings
    obtain rfl := List.mem_singleton.mp hmem
    obtain rfl := Task.eq_searching_of_answer hwork hturn (link?_of_brings haction hbrings)
    exact absurd hclosed (by simp [Stage.isOpen])

/-- **A reply to the connect** moves it on. -/
theorem reply {slot : Nat} {reply : Reply} (h : Ledger session number past m.before)
    (hs : m.before.Sound) (hstep : m.before.step m.action = some (m.after, m.seen))
    (haction : m.action = .reply number slot reply) :
    Ledger session number (past ++ [m]) m.after := by
  have hnone (outcome : Outcome)
      (htask : m.before.tasks[number]? = some (Task.finished outcome)) : False := by
    obtain ⟨turn, hturn, -⟩ := @exists_turn_of_reply session number past m _ slot reply
      hstep haction htask
    simp [Task.answer, Task.finished] at hturn
  cases h with
  | hopes htask hwork hopen hgot hwhy hcalls hsaid =>
    exact reply_of_open hs hstep haction htask hwork hopen hgot hwhy hcalls hsaid
  | closes htask hwork hclosed hgot hwhy hcalls hrest hsaid =>
    exact reply_of_closed hs hstep haction htask hwork hclosed hgot hwhy hcalls hrest hsaid
  | failed htask => exact (hnone _ htask).elim
  | done htask => exact (hnone _ htask).elim

/-- **Every step keeps the ledger.** -/
theorem next (h : Ledger session number past m.before) (hs : m.before.Sound)
    (hstep : m.before.step m.action = some (m.after, m.seen))
    (hbegun : 0 < session ∧ session ≤ m.before.central.sessions) :
    Ledger session number (past ++ [m]) m.after := by
  by_cases hsend : m.action = .send number
  · exact h.send hs hstep hsend
  by_cases hreply : ∃ slot reply, m.action = .reply number slot reply
  · obtain ⟨slot, reply, haction⟩ := hreply
    exact h.reply hs hstep haction
  · exact h.idle hs hstep hbegun hsend fun slot reply haction => hreply ⟨slot, reply, haction⟩

end Ledger

namespace System

/-- **The ledger of a connect**, from its beginning on. -/
theorem ledger_of_leads {s t : System} {later : List Moment} {number session : Nat} {task : Task}
    (hs : s.Sound) (htask : s.tasks[number]? = some task)
    (hwork : task.work = .attempt session .checking) (h : s.Leads later t) :
    Ledger session number later t := by
  have hfits := hs.fits number task htask
  simp only [Task.Fits, hwork] at hfits
  refine h.induction (motive := Ledger session number)
    (.hopes htask hwork rfl (by simp) (by simp [Stage.failure?])
      (by simp [made, callsIn, Unclosed]) (by simp [told, Unwarned]))
    fun past m hpast hstep ih => ?_
  obtain ⟨hs', hle⟩ := hs.sessions_le_of_leads hpast
  exact ih.next hs' hstep ⟨hfits.1, Nat.le_trans hfits.2.1 hle⟩

/-- A task that has ended makes no call any more. -/
theorem finished_of_leads {s t : System} {later : List Moment} {number : Nat} {outcome : Outcome}
    (htask : s.tasks[number]? = some (Task.finished outcome)) (h : s.Leads later t) :
    t.tasks[number]? = some (Task.finished outcome) ∧ made later number = [] := by
  refine h.induction (motive := fun later t =>
    t.tasks[number]? = some (Task.finished outcome) ∧ made later number = [])
    ⟨htask, rfl⟩ fun past m _ hstep ih => ?_
  obtain ⟨htask, hmade⟩ := ih
  rcases step_task hstep htask with ⟨htask', hcalls, -⟩ | ⟨-, ticket, queued, hqueued, -⟩ |
    ⟨slot, reply, turn, -, hturn, -⟩
  · exact ⟨htask', by rw [made_snoc, hmade, hcalls, List.append_nil]⟩
  · simp [Task.finished] at hqueued
  · simp [Task.answer, Task.finished] at hturn

/-! ### Failed connects -/

/-- **What is left of a connect that has failed**: nothing. -/
structure Abandoned (s : System) (ms later : List Moment) (session number : Nat) (e : Error) :
    Prop where
  /-- Its session is over. -/
  ended : s.central.HasEnded session
  /-- The connection is as new, unless a later session has begun. -/
  renewed : s.central.sessions = session → s.central.connection = {}
  /-- Its pump does not run. -/
  still : s.hasPump session = false
  /-- Every link that it was given has been closed, with the last of its calls. -/
  released : ∀ m ∈ later, ∀ link, m.Brings number link →
    ∃ calls, made later number = calls ++ [.disconnect link] ∧ Unclosed calls
  /-- The error is the one failure that its session has told, and the last thing it told. -/
  warned : ∃ callbacks, told ms session = callbacks ++ [e.warning] ∧ Unwarned callbacks

theorem eq_finished_of_outcome? {task : Task} {outcome : Outcome}
    (h : task.outcome? = some outcome) : task.work = .finished outcome := by
  cases hwork : task.work <;> simp_all [Task.outcome?]

/-- A session that is over is not the last one, or it has left nothing. -/
theorem Sound.renewed_of_hasEnded {s : System} {session : Nat} (hs : s.Sound)
    (hended : s.central.HasEnded session) :
    (s.central.sessions = session → s.central.connection = {}) ∧ s.hasPump session = false := by
  constructor
  · intro hlast
    cases hlive : s.central.connection.session with
    | none => exact hs.coherent.idle hlive
    | some session' =>
      obtain rfl := (hs.coherent.newest session' hlive).2
      exact absurd (hlast ▸ hlive) hended.2.2
  · exact Bool.eq_false_iff.mpr fun hpump => hended.2.2 (hs.live_of_hasPump hpump)

/-- A connect that finds a connection. -/
theorem step_connect_of_busy {s t : System} {now : List (Actor × Event)}
    (h : s.step (.start .connect) = some (t, now))
    (hphase : s.central.connection.phase ≠ .disconnected) :
    now = [] ∧ t = ⟨s.central, s.tasks ++ [Task.finished (.error .busy)]⟩ := by
  simp only [step, afterTurn, Task.start, Central.openSession, if_neg hphase] at h
  split at h
  · simp only [Option.some.injEq, Prod.mk.injEq] at h
    obtain ⟨rfl, rfl⟩ := h
    simp
  · exact absurd h (by simp)

/-- A connect that finds none asks whether there is Bluetooth, for a session of its own. -/
theorem step_connect_of_idle {s t : System} {now : List (Actor × Event)}
    (h : s.step (.start .connect) = some (t, now))
    (hphase : s.central.connection.phase = .disconnected) :
    callbacksIn now = [] ∧ t.central.sessions = s.central.sessions + 1 ∧
      t.tasks[s.tasks.length]? =
        some (Task.asking (.attempt (s.central.sessions + 1) .checking) .available) := by
  obtain ⟨rfl, hcallbacks, -⟩ := step_start h
  rw [hcallbacks]
  simp [Task.start, Central.openSession, hphase]

/-- **A failed connect leaves nothing behind.** Either it was refused, because a connection
was already there or on its way: then it fails with that reason and nothing has happened at
all. Or it has begun a session: then nothing of it is left, and if it fails with the words of
a refusal, these were the platform's. -/
theorem failed_of_leads {profile : Profile} {past later : List Moment} {m : Moment}
    {s : System} {number : Nat} {task : Task} {e : Error}
    (h : (initial profile).Leads (past ++ m :: later) s)
    (hbegins : m.Begins number .connect) (htask : s.tasks[number]? = some task)
    (houtcome : task.outcome? = some (.error e)) :
    (m.before.central.connection.phase ≠ .disconnected ∧ e = .busy ∧ m.seen = [] ∧
      m.after = ⟨m.before.central, m.before.tasks ++ [Task.finished (.error .busy)]⟩ ∧
      made later number = []) ∨
    (m.before.central.connection.phase = .disconnected ∧ Excused later number e ∧
      s.Abandoned (past ++ m :: later) later (m.before.central.sessions + 1) number e) := by
  obtain ⟨hpast, hstep, hlater⟩ := h.split
  obtain ⟨haction, rfl⟩ := hbegins
  have hs := sound_of_leads hpast
  have hs' := (hs.step hstep).1
  have hwork := eq_finished_of_outcome? houtcome
  rw [haction] at hstep
  by_cases hphase : m.before.central.connection.phase = .disconnected
  · refine .inr ⟨hphase, ?_⟩
    obtain ⟨hcallbacks, hsessions, htask₀⟩ := step_connect_of_idle hstep hphase
    -- The session has told nothing before it began, and nothing while it did.
    have htold : told (past ++ m :: later) (m.before.central.sessions + 1) =
        told later (m.before.central.sessions + 1) := by
      have hunborn := (told_of_leads hpast (m.before.central.sessions + 1)).unborn
        (.inr (Nat.lt_succ_self _))
      rw [told_append, told_cons, hunborn, Moment.callbacks, hcallbacks, ite_self]
      rfl
    cases ledger_of_leads hs' htask₀ rfl hlater with
    | hopes htask' hwork' =>
      obtain rfl := Option.some.inj (htask'.symm.trans htask)
      exact absurd (hwork'.symm.trans hwork) (by simp)
    | closes htask' hwork' =>
      obtain rfl := Option.some.inj (htask'.symm.trans htask)
      exact absurd (hwork'.symm.trans hwork) (by simp)
    | @failed e' callbacks htask' hlone hdead hgot hwhy hsaid hrest =>
      obtain rfl := Option.some.inj (htask'.symm.trans htask)
      obtain rfl : e' = e := by simpa [Task.finished] using hwork
      have hended : s.central.HasEnded (m.before.central.sessions + 1) :=
        ⟨Nat.succ_pos _, hsessions ▸ (hs'.sessions_le_of_leads hlater).2, hdead⟩
      obtain ⟨hrenewed, hstill⟩ := (sound_of_leads h).renewed_of_hasEnded hended
      exact ⟨hwhy, hended, hrenewed, hstill, hgot, callbacks, htold.trans hsaid, hrest⟩
    | done htask' =>
      obtain rfl := Option.some.inj (htask'.symm.trans htask)
      exact absurd hwork (by simp [Task.finished])
  · obtain ⟨hseen, hafter⟩ := step_connect_of_busy hstep hphase
    have htask₀ : m.after.tasks[m.before.tasks.length]? =
        some (Task.finished (.error .busy)) := by simp [hafter]
    obtain ⟨htask', hmade⟩ := finished_of_leads htask₀ hlater
    obtain rfl := Option.some.inj (htask'.symm.trans htask)
    obtain rfl : Error.busy = e := by simpa [Task.finished] using hwork
    exact .inl ⟨hphase, rfl, hseen, hafter, hmade⟩

/-- The alarm clock is found but cannot be connected to. -/
theorem failed_alarm_connect :
    ∃ (m : Moment) (later : List Moment) (s : System),
      (initial Profile.alarm).Leads ([] ++ m :: later) s ∧ m.Begins 0 .connect ∧
      s.tasks[0]? = some (Task.finished (.error (.transport .connecting .notConnected))) ∧
      s.Abandoned ([] ++ m :: later) later 1 0 (.transport .connecting .notConnected) := by
  obtain ⟨s, seen, hrun, htask⟩ : ∃ s seen, (initial Profile.alarm).run
      [.start .connect, .send 0, .reply 0 0 (.availability true), .send 0,
        .reply 0 0 (.device (.ok ⟨0, none⟩)), .send 0,
        .reply 0 0 (.done (.error (.transport .connecting .notConnected))), .send 0,
        .reply 0 0 (.done (.ok ()))] = some (s, seen) ∧
      s.tasks[0]? = some (Task.finished (.error (.transport .connecting .notConnected))) :=
    ⟨_, _, rfl, rfl⟩
  obtain ⟨ms, h, hactions, -⟩ := run_iff_leads.mp hrun
  cases ms with
  | nil => simp at hactions
  | cons m later =>
    obtain ⟨haction, -⟩ := List.cons.inj hactions
    have hbefore : m.before = initial Profile.alarm := h.1
    have hbegins : m.Begins 0 .connect := ⟨haction, by simp [hbefore, initial]⟩
    have h' : (initial Profile.alarm).Leads ([] ++ m :: later) s := h
    rcases failed_of_leads h' hbegins htask rfl with ⟨-, hbusy, -⟩ | ⟨-, -, habandoned⟩
    · exact absurd hbusy (by simp)
    · rw [hbefore] at habandoned
      exact ⟨m, later, s, h', hbegins, htask, habandoned⟩

end System

end CarrierLink
