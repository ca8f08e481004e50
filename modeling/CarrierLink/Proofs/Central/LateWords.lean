import CarrierLink.Proofs.Central.FailedConnect
import CarrierLink.Proofs.Central.Isolation
import CarrierLink.Proofs.View

/-!
# What an overtaken connect still says

A connect cycle whose session is closed under it goes on until its next calls have been
answered, and by then the next session may have begun. Every update of the central asks
whether its session is the live one, and so does every callback that goes with an update. Two
statuses of a cycle go with no update: the word that it searches for a device, which it says
when it has learnt that there is Bluetooth, and the word about its failure. These two it says
whether its session is live or not.

So the observer may hear of a session after the next one has begun, and this module says
exactly what (`CarrierLink.System.late_words_of_leads`): the first word at most once, the
second at most once and after it, and nothing else. It is enough to replace the status of the
connection that has followed (`CarrierLink.System.status_replaced_after_overtaking`).

`CarrierLink.Attempt.Late` lists what a turn of an overtaken cycle can do;
`CarrierLink.Overtaken` is the invariant of a history after the session is over.
-/

namespace CarrierLink

/-- The word with which a connect goes on to search. -/
def Callback.searching : Callback := .status "Searching for device…" .muted

/-- The connect cycle of a session learns that there is Bluetooth. -/
def Moment.Searches (m : Moment) (session : Nat) : Prop :=
  ∃ (number slot : Nat) (task : Task), m.action = .reply number slot (.availability true) ∧
    m.before.tasks[number]? = some task ∧ task.attempt? = some session

/-- The connect cycle of a session ends with an error. -/
def Moment.Fails (m : Moment) (session : Nat) (e : Error) : Prop :=
  ∃ (number : Nat) (task : Task), m.before.tasks[number]? = some task ∧
    task.attempt? = some session ∧ m.after.tasks[number]? = some (Task.finished (.error e))

/-! ### The turns of an overtaken cycle -/

namespace Attempt

/-- **What a turn of a cycle does when its session is over**: it leaves the central alone, and
goes on to search, goes on in silence, or fails. -/
inductive Late (session : Nat) (c : Central) (stage : Stage) (reply : Reply) : Turn → Prop
  | searches {task : Task} (hstage : stage = .checking) (hreply : reply = .availability true)
      (hwork : task.work = .attempt session .searching) :
      Late session c stage reply ⟨c, [.searching], task⟩
  | waits {task : Task} {stage' : Stage} (hreply : reply ≠ .availability true)
      (hwork : task.work = .attempt session stage') (hstage : stage' ≠ .checking) :
      Late session c stage reply ⟨c, [], task⟩
  | fails {e : Error} (hreply : reply ≠ .availability true) :
      Late session c stage reply ⟨c, [e.warning], Task.finished (.error e)⟩

variable {session slot : Nat} {c : Central} {stage : Stage} {reply : Reply} {turn : Turn}

theorem late_fail (hdead : c.connection.session ≠ some session)
    (hreply : reply ≠ .availability true) (got : Option Link) (e : Error) :
    Late session c stage reply (fail c session got e) := by
  rw [fail_eq, Central.abandon_of_dead hdead, Option.none_or]
  cases got with
  | some link => exact .waits hreply rfl (by simp)
  | none => exact .fails hreply

theorem late_complete (hdead : c.connection.session ≠ some session)
    (hreply : reply ≠ .availability true) (link : Link) :
    Late session c stage reply (complete c session link) := by
  rw [complete, Central.enter, if_neg (mt Central.isLive_iff.mp hdead)]
  exact late_fail hdead hreply _ _

theorem late_startReading (hdead : c.connection.session ≠ some session)
    (hreply : reply ≠ .availability true) (link : Link)
    (telemetry : List (ChannelSpec × Handle)) :
    Late session c stage reply (startReading c session link telemetry) := by
  rw [startReading]
  split
  · exact late_complete hdead hreply link
  · exact .waits hreply rfl (by simp)

theorem late_proceedSubscribing (hdead : c.connection.session ≠ some session)
    (hreply : reply ≠ .availability true) (link : Link)
    (telemetry : List (ChannelSpec × Handle)) (failed : Option (Nat × Error)) (rest : Task) :
    Late session c stage reply (proceedSubscribing c session link telemetry failed rest) := by
  have hwaits : Late session c stage reply
      ⟨c, [], { rest with work := .attempt session (.subscribing link telemetry failed) }⟩ :=
    .waits hreply rfl (by simp)
  simp only [proceedSubscribing]
  split
  · split
    · exact hwaits
    · exact late_fail hdead hreply _ _
  · split
    · exact late_startReading hdead hreply link telemetry
    · exact hwaits

/-- **Every turn of an overtaken cycle.** -/
theorem late_of_answer {rest : Task} (h : answer c session stage rest slot reply = some turn)
    (hrest : rest.work = .attempt session stage)
    (hdead : c.connection.session ≠ some session) : Late session c stage reply turn := by
  have hlive : ¬c.isLive session = true := mt Central.isLive_iff.mp hdead
  simp only [answer] at h
  -- Wherever the cycle asks for its session it is told that it is over.
  split at h
  next available =>
    cases available with
    | true =>
      obtain rfl := Option.some.inj h
      exact .searches rfl rfl rfl
    | false =>
      obtain rfl := Option.some.inj h
      exact late_fail hdead (by simp) _ _
  next e =>
    obtain rfl := Option.some.inj h
    exact late_fail hdead (by simp) _ _
  next link =>
    rw [Central.takeLink, if_neg hlive] at h
    obtain rfl := Option.some.inj h
    exact .waits (by simp) rfl (by simp)
  next =>
    obtain rfl := Option.some.inj h
    exact late_fail hdead (by simp) _ _
  next =>
    obtain rfl := Option.some.inj h
    exact late_fail hdead (by simp) _ _
  next link =>
    obtain rfl := Option.some.inj h
    exact .waits (by simp) rfl (by simp)
  next =>
    obtain rfl := Option.some.inj h
    exact late_fail hdead (by simp) _ _
  next link =>
    obtain rfl := Option.some.inj h
    rw [startDiscovering, Central.startPump, if_neg hlive, Central.enter, if_neg hlive]
    exact late_fail hdead (by simp) _ _
  next =>
    obtain rfl := Option.some.inj h
    exact late_fail hdead (by simp) _ _
  next link services =>
    obtain rfl := Option.some.inj h
    rw [resolve]
    split
    · exact late_fail hdead (by simp) _ _
    · rw [Central.takeHandles, if_neg hlive]
      exact late_fail hdead (by simp) _ _
  next link telemetry failed outcome =>
    obtain rfl := Option.some.inj h
    exact late_proceedSubscribing hdead (by simp) _ _ _ _
  next link telemetry data =>
    obtain ⟨⟨spec, handle⟩, -, h⟩ := Option.bind_eq_some_iff.mp h
    have hnothing : receive c session spec data = (c, []) := by
      simp only [receive]
      split
      · split
        · exact Central.deliver_of_dead hdead _ _
        · rfl
      · rfl
    obtain rfl := Option.some.inj h
    rw [hnothing]
    split
    · exact late_complete hdead (by simp) link
    · exact .waits (by simp) hrest (by simp)
  next =>
    obtain rfl := Option.some.inj h
    exact .fails (by simp)
  next => exact absurd h (by simp)

end Attempt

/-! ### The words of a session that is over -/

namespace System

variable {session number slot : Nat} {m : Moment} {reply : Reply} {task : Task}

/-- What a connect cycle does is done for its session. -/
theorem cycle?_of_attempt? {s : System} {action : Action}
    (h : s.attempt? action = some session) : s.cycle? action = some session := by
  cases action with
  | start operation => cases operation <;> simp_all [attempt?]
  | send number =>
    obtain ⟨task, htask, hattempt⟩ := Option.bind_eq_some_iff.mp h
    simp [cycle?, htask, Task.cycle?_of_attempt? hattempt]
  | reply number slot reply =>
    obtain ⟨task, htask, hattempt⟩ := Option.bind_eq_some_iff.mp h
    simp [cycle?, htask, Task.cycle?_of_attempt? hattempt]
  | _ => exact absurd h (by simp [attempt?])

/-- **A reply to an overtaken cycle** is a late turn of it. -/
theorem late_of_reply
    (hstep : m.before.step m.action = some (m.after, m.seen))
    (hdead : m.before.central.connection.session ≠ some session)
    (haction : m.action = .reply number slot reply)
    (htask : m.before.tasks[number]? = some task) (hattempt : task.attempt? = some session) :
    ∃ stage turn, task.work = .attempt session stage ∧
      Attempt.Late session m.before.central stage reply turn ∧
      m.after = ⟨turn.central, m.before.tasks.set number turn.task⟩ ∧
      told [m] session = turn.callbacks := by
  have hcycle : m.cycle? = some session :=
    cycle?_of_attempt? (by simp [attempt?, haction, htask, hattempt])
  rw [haction] at hstep
  obtain ⟨task', turn, htask', hturn, hafter, hcallbacks, -⟩ := step_reply hstep
  obtain rfl : task' = task := Option.some.inj (htask'.symm.trans htask)
  obtain ⟨stage, hwork⟩ := Task.attempt?_eq_some.mp hattempt
  obtain ⟨-, rest, hrest, -, hanswer⟩ := Task.answer_of_attempt hwork hturn
  refine ⟨stage, turn, hwork, Attempt.late_of_answer hanswer hrest hdead, hafter, ?_⟩
  simp [told, hcycle, Moment.callbacks, hcallbacks]

/-- Nothing is heard of a call that is sent. -/
theorem told_of_send (hstep : m.before.step m.action = some (m.after, m.seen))
    (haction : m.action = .send number) (session : Nat) : told [m] session = [] := by
  rw [haction] at hstep
  obtain ⟨_, _, _, -, -, -, hseen⟩ := step_send hstep
  simp [told, Moment.callbacks, hseen]

/-- **Whatever else is done after a session is over**, it has nothing to say, and its cycle
does not move. -/
theorem Sound.quiet_of_unanswered (hs : m.before.Sound)
    (hstep : m.before.step m.action = some (m.after, m.seen))
    (hended : m.before.central.HasEnded session)
    (hreply : ∀ (number slot : Nat) (reply : Reply) (task : Task),
      m.action = .reply number slot reply → m.before.tasks[number]? = some task →
      task.attempt? ≠ some session) :
    told [m] session = [] ∧ ¬m.Searches session ∧ (∀ e, ¬m.Fails session e) ∧
      ∀ (number : Nat) (task' : Task), m.after.tasks[number]? = some task' →
        task'.attempt? = some session →
        ∃ task : Task, m.before.tasks[number]? = some task ∧ task.work = task'.work := by
  -- Unless it is answered, the task of the cycle is what it was, but for calls it has sent.
  have hkept (number : Nat) (task : Task) (htask : m.before.tasks[number]? = some task)
      (hattempt : task.attempt? = some session) :
      ∃ task', m.after.tasks[number]? = some task' ∧ task.work = task'.work := by
    rcases step_task hstep htask with ⟨htask', -⟩ | ⟨-, ticket, queued, -, htask', -⟩ |
      ⟨slot, reply, turn, haction, -⟩
    · exact ⟨task, htask', rfl⟩
    · exact ⟨_, htask', rfl⟩
    · exact absurd hattempt (hreply number slot reply task haction htask)
  refine ⟨?_, ?_, ?_, fun number task' htask' hattempt' => ?_⟩
  · by_cases hattempt : m.before.attempt? m.action = some session
    · cases haction : m.action with
      | send number => exact told_of_send hstep haction session
      | reply number slot reply =>
        rw [haction] at hattempt
        obtain ⟨task, htask, hattempt⟩ := Option.bind_eq_some_iff.mp hattempt
        exact absurd hattempt (hreply number slot reply task haction htask)
      | start operation =>
        rw [haction] at hattempt
        cases operation with
        | connect =>
          simp only [attempt?, cycle?] at hattempt
          split at hattempt
          · have hnext := Option.some.inj hattempt
            have hbegun := hended.2.1
            omega
          · exact absurd hattempt (by simp)
        | _ => exact absurd hattempt (by simp [attempt?])
      | _ => exact absurd (haction ▸ hattempt) (by simp [attempt?])
    · exact hs.silent_of_other hstep hattempt hended
  · rintro ⟨number, slot, task, haction, htask, hattempt⟩
    exact hreply number slot _ task haction htask hattempt
  · rintro e ⟨number, task, htask, hattempt, hfinished⟩
    obtain ⟨task', htask', hwork⟩ := hkept number task htask hattempt
    obtain rfl := Option.some.inj (htask'.symm.trans hfinished)
    simp [Task.attempt?, hwork, Task.finished] at hattempt
  · obtain ⟨task, htask, hattempt⟩ :=
      hs.attempt?_of_step hstep hended.2.1 htask' hattempt'
    obtain ⟨task'', htask'', hwork⟩ := hkept number task htask hattempt
    obtain rfl := Option.some.inj (htask''.symm.trans htask')
    exact ⟨task, htask, hwork⟩

/-- **Who speaks for a session that is over** is its connect cycle: it goes on to search, or it
fails. -/
theorem Sound.searches_or_fails (hs : m.before.Sound)
    (hstep : m.before.step m.action = some (m.after, m.seen))
    (hended : m.before.central.HasEnded session) (hsaid : told [m] session ≠ []) :
    m.Searches session ∧ told [m] session = [.searching] ∨
      ∃ e, m.Fails session e ∧ told [m] session = [e.warning] := by
  by_cases hreply : ∃ (number slot : Nat) (reply : Reply) (task : Task),
      m.action = .reply number slot reply ∧ m.before.tasks[number]? = some task ∧
        task.attempt? = some session
  · obtain ⟨number, slot, reply, task, haction, htask, hattempt⟩ := hreply
    obtain ⟨stage, turn, -, hlate, hafter, htold⟩ :=
      late_of_reply hstep hended.2.2 haction htask hattempt
    have hlt : number < m.before.tasks.length := (List.getElem?_eq_some_iff.mp htask).1
    cases hlate with
    | searches _ hreply =>
      exact .inl ⟨⟨number, slot, task, hreply ▸ haction, htask, hattempt⟩, htold⟩
    | waits => exact absurd htold hsaid
    | fails => exact .inr ⟨_, ⟨number, task, htask, hattempt, by simp [hafter, hlt]⟩, htold⟩
  · exact absurd (hs.quiet_of_unanswered hstep hended
      fun number slot reply task haction htask hattempt =>
        hreply ⟨number, slot, reply, task, haction, htask, hattempt⟩).1 hsaid

end System

/-- **How a session stands that is over** after some moments: whether its cycle has gone on to
search and with which error it has failed, and with that all that it has told. -/
structure Overtaken (session : Nat) (ms : List Moment) (s : System) (found : Bool)
    (failure : Option Error) : Prop where
  said : told ms session =
    (if found then [.searching] else []) ++ (failure.map Error.warning).toList
  searched : found = true ↔ ∃ m ∈ ms, m.Searches session
  failed : ∀ e, failure = some e ↔ ∃ m ∈ ms, m.Fails session e
  /-- A cycle that has gone on to search has been told that there is Bluetooth. -/
  moved : found = true → ∀ (number : Nat) (task : Task), s.tasks[number]? = some task →
    task.work ≠ .attempt session .checking
  /-- A cycle that has failed is no more. -/
  ended : failure.isSome → ∀ (number : Nat) (task : Task), s.tasks[number]? = some task →
    task.attempt? ≠ some session

namespace Overtaken

open CarrierLink.System

variable {session number slot : Nat} {past : List Moment} {m : Moment} {found : Bool}
  {failure : Option Error} {reply : Reply} {task : Task}

/-- A moment at which the cycle is not answered. -/
theorem idle (h : Overtaken session past m.before found failure) (hs : m.before.Sound)
    (hstep : m.before.step m.action = some (m.after, m.seen))
    (hended : m.before.central.HasEnded session)
    (hreply : ∀ (number slot : Nat) (reply : Reply) (task : Task),
      m.action = .reply number slot reply → m.before.tasks[number]? = some task →
      task.attempt? ≠ some session) :
    Overtaken session (past ++ [m]) m.after found failure := by
  obtain ⟨htold, hsearches, hfails, hkept⟩ := hs.quiet_of_unanswered hstep hended hreply
  refine ⟨?_, ?_, fun e => ?_, fun hfound number task' htask' hwork' => ?_,
    fun hfailure number task' htask' hattempt' => ?_⟩
  · rw [told_append, htold, List.append_nil, h.said]
  · simpa [or_and_right, exists_or, hsearches] using h.searched
  · simpa [or_and_right, exists_or, hfails] using h.failed e
  · obtain ⟨task, htask, hwork⟩ :=
      hkept number task' htask' (Task.attempt?_eq_some.mpr ⟨_, hwork'⟩)
    exact h.moved hfound number task htask (hwork.trans hwork')
  · obtain ⟨task, htask, hwork⟩ := hkept number task' htask' hattempt'
    refine h.ended hfailure number task htask ?_
    rwa [Task.attempt?, hwork]

/-- **A moment at which the cycle is answered.** -/
theorem answered (h : Overtaken session past m.before found failure) (hs : m.before.Sound)
    (hstep : m.before.step m.action = some (m.after, m.seen))
    (hdead : m.before.central.connection.session ≠ some session)
    (haction : m.action = .reply number slot reply)
    (htask : m.before.tasks[number]? = some task) (hattempt : task.attempt? = some session) :
    ∃ found failure, Overtaken session (past ++ [m]) m.after found failure := by
  obtain ⟨stage, turn, hwork, hlate, hafter, htold⟩ :=
    late_of_reply hstep hdead haction htask hattempt
  -- It has not failed yet, and no other task is its cycle.
  obtain rfl : failure = none := by
    refine Option.not_isSome_iff_eq_none.mp fun hfailure => ?_
    exact h.ended hfailure number task htask hattempt
  have hlt : number < m.before.tasks.length := (List.getElem?_eq_some_iff.mp htask).1
  have hturn : m.after.tasks[number]? = some turn.task := by simp [hafter, hlt]
  have honly (number' : Nat) (task' : Task) (htask' : m.after.tasks[number']? = some task')
      (hattempt' : task'.attempt? = some session) : task' = turn.task := by
    rw [hafter] at htask'
    rcases eq_of_getElem?_set htask' with ⟨-, rfl⟩ | ⟨hne, htask'⟩
    · rfl
    · exact absurd (hs.alone _ _ _ _ session htask' htask hattempt' hattempt) hne
  have hsearches : m.Searches session ↔ reply = .availability true := by
    constructor
    · rintro ⟨_, _, _, haction', -⟩
      exact (Action.reply.inj (haction.symm.trans haction')).2.2
    · rintro rfl
      exact ⟨number, slot, task, haction, htask, hattempt⟩
  have hfails (e : Error) : m.Fails session e ↔ turn.task = Task.finished (.error e) := by
    constructor
    · rintro ⟨number', task', htask', hattempt', hfinished⟩
      obtain rfl := hs.alone _ _ _ _ session htask' htask hattempt' hattempt
      exact Option.some.inj (hturn.symm.trans hfinished)
    · exact fun heq => ⟨number, task, htask, hattempt, heq ▸ hturn⟩
  have hsaid : told (past ++ [m]) session =
      (if found then [.searching] else []) ++ turn.callbacks := by
    rw [told_append, htold, h.said]
    simp
  have hsearched : (∃ m' ∈ past ++ [m], m'.Searches session) ↔
      found = true ∨ reply = .availability true := by
    simp [or_and_right, exists_or, hsearches, h.searched]
  have hfailed (e : Error) : (∃ m' ∈ past ++ [m], m'.Fails session e) ↔
      turn.task = Task.finished (.error e) := by
    have hnone : ¬∃ m' ∈ past, m'.Fails session e := fun hpast =>
      absurd ((h.failed e).mpr hpast) (by simp)
    simp only [List.mem_append, List.mem_singleton, or_and_right, exists_or, hnone,
      exists_eq_left, false_or, hfails]
  cases hlate with
  | @searches task' hstage hreply hwork' =>
    obtain rfl : found = false := by
      refine Bool.eq_false_iff.mpr fun hfound => ?_
      exact h.moved hfound number task htask (hstage ▸ hwork)
    refine ⟨true, none, by simpa using hsaid, by rw [hsearched]; simp [hreply], fun e => ?_,
      fun _ number' task'' htask'' hwork'' => ?_, by simp⟩
    · rw [hfailed]
      have hne : task' ≠ Task.finished (.error e) := by
        rintro rfl
        simp [Task.finished] at hwork'
      simp [hne]
    · obtain rfl := honly number' task'' htask'' (Task.attempt?_eq_some.mpr ⟨_, hwork''⟩)
      simp [hwork'] at hwork''
  | @waits task' stage' hreply hwork' hstage' =>
    refine ⟨found, none, by simpa using hsaid, by rw [hsearched]; simp [hreply], fun e => ?_,
      fun _ number' task'' htask'' hwork'' => ?_, by simp⟩
    · rw [hfailed]
      have hne : task' ≠ Task.finished (.error e) := by
        rintro rfl
        simp [Task.finished] at hwork'
      simp [hne]
    · obtain rfl := honly number' task'' htask'' (Task.attempt?_eq_some.mpr ⟨_, hwork''⟩)
      exact hstage' (Work.attempt.inj (hwork'.symm.trans hwork'')).2
  | @fails e hreply =>
    refine ⟨found, some e, by simpa using hsaid, by rw [hsearched]; simp [hreply], fun e' => ?_,
      fun _ number' task'' htask'' hwork'' => ?_, fun _ number' task'' htask'' hattempt'' => ?_⟩
    · rw [hfailed]
      simp [Task.finished]
    · obtain rfl := honly number' task'' htask'' (Task.attempt?_eq_some.mpr ⟨_, hwork''⟩)
      simp [Task.finished] at hwork''
    · obtain rfl := honly number' task'' htask'' hattempt''
      simp [Task.finished, Task.attempt?] at hattempt''

/-- **Every moment** of a session that is over. -/
theorem next (h : ∃ found failure, Overtaken session past m.before found failure)
    (hs : m.before.Sound) (hstep : m.before.step m.action = some (m.after, m.seen))
    (hended : m.before.central.HasEnded session) :
    ∃ found failure, Overtaken session (past ++ [m]) m.after found failure := by
  obtain ⟨found, failure, h⟩ := h
  by_cases hreply : ∃ (number slot : Nat) (reply : Reply) (task : Task),
      m.action = .reply number slot reply ∧ m.before.tasks[number]? = some task ∧
        task.attempt? = some session
  · obtain ⟨number, slot, reply, task, haction, htask, hattempt⟩ := hreply
    exact h.answered hs hstep hended.2.2 haction htask hattempt
  · exact ⟨found, failure, h.idle hs hstep hended
      fun number slot reply task haction htask hattempt =>
        hreply ⟨number, slot, reply, task, haction, htask, hattempt⟩⟩

end Overtaken

namespace System

/-- **The words of a session that is over**, along whatever comes after its end. -/
theorem Sound.overtaken_of_leads {s t : System} {later : List Moment} {session : Nat}
    (hs : s.Sound) (hended : s.central.HasEnded session) (h : s.Leads later t) :
    ∃ found failure, Overtaken session later t found failure := by
  refine h.induction (motive := fun later t =>
    ∃ found failure, Overtaken session later t found failure)
    ⟨false, none, rfl, by simp, by simp, by simp, by simp⟩ fun past m hpast hstep ih => ?_
  obtain ⟨hs', hended'⟩ := hs.hasEnded_of_leads hpast hended
  exact Overtaken.next ih hs' hstep hended'

/-- A session before the last one is over. -/
theorem Sound.hasEnded_of_lt {s : System} {session : Nat} (hs : s.Sound) (hpos : 0 < session)
    (hlt : session < s.central.sessions) : s.central.HasEnded session := by
  refine ⟨hpos, Nat.le_of_lt hlt, fun hlive => ?_⟩
  exact absurd (hs.coherent.newest session hlive).2 (Nat.ne_of_lt hlt)

/-- **What is heard of a session after the next one has begun.** Its connect cycle may still
say that it searches, when it learns that there is Bluetooth, and it may still report its
failure, when it ends with one; each is said whenever it happens, the first once at most and
the second once at most and last. Nothing else is heard of the session, and nothing that is
done for it changes the central. -/
theorem late_words_of_leads {profile : Profile} {past later : List Moment} {s t : System}
    {session : Nat} (hpast : (initial profile).Leads past s) (hpos : 0 < session)
    (hovertaken : session < s.central.sessions) (hlater : s.Leads later t) :
    (∀ m ∈ later, m.IsFor session → m.after.central = m.before.central) ∧
    (∀ m ∈ later, m.cycle? = some session → m.callbacks ≠ [] →
      m.Searches session ∧ m.callbacks = [.searching] ∨
        ∃ e, m.Fails session e ∧ m.callbacks = [e.warning]) ∧
    ∃ (found : Bool) (failure : Option Error),
      told later session =
        (if found then [.searching] else []) ++ (failure.map Error.warning).toList ∧
      (found = true ↔ ∃ m ∈ later, m.Searches session) ∧
      ∀ e, failure = some e ↔ ∃ m ∈ later, m.Fails session e := by
  have hs := sound_of_leads hpast
  have hended := hs.hasEnded_of_lt hpos hovertaken
  -- Each moment is a history of its own that begins after the session is over.
  have hsplit (m : Moment) (hmem : m ∈ later) : m.before.Sound ∧
      m.before.central.HasEnded session ∧ m.before.step m.action = some (m.after, m.seen) := by
    obtain ⟨first, rest, rfl⟩ := List.append_of_mem hmem
    obtain ⟨hfirst, hstep, -⟩ := hlater.split
    obtain ⟨hs', hended'⟩ := hs.hasEnded_of_leads hfirst hended
    exact ⟨hs', hended', hstep⟩
  refine ⟨fun m hmem hfor => ?_, fun m hmem hcycle hsaid => ?_, ?_⟩
  · obtain ⟨hs', hended', hstep⟩ := hsplit m hmem
    exact ((hs'.step hstep).2.quiet_of_hasEnded hended' hfor).1
  · obtain ⟨hs', hended', hstep⟩ := hsplit m hmem
    have htold : told [m] session = m.callbacks := by simp [told, hcycle]
    rw [← htold] at hsaid ⊢
    exact hs'.searches_or_fails hstep hended' hsaid
  · obtain ⟨found, failure, h⟩ := hs.overtaken_of_leads hended hlater
    exact ⟨found, failure, h.said, h.searched, h.failed⟩

/-- A connect is closed while it asks whether there is Bluetooth, and goes on when the next one
has already been connected: it gets a device, gives it back, and fails. -/
theorem exists_overtaken_connect :
    ∃ (past : List Moment) (s : System) (later : List Moment) (m : Moment),
      (initial Profile.alarm).Leads past s ∧ 1 < s.central.sessions ∧
      s.Leads (later ++ [m]) m.after ∧ m.after.central.isConnected ∧
      m.before.attempt? m.action = some 1 ∧ m.callbacks = [Error.notConnected.warning] := by
  obtain ⟨s, _, u, _, t, now, hfirst, hsessions, hrest, hstep, hattempt, hsaid, hconnected⟩ :
      ∃ s seen u seen' t now,
        (initial Profile.alarm).run [.start .connect, .send 0, .start .disconnect,
          .start .connect, .send 2] = some (s, seen) ∧ s.central.sessions = 2 ∧
        s.run [.reply 0 0 (.availability true), .send 0, .reply 0 0 (.device (.ok ⟨0, none⟩)),
          .send 0, .reply 2 0 (.availability true), .send 2,
          .reply 2 0 (.device (.ok ⟨1, none⟩)), .send 2, .reply 2 0 (.done (.ok ())), .send 2,
          .reply 2 0 (.done (.ok ())), .send 2,
          .reply 2 0 (.services (.ok
            [⟨Uuid.alarmService, Profile.alarm.channels.map ChannelSpec.uuid⟩]))] =
          some (u, seen') ∧
        u.step (.reply 0 0 (.done (.ok ()))) = some (t, now) ∧
        u.attempt? (.reply 0 0 (.done (.ok ()))) = some 1 ∧
        callbacksIn now = [Error.notConnected.warning] ∧ t.central.isConnected :=
    ⟨_, _, _, _, _, _, rfl, rfl, rfl, rfl, rfl, rfl, rfl⟩
  obtain ⟨past, hpast, -⟩ := run_iff_leads.mp hfirst
  obtain ⟨later, hlater, -⟩ := run_iff_leads.mp hrest
  exact ⟨past, s, later, ⟨u, _, t, now⟩, hpast, by omega, hlater.snoc hstep, hconnected,
    hattempt, hsaid⟩

/-- **A connect cycle is heard of after the next session has begun.** -/
theorem heard_after_overtaking :
    ¬∀ (profile : Profile) (past later : List Moment) (s t : System) (session : Nat),
      (initial profile).Leads past s → 0 < session → session < s.central.sessions →
      s.Leads later t → ∀ m ∈ later, m.before.attempt? m.action = some session →
      m.callbacks = [] := by
  intro hall
  obtain ⟨past, s, later, m, hpast, hsessions, hlater, -, hattempt, hsaid⟩ :=
    exists_overtaken_connect
  have hsilent := hall _ past _ s _ 1 hpast (by omega) hsessions hlater m (by simp) hattempt
  exact absurd (hsaid.symm.trans hsilent) (by simp)

/-- The late failure of the first connect replaces the status of the second, which is
connected. -/
theorem status_replaced_after_overtaking :
    ∃ (past : List Moment) (s : System) (later : List Moment) (m : Moment) (e : Error),
      (initial Profile.alarm).Leads past s ∧ 1 < s.central.sessions ∧
      s.Leads (later ++ [m]) m.after ∧ m.Fails 1 e ∧ m.after.central = m.before.central ∧
      m.after.central.isConnected ∧
      (View.connecting.following (past ++ (later ++ [m]))).connected = true ∧
      (View.connecting.following (past ++ (later ++ [m]))).status = "Error: not connected" := by
  obtain ⟨past, s, later, m, hpast, hsessions, hlater, hconnected, hattempt, hsaid⟩ :=
    exists_overtaken_connect
  have hcycle : m.cycle? = some 1 := cycle?_of_attempt? hattempt
  obtain ⟨hsame, hwords, -⟩ := late_words_of_leads hpast (by omega) hsessions hlater
  rcases hwords m (by simp) hcycle (by simp [hsaid]) with ⟨-, hsearching⟩ | ⟨e, hfails, -⟩
  · exact absurd (hsaid.symm.trans hsearching) (by decide)
  · refine ⟨past, s, later, m, e, hpast, hsessions, hlater, hfails,
      hsame m (by simp) (.inl hcycle), hconnected, ?_, ?_⟩
    · rw [connected_following rfl (leads_append.mpr ⟨s, hpast, hlater⟩), hconnected]
    · rw [← List.append_assoc, View.following_snoc, hsaid]
      rfl

end System

end CarrierLink
