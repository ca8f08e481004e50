import CarrierLink.Proofs.Central.Receipts

/-!
# A lost link is noticed

A link may be lost at any moment, also while a connect cycle is still setting it up and
nobody listens for the loss yet. This module proves that no connection outlives its link
unnoticed (`CarrierLink.System.loss_of_leads`): if a central is connected while its link is
closed, either the pump of its session runs and has the loss ahead of it, or a disconnect of
that session has closed the link and is about to clean up; and when either has come to its
end, so has the session, with nothing left of it.

Of the platform it is assumed (`CarrierLink.Reliable`) that the pump of a session takes its
items in the order of one stream, that a call on a closed link fails, and that a link which
closes after its stream was opened is reported in the stream, unless the central has closed
it itself. It need not be assumed that a closed link stays closed.

The argument is one of order. A cycle opens the stream before it asks for the services of the
device, and it only goes on when it has got them. So a session that is connected has had its
services asked for over a link that was open and whose stream was already there
(`CarrierLink.Established`); what has closed the link since then is in the stream. That this
holds of every cycle from the answered call on is `CarrierLink.System.standing_of_leads`,
which follows the stages of the cycle one turn at a time (`CarrierLink.Attempt.Reaches`).
-/

namespace CarrierLink

/-! ### Streams of events -/

/-- What the pump of a session takes from the stream of its link: an event, or the end. -/
def Action.item? : Action → Option (Nat × Option LinkEvent)
  | .push session event => some (session, some event)
  | .endOfStream session => some (session, none)
  | .start _ | .send _ | .reply .. => none

/-- The pump of a session takes an item. -/
def Moment.Takes (m : Moment) (session : Nat) (item : Option LinkEvent) : Prop :=
  m.action.item? = some (session, item)

/-- How many items the pump of a session has taken in a history. -/
def taken (ms : List Moment) (session : Nat) : Nat :=
  ms.countP fun m => m.action.item?.map Prod.fst == some session

theorem taken_snoc (past : List Moment) (m : Moment) (session : Nat) :
    taken (past ++ [m]) session =
      taken past session + if m.action.item?.map Prod.fst = some session then 1 else 0 := by
  by_cases h : m.action.item?.map Prod.fst = some session <;>
    simp [taken, List.countP_append, h]

/-- It depends on nothing but the actions. -/
theorem taken_eq (ms : List Moment) (session : Nat) :
    taken ms session =
      (ms.map Moment.action).countP fun action => action.item?.map Prod.fst == some session := by
  rw [List.countP_map]
  rfl

/-- An item from which a pump learns that its link is lost. -/
def IsLoss (item : Option LinkEvent) : Prop := item = none ∨ item = some .disconnected

/-- The end of a stream is to a pump what a lost link is. -/
theorem IsLoss.getD_eq {item : Option LinkEvent} (h : IsLoss item) :
    item.getD .disconnected = .disconnected := by
  rcases h with rfl | rfl <;> rfl

/-! ### The platform -/

/-- A task sends a call. -/
def Moment.Sends (m : Moment) (number : Nat) (ticket : Ticket) : Prop :=
  m.action = .send number ∧ ∃ task queued, m.before.tasks[number]? = some task ∧
    task.queued = ticket :: queued

/-- The stream of a link's events has been opened for a session. -/
def Listened (ms : List Moment) (session : Nat) (link : Link) : Prop :=
  ∃ m ∈ ms, ∃ number slot task, m.action = .reply number slot (.done (.ok ())) ∧
    m.before.tasks[number]? = some task ∧ task.work = .attempt session (.listening link)

/-- A disconnect of a session has asked for its link to be closed. -/
def HangsUp (ms : List Moment) (session : Nat) (link : Link) : Prop :=
  ∃ m ∈ ms, ∃ number task ticket queued, m.action = .send number ∧
    m.before.tasks[number]? = some task ∧ task.work = .hangUp (some session) ∧
    task.queued = ticket :: queued ∧ ticket.call = .disconnect link

/-- **What is assumed of the platform** in a history. `closed` says which links are closed
after some moments, and `stream` is what the pump of each session finds in its stream, item by
item. -/
structure Reliable (closed : List Moment → Link → Prop)
    (stream : Nat → Nat → Option LinkEvent) (ms : List Moment) : Prop where
  /-- Pumps take what is in their streams. -/
  streams : ∀ past m later session item, ms = past ++ m :: later → m.Takes session item →
    stream session (taken past session) = item
  /-- A call on a closed link fails, unless it connects or disconnects it. -/
  refuses : ∀ past m between m' later number ticket link reply,
    ms = past ++ m :: between ++ m' :: later → m.Sends number ticket →
    ticket.call.link? = some link → ticket.call ≠ .connect link →
    ticket.call ≠ .disconnect link → closed past link →
    (∀ other ∈ between, ∀ ticket', other.Sends number ticket' → ticket'.slot ≠ ticket.slot) →
    m'.action = .reply number ticket.slot reply → reply.error?.isSome
  /-- A link that closes while there is a stream is reported, unless it was to be closed. -/
  reports : ∀ past m later session link, ms = past ++ m :: later →
    Listened past session link → ¬closed past link → closed (past ++ [m]) link →
    (∃ i, taken past session ≤ i ∧ IsLoss (stream session i)) ∨
      HangsUp (past ++ [m]) session link

section Reliable

variable {closed : List Moment → Link → Prop} {stream : Nat → Nat → Option LinkEvent}
  {ms later : List Moment} {session : Nat} {link : Link}

/-- What is assumed of a history is assumed of its beginnings. -/
theorem Reliable.of_append (h : Reliable closed stream (ms ++ later)) :
    Reliable closed stream ms where
  streams past m rest session item hms := h.streams past m (rest ++ later) session item
    (by rw [hms, List.append_assoc, List.cons_append])
  refuses past m between m' rest number ticket link reply hms :=
    h.refuses past m between m' (rest ++ later) number ticket link reply (by simp [hms])
  reports past m rest session link hms := h.reports past m (rest ++ later) session link
    (by rw [hms, List.append_assoc, List.cons_append])

theorem Listened.append (h : Listened ms session link) (later : List Moment) :
    Listened (ms ++ later) session link := by
  obtain ⟨m, hmem, h⟩ := h
  exact ⟨m, List.mem_append_left _ hmem, h⟩

theorem HangsUp.append (h : HangsUp ms session link) (later : List Moment) :
    HangsUp (ms ++ later) session link := by
  obtain ⟨m, hmem, h⟩ := h
  exact ⟨m, List.mem_append_left _ hmem, h⟩

/-- **A link that was open and is closed has closed in between.** -/
theorem exists_closing {past rest : List Moment} (hopen : ¬closed past link)
    (hclosed : closed (past ++ rest) link) :
    ∃ between m later, rest = between ++ m :: later ∧ ¬closed (past ++ between) link ∧
      closed (past ++ between ++ [m]) link := by
  induction rest using List.reverseRecOn with
  | nil => exact absurd (by simpa using hclosed) hopen
  | append_singleton rest m ih =>
    by_cases hbefore : closed (past ++ rest) link
    · obtain ⟨between, m', later, rfl, h⟩ := ih hbefore
      exact ⟨between, m', later ++ [m], by simp, h⟩
    · exact ⟨rest, m, [], rfl, hbefore, by rwa [List.append_assoc]⟩

end Reliable

/-! ### The end of a session -/

namespace System

variable {s t : System} {m : Moment} {session : Nat} {item : Option LinkEvent}

/-- Taking an item is a step of the pump, and the end of the stream is taken as a loss. -/
theorem step_of_takes (hstep : m.before.step m.action = some (m.after, m.seen))
    (htakes : m.Takes session item) :
    m.before.step (.push session (item.getD .disconnected)) = some (m.after, m.seen) := by
  cases haction : m.action with
  | push session' event =>
    rw [Moment.Takes, haction] at htakes
    obtain ⟨rfl, rfl⟩ := Prod.mk.inj (Option.some.inj htakes)
    rw [Option.getD_some, ← haction, hstep]
  | endOfStream session' =>
    rw [Moment.Takes, haction] at htakes
    obtain ⟨rfl, rfl⟩ := Prod.mk.inj (Option.some.inj htakes)
    exact step_endOfStream (haction ▸ hstep)
  | _ => simp [Moment.Takes, haction, Action.item?] at htakes

/-- **A pump that learns of the loss of its link ends its session.** -/
theorem Sound.hasEnded_of_loss (hs : m.before.Sound)
    (hstep : m.before.step m.action = some (m.after, m.seen)) (htakes : m.Takes session item)
    (hloss : IsLoss item) : m.after.central.HasEnded session := by
  have hpush := step_of_takes hstep htakes
  rw [hloss.getD_eq] at hpush
  obtain ⟨hpos, hbegun⟩ := (hs.begun hpush rfl).resolve_left (by simp)
  obtain ⟨hsound, hchange, -⟩ := hs.push hpush
  refine ⟨hpos, Nat.le_trans hbegun hchange.sessions_le, ?_⟩
  obtain ⟨-, hafter, -⟩ := step_push hpush
  rw [hafter]
  by_cases hlive : m.before.central.connection.session = some session
  · simp [Central.receive, hs.coherent.close_of_live hlive, Central.stopPump, Central.cleared]
  · simpa [Central.receive, Central.close_of_dead hlive, Central.stopPump] using hlive

/-- **A disconnect that is answered has ended its session.** -/
theorem Sound.hasEnded_of_hangUp {number slot : Nat} {reply : Reply} {task : Task} {turn : Turn}
    (hs : m.before.Sound) (htask : m.before.tasks[number]? = some task)
    (hwork : task.work = .hangUp (some session))
    (hturn : task.answer m.before.central slot reply = some turn) :
    turn.central.HasEnded session := by
  have hfits := hs.fits number task htask
  simp only [Task.Fits, hwork] at hfits
  obtain ⟨hpos, hbegun⟩ := hfits session rfl
  simp only [Task.answer, hwork, Option.ite_none_right_eq_some, Option.some.injEq] at hturn
  obtain rfl := hturn.2
  refine ⟨hpos, ?_⟩
  by_cases hlive : m.before.central.connection.session = some session
  · simpa [CarrierLink.hangUp, hs.coherent.close_of_live hlive, Central.cleared] using hbegun
  · simpa [CarrierLink.hangUp, Central.close_of_dead hlive] using ⟨hbegun, hlive⟩

/-- **A loss that has been taken has ended the session.** -/
theorem hasEnded_of_taken {profile : Profile} {closed : List Moment → Link → Prop}
    {stream : Nat → Nat → Option LinkEvent} {ms : List Moment} {i : Nat}
    (h : (initial profile).Leads ms s) (hreliable : Reliable closed stream ms)
    (hloss : IsLoss (stream session i)) (htaken : i < taken ms session) :
    s.central.HasEnded session := by
  refine h.induction (motive := fun ms s => Reliable closed stream ms → i < taken ms session →
    s.central.HasEnded session) (fun _ htaken => absurd htaken (by simp [taken]))
    (fun past m hpast hstep ih hreliable htaken => ?_) hreliable htaken
  have hs := sound_of_leads hpast
  by_cases hlt : i < taken past session
  · have hafter : m.before.Leads [m] m.after := ⟨rfl, hstep, rfl⟩
    exact (hs.hasEnded_of_leads hafter (ih hreliable.of_append hlt)).2
  · -- The item with the loss is the one that is taken right now.
    rw [taken_snoc] at htaken
    split at htaken
    next hitem =>
      obtain ⟨⟨session', item⟩, haction, hsession⟩ := Option.map_eq_some_iff.mp hitem
      obtain rfl : session' = session := hsession
      have hstream := hreliable.streams past m [] session' item rfl haction
      rw [show taken past session' = i by omega] at hstream
      exact hs.hasEnded_of_loss hstep haction (hstream ▸ hloss)
    next => exact absurd htaken hlt

/-- **A disconnect waits until its session is over.** -/
theorem Sound.hangUp_of_leads {number : Nat} {task : Task} {later : List Moment} (hs : s.Sound)
    (htask : s.tasks[number]? = some task) (hwork : task.work = .hangUp (some session))
    (h : s.Leads later t) :
    (∃ task', t.tasks[number]? = some task' ∧ task'.work = .hangUp (some session)) ∨
      t.central.HasEnded session := by
  refine h.induction (motive := fun _ t =>
    (∃ task', t.tasks[number]? = some task' ∧ task'.work = .hangUp (some session)) ∨
      t.central.HasEnded session) (.inl ⟨task, htask, hwork⟩) fun past m hpast hstep ih => ?_
  have hs' := (hs.sessions_le_of_leads hpast).1
  rcases ih with ⟨task', htask', hwork'⟩ | hended
  · rcases step_task hstep htask' with ⟨htask'', -⟩ | ⟨-, ticket, queued, -, htask'', -⟩ |
      ⟨slot, reply, turn, -, hturn, -, hcentral, -⟩
    · exact .inl ⟨task', htask'', hwork'⟩
    · exact .inl ⟨_, htask'', hwork'⟩
    · exact .inr (hcentral ▸ hs'.hasEnded_of_hangUp htask' hwork' hturn)
  · have hafter : m.before.Leads [m] m.after := ⟨rfl, hstep, rfl⟩
    exact .inr (hs'.hasEnded_of_leads hafter hended).2

/-- A disconnect that has asked for the link to be closed still waits for it, or the session
is over. -/
theorem hangUp_or_hasEnded {profile : Profile} {ms : List Moment} {link : Link}
    (h : (initial profile).Leads ms s) (hangs : HangsUp ms session link) :
    (∃ number task, s.tasks[number]? = some task ∧ task.work = .hangUp (some session) ∧
      .disconnect link ∈ made ms number) ∨ s.central.HasEnded session := by
  obtain ⟨m, hmem, number, task, ticket, queued, haction, htask, hwork, hqueued, hcall⟩ := hangs
  obtain ⟨past, later, rfl⟩ := List.append_of_mem hmem
  obtain ⟨hpast, hstep, hlater⟩ := h.split
  have hs := ((sound_of_leads hpast).step hstep).1
  rcases step_task hstep htask with ⟨-, -, hsend, -⟩ | ⟨-, ticket', queued', hqueued', htask',
    -, hseen⟩ | ⟨slot, reply, turn, hreply, -⟩
  · exact absurd haction hsend
  · obtain rfl : ticket' = ticket := (List.cons.inj (hqueued'.symm.trans hqueued)).1
    have hmade : .disconnect link ∈ made (past ++ m :: later) number := by
      simp [made, callsIn, hseen, Event.call?, hcall]
    rcases hs.hangUp_of_leads htask' hwork hlater with ⟨task', htask'', hwork'⟩ | hended
    · exact .inl ⟨number, task', htask'', hwork', hmade⟩
    · exact .inr hended
  · simp [haction] at hreply

/-- **A session that ends leaves a connection as new.** -/
theorem Sound.connection_of_end (hs : m.before.Sound)
    (hstep : m.before.step m.action = some (m.after, m.seen))
    (hlive : m.before.central.connection.session = some session)
    (hdead : m.after.central.connection.session ≠ some session) :
    m.after.central.connection = {} := by
  obtain ⟨session', own, said, hchange⟩ := (hs.step hstep).2.change
  generalize m.after.central = c' at hchange hdead ⊢
  cases hchange with
  | rests => exact absurd hlive hdead
  | opens hopen =>
    obtain ⟨hphase, -⟩ := Change.openSession_eq hopen
    exact absurd hphase (hs.coherent.phase_ne hlive)
  | grows hlive' _ hlive'' => exact absurd (hlive''.trans (hlive'.symm.trans hlive)) hdead
  | enters hlive' _ hlive'' => exact absurd (hlive''.trans (hlive'.symm.trans hlive)) hdead
  | leaves => rfl
  | keeps hlive' =>
    rw [Central.store_of_live hlive'] at hdead
    exact absurd hlive hdead
  | closes => rfl

/-- **What is left of a session that has ended** in the course of a history: nothing. -/
structure Over (s : System) (ms : List Moment) (session : Nat) : Prop where
  ended : s.central.HasEnded session
  /-- The connection was as new when the session ended. -/
  cleared : ∃ m ∈ ms, m.before.central.connection.session = some session ∧
    m.after.central.connection = {}
  /-- It still is, unless a later session has begun. -/
  renewed : s.central.sessions = session → s.central.connection = {}

theorem Sound.over_of_hasEnded {later : List Moment} (hs : s.Sound) (h : s.Leads later t)
    (hlive : s.central.connection.session = some session)
    (hended : t.central.HasEnded session) : t.Over later session := by
  refine ⟨hended, ?_, ((hs.sessions_le_of_leads h).1.renewed_of_hasEnded hended).1⟩
  refine h.induction (motive := fun later t => t.central.connection.session ≠ some session →
    ∃ m ∈ later, m.before.central.connection.session = some session ∧
      m.after.central.connection = {}) (fun hdead => absurd hlive hdead)
    (fun past m hpast hstep ih hdead => ?_) hended.2.2
  by_cases hbefore : m.before.central.connection.session = some session
  · exact ⟨m, by simp, hbefore,
      (hs.sessions_le_of_leads hpast).1.connection_of_end hstep hbefore hdead⟩
  · obtain ⟨m', hmem, h⟩ := ih hbefore
    exact ⟨m', List.mem_append_left _ hmem, h⟩

end System

/-! ### How far a connect cycle gets in a turn -/

/-- The link over which a cycle has been told the services of its device. -/
def Stage.found? : Stage → Option Link
  | subscribing link .. | reading link _ => some link
  | _ => none

/-- The same, with a reply that may tell them just now. -/
def Stage.foundWith? (stage : Stage) (reply : Reply) : Option Link :=
  match stage, reply with
  | discovering link, .services (.ok _) => some link
  | stage, _ => stage.found?

namespace Attempt

variable {session : Nat} {c : Central} {link : Link} {found : Option Link}

/-- **A turn gets no further than the services**: a cycle is only past its discovery, and
connected, over a link that has told them. -/
structure Reaches (session : Nat) (found : Option Link) (turn : Turn) : Prop where
  goesOn : ∀ session' stage, turn.task.work = .attempt session' stage →
    (∀ link, stage ≠ .discovering link) ∧ ∀ link, stage.found? = some link → found = some link
  arrives : turn.central.connection.session = some session →
    turn.central.connection.phase = .connected →
      ∃ link, found = some link ∧ turn.central.connection.link = some link

theorem reaches_after {turn : Turn} (callbacks : List Callback)
    (h : Reaches session found turn) : Reaches session found (turn.after callbacks) :=
  ⟨h.goesOn, h.arrives⟩

/-- A cycle that goes on to another stage, not connected yet. -/
theorem reaches_of_work {turn : Turn} {stage : Stage}
    (hwork : turn.task.work = .attempt session stage)
    (hstage : ∀ link, stage ≠ .discovering link)
    (hfound : ∀ link, stage.found? = some link → found = some link)
    (hphase : turn.central.connection.session = some session →
      turn.central.connection.phase ≠ .connected) : Reaches session found turn where
  goesOn session' stage' hwork' := by
    obtain ⟨-, rfl⟩ := Work.attempt.inj (hwork'.symm.trans hwork)
    exact ⟨hstage, hfound⟩
  arrives hlive hconnected := absurd hconnected (hphase hlive)

theorem reaches_fail (c : Central) (session : Nat) (got : Option Link) (e : Error) :
    Reaches session found (fail c session got e) := by
  have hdead := c.dead_of_abandon session
  rw [fail_eq]
  split
  · exact reaches_of_work rfl (by simp) (by simp [Stage.found?]) fun h => absurd h hdead
  · exact ⟨by simp [report, Task.finished], fun h => absurd h hdead⟩

theorem reaches_complete (hend : AtEnd session link c) :
    Reaches session (some link) (complete c session link) := by
  rw [complete, Central.enter]
  split
  next heq =>
    split at heq
    next hlive =>
      obtain rfl := Except.ok.inj heq
      exact ⟨by simp [Task.finished],
        fun _ _ => ⟨link, rfl, (hend (Central.isLive_iff.mp hlive)).2⟩⟩
    next => exact absurd heq (by simp)
  next => exact reaches_fail c session (some link) _

theorem reaches_startReading (hend : AtEnd session link c)
    (telemetry : List (ChannelSpec × Handle)) :
    Reaches session (some link) (startReading c session link telemetry) := by
  rw [startReading]
  split
  · exact reaches_complete hend
  · refine reaches_of_work rfl (by simp) (by simp [Stage.found?]) fun hlive => ?_
    simp [(hend hlive).1]

theorem reaches_startSubscribing (hend : AtEnd session link c)
    (telemetry : List (ChannelSpec × Handle)) :
    Reaches session (some link) (startSubscribing c session link telemetry) := by
  rw [startSubscribing]
  split
  · exact reaches_startReading hend telemetry
  · refine reaches_of_work rfl (by simp) (by simp [Stage.found?]) fun hlive => ?_
    simp [(hend hlive).1]

theorem reaches_resolve (hlink : c.connection.session = some session →
    c.connection.link = some link) (services : List Service) :
    Reaches session (some link) (resolve c session link services) := by
  rw [resolve]
  split
  · exact reaches_fail c session (some link) _
  · rw [Central.takeHandles]
    split
    next heq =>
      exact reaches_fail c session (some link) _
    next heq =>
      split at heq
      next hlive =>
        obtain rfl := Except.ok.inj heq
        apply reaches_startSubscribing
        exact fun _ => ⟨rfl, hlink (Central.isLive_iff.mp hlive)⟩
      next => exact absurd heq (by simp)

theorem reaches_proceedSubscribing {telemetry : List (ChannelSpec × Handle)}
    {failed : Option (Nat × Error)} {rest : Task} (hend : AtEnd session link c) :
    Reaches session (some link) (proceedSubscribing c session link telemetry failed rest) := by
  have hwaits : Reaches session (some link)
      ⟨c, [], { rest with work := .attempt session (.subscribing link telemetry failed) }⟩ := by
    refine reaches_of_work rfl (by simp) (by simp [Stage.found?]) fun hlive => ?_
    simp [(hend hlive).1]
  simp only [proceedSubscribing]
  split
  · split
    · exact hwaits
    · exact reaches_fail c session (some link) _
  · split
    · exact reaches_startReading hend telemetry
    · exact hwaits

/-- A cycle that has a stream asks for the services next, if it can go on at all. -/
theorem startDiscovering_eq_or_reaches (c : Central) (session : Nat) (link : Link) :
    ((startDiscovering c session link).task =
        Task.asking (.attempt session (.discovering link)) (.services link) ∧
      (startDiscovering c session link).central.connection.phase ≠ .connected) ∨
      Reaches session none (startDiscovering c session link) := by
  simp only [startDiscovering, Central.enter]
  split
  next heq =>
    split at heq
    next =>
      obtain rfl := Except.ok.inj heq
      exact .inl ⟨rfl, by simp [next]⟩
    next => exact absurd heq (by simp)
  next => exact .inr (reaches_fail _ _ _ _)

/-- **Every turn of a cycle**: either its stream has been opened just now and it asks for the
services, or it gets no further than to the services that it has been told. -/
theorem reaches_of_answer {stage : Stage} {rest : Task} {slot : Nat} {reply : Reply}
    {turn : Turn} (h : answer c session stage rest slot reply = some turn) (hc : c.Coherent)
    (hrest : rest.work = .attempt session stage)
    (hmatches : c.connection.session = some session → stage.Matches c.connection) :
    (∃ link, stage = .listening link ∧ reply = .done (.ok ()) ∧
      turn.task = Task.asking (.attempt session (.discovering link)) (.services link) ∧
      turn.central.connection.phase ≠ .connected) ∨
      Reaches session (stage.foundWith? reply) turn := by
  have hstill (hlive : c.connection.session = some session) :
      c.connection.phase ≠ .connected := by
    intro hconnected
    exact absurd (hmatches hlive).isSettingUp (by simp [hconnected, Phase.isSettingUp])
  simp only [answer] at h
  -- One case for each reply that a stage takes, in the order of the stages.
  split at h
  next available =>
    split at h
    · obtain rfl := Option.some.inj h
      exact .inr (reaches_of_work rfl (by simp) (by simp [Stage.found?]) hstill)
    · obtain rfl := Option.some.inj h
      exact .inr (reaches_fail _ _ _ _)
  next e =>
    obtain rfl := Option.some.inj h
    exact .inr (reaches_fail _ _ _ _)
  next link =>
    split at h
    next c' htake =>
      obtain rfl := Option.some.inj h
      rw [Central.takeLink, Option.ite_none_right_eq_some, Option.some.injEq] at htake
      obtain ⟨-, rfl⟩ := htake
      exact .inr (reaches_of_work rfl (by simp) (by simp [Stage.found?]) hstill)
    next =>
      obtain rfl := Option.some.inj h
      exact .inr (reaches_of_work rfl (by simp) (by simp [Stage.found?]) hstill)
  next =>
    obtain rfl := Option.some.inj h
    exact .inr (reaches_fail _ _ _ _)
  next link e =>
    obtain rfl := Option.some.inj h
    exact .inr (reaches_fail _ _ _ _)
  next link =>
    obtain rfl := Option.some.inj h
    exact .inr (reaches_of_work rfl (by simp) (by simp [Stage.found?]) hstill)
  next link e =>
    obtain rfl := Option.some.inj h
    exact .inr (reaches_fail _ _ _ _)
  next link =>
    obtain rfl := Option.some.inj h
    rcases startDiscovering_eq_or_reaches c session link with ⟨htask, hphase⟩ | hreaches
    · exact .inl ⟨link, rfl, rfl, htask, hphase⟩
    · exact .inr hreaches
  next link e =>
    obtain rfl := Option.some.inj h
    exact .inr (reaches_fail _ _ _ _)
  next link services =>
    obtain rfl := Option.some.inj h
    exact .inr (reaches_resolve (fun hlive => (hmatches hlive).2) services)
  next link telemetry failed outcome =>
    obtain rfl := Option.some.inj h
    exact .inr (reaches_proceedSubscribing hmatches)
  next link telemetry data =>
    obtain ⟨⟨spec, handle⟩, -, h⟩ := Option.bind_eq_some_iff.mp h
    obtain ⟨-, -, hend⟩ := receive_growth hc hmatches spec data
    obtain rfl := Option.some.inj h
    refine .inr (reaches_after _ ?_)
    split
    · exact reaches_complete hend
    · refine reaches_of_work hrest (by simp) (by simp [Stage.found?, Stage.foundWith?]) ?_
      exact fun hlive => by simp [(hend hlive).1]
  next =>
    obtain rfl := Option.some.inj h
    exact .inr ⟨by simp [report, Task.finished],
      fun hlive hconnected => absurd hconnected (hstill hlive)⟩
  next => exact absurd h (by simp)

end Attempt

/-! ### What stands behind a connection -/

/-- **The services have been asked for over a link that was open**, when its stream was
already there. -/
def Established (closed : List Moment → Link → Prop) (ms : List Moment) (session : Nat)
    (link : Link) : Prop :=
  ∃ past later, ms = past ++ later ∧ Listened past session link ∧ ¬closed past link

/-- The call for the services is the last that a task has sent, and the stream was there. -/
def Asked (ms : List Moment) (number session : Nat) (link : Link) : Prop :=
  ∃ past m between, ms = past ++ m :: between ∧ m.Sends number ⟨0, .services link⟩ ∧
    Listened past session link ∧ ∀ m' ∈ between, m'.action ≠ .send number

/-- **What stands behind a connect cycle** that is past the opening of its stream. -/
structure Standing (closed : List Moment → Link → Prop) (ms : List Moment) (number : Nat)
    (task : Task) : Prop where
  asks : ∀ session link, task.work = .attempt session (.discovering link) →
    Listened ms session link ∧ task.unanswered = [⟨0, .services link⟩] ∧
      (task.queued = [] → Asked ms number session link)
  found : ∀ session stage link, task.work = .attempt session stage →
    stage.found? = some link → Established closed ms session link

section Standing

variable {closed : List Moment → Link → Prop} {stream : Nat → Nat → Option LinkEvent}
  {past : List Moment} {m : Moment} {number session : Nat} {link : Link} {task : Task}

theorem Established.append {ms : List Moment} (h : Established closed ms session link)
    (later : List Moment) : Established closed (ms ++ later) session link := by
  obtain ⟨past, rest, rfl, h⟩ := h
  exact ⟨past, rest ++ later, List.append_assoc .., h⟩

/-- A task that has no cycle past the opening of its stream. -/
theorem Standing.of_work (hasks : ∀ session link, task.work ≠ .attempt session (.discovering link))
    (hfound : ∀ session stage, task.work = .attempt session stage → stage.found? = none) :
    Standing closed past number task where
  asks session link hwork := absurd hwork (hasks session link)
  found session stage link hwork hstage := by
    rw [hfound session stage hwork] at hstage
    exact absurd hstage (by simp)

theorem Standing.idle (h : Standing closed past number task) (hsend : m.action ≠ .send number) :
    Standing closed (past ++ [m]) number task where
  asks session link hwork := by
    obtain ⟨hlistened, hcalls, hasked⟩ := h.asks session link hwork
    refine ⟨hlistened.append _, hcalls, fun hqueued => ?_⟩
    obtain ⟨early, m₀, between, rfl, hsends, hearly, hbetween⟩ := hasked hqueued
    refine ⟨early, m₀, between ++ [m], by simp, hsends, hearly, ?_⟩
    exact List.forall_mem_append.mpr ⟨hbetween, List.forall_mem_singleton.mpr hsend⟩
  found session stage link hwork hstage := (h.found session stage link hwork hstage).append _

theorem Standing.send {ticket : Ticket} {queued : List Ticket}
    (h : Standing closed past number task) (hsends : m.Sends number ticket)
    (hqueued : task.queued = ticket :: queued) :
    Standing closed (past ++ [m]) number
      { task with queued, sent := task.sent ++ [ticket] } where
  asks session link hwork := by
    obtain ⟨hlistened, hcalls, -⟩ := h.asks session link hwork
    rw [Task.unanswered, hqueued, List.cons_append, List.cons_eq_cons,
      List.append_eq_nil_iff] at hcalls
    obtain ⟨rfl, rfl, hsent⟩ := hcalls
    exact ⟨hlistened.append _, by simp [Task.unanswered, hsent],
      fun _ => ⟨past, m, [], rfl, hsends, hlistened, by simp⟩⟩
  found session stage link hwork hstage := (h.found session stage link hwork hstage).append _

/-- **A cycle that has been told the services** asked for them over an open link, since over
a closed one it would not have been told them. -/
theorem Standing.established {slot : Nat} {reply : Reply} {stage : Stage} {c : Central}
    {turn : Turn} (h : Standing closed past number task)
    (hreliable : Reliable closed stream (past ++ [m]))
    (haction : m.action = .reply number slot reply)
    (hwork : task.work = .attempt session stage) (hturn : task.answer c slot reply = some turn)
    (hfound : stage.foundWith? reply = some link) :
    Established closed (past ++ [m]) session link := by
  simp only [Stage.foundWith?] at hfound
  split at hfound
  next link' services =>
    obtain rfl := Option.some.inj hfound
    obtain ⟨-, hcalls, hasked⟩ := h.asks session link' hwork
    obtain ⟨hqueued, hsent⟩ := Task.sole_of_answer hturn hcalls
    obtain rfl : slot = 0 := by
      obtain ⟨answered, hmem, hslot⟩ := Task.exists_sent_of_answer hturn
      rw [hsent, List.mem_singleton] at hmem
      rw [← hslot, hmem]
    obtain ⟨early, m₀, between, rfl, hsends, hlistened, hbetween⟩ := hasked hqueued
    refine ⟨early, m₀ :: between ++ [m], by simp, hlistened, fun hclosed => ?_⟩
    have hrefused := hreliable.refuses early m₀ between m [] number ⟨0, .services link'⟩ link' _
      rfl hsends rfl (by simp) (by simp) hclosed
      (fun other hmem _ hother => absurd hother.1 (hbetween other hmem)) haction
    simp [Reply.error?] at hrefused
  next => exact (h.found session stage link hwork hfound).append _

/-- **A turn of a cycle keeps what stands behind it.** -/
theorem Standing.answer {slot : Nat} {reply : Reply} {c : Central} {turn : Turn}
    (h : Standing closed past number task) (hreliable : Reliable closed stream (past ++ [m]))
    (hc : c.Coherent) (hfits : task.Fits c) (haction : m.action = .reply number slot reply)
    (htask : m.before.tasks[number]? = some task) (hturn : task.answer c slot reply = some turn) :
    Standing closed (past ++ [m]) number turn.task := by
  have hanswered := Task.answered_of_answer hc hfits hturn
  cases hattempt : turn.task.attempt? with
  | none =>
    have hnot (session : Nat) (stage : Stage) : turn.task.work ≠ .attempt session stage :=
      fun hwork => by simp [Task.attempt?, hwork] at hattempt
    exact .of_work (fun session link => hnot session _) fun session stage hwork =>
      absurd hwork (hnot session stage)
  | some session =>
    obtain ⟨stage, hwork⟩ := Task.attempt?_eq_some.mp (hanswered.attempt? hattempt)
    obtain ⟨-, rest, hrest, -, hanswer⟩ := Task.answer_of_attempt hwork hturn
    have hmatches := hfits
    simp only [Task.Fits, hwork] at hmatches
    rcases Attempt.reaches_of_answer hanswer hc hrest hmatches.2.2.1 with
      ⟨link, rfl, rfl, htask', -⟩ | hreaches
    · -- The stream has been opened just now, and the call for the services is queued.
      rw [htask']
      refine ⟨fun session' link' hwork' => ?_, fun session' stage' link' hwork' hstage => ?_⟩
      · obtain ⟨rfl, hstage⟩ := Work.attempt.inj hwork'
        obtain rfl := Stage.discovering.inj hstage
        exact ⟨⟨m, by simp, number, slot, task, haction, htask, hwork⟩, rfl,
          fun hqueued => absurd hqueued (by simp [Task.asking])⟩
      · obtain ⟨-, rfl⟩ := Work.attempt.inj hwork'
        exact absurd hstage (by simp [Stage.found?])
    · refine ⟨fun session' link' hwork' => ?_, fun session' stage' link' hwork' hstage => ?_⟩
      · exact absurd rfl ((hreaches.goesOn session' _ hwork').1 link')
      · obtain rfl : session' = session := by
          simpa [Task.attempt?, hwork'] using hattempt
        exact h.established hreliable haction hwork hturn
          ((hreaches.goesOn session' stage' hwork').2 link' hstage)

/-- A new task has no cycle past the opening of its stream. -/
theorem standing_start {c : Central} (hc : c.Coherent) (operation : Operation) :
    Standing closed past number (Task.start c operation).task := by
  cases operation with
  | connect =>
    simp only [Task.start]
    split
    · refine .of_work (by simp [Task.asking]) fun session stage hwork => ?_
      obtain ⟨-, rfl⟩ := Work.attempt.inj hwork
      rfl
    · exact .of_work (by simp [Task.finished]) (by simp [Task.finished])
  | disconnect =>
    simp only [Task.start]
    split
    · exact .of_work (by simp [Task.asking]) (by simp [Task.asking])
    · exact .of_work (by simp [hangUp, Task.finished]) (by simp [hangUp, Task.finished])
  | run script =>
    have hnot (session : Nat) (stage : Stage) :
        (script.run c).task.work ≠ .attempt session stage := fun hwork => by
      have hscript := (script.ofScript_run hc).work
      simp [Task.cycle?, hwork] at hscript
    exact .of_work (fun session link => hnot session _) fun session stage hwork =>
      absurd hwork (hnot session stage)

end Standing

/-! ### Becoming connected -/

/-- **Who is connected after a change** was so before, over the same link, or has just
arrived by its own connect cycle. -/
theorem Change.connected {session session' : Nat} {c c' : Central} {own : Bool}
    {callbacks : List Callback} (h : Change session c own callbacks c')
    (hlive : c'.connection.session = some session')
    (hconnected : c'.connection.phase = .connected) :
    (c.connection.session = some session' ∧ c.connection.phase = .connected ∧
      c'.connection.link = c.connection.link) ∨
    own = true ∧ session = session' ∧ c.connection.phase.isSettingUp := by
  cases h with
  | rests => exact .inl ⟨hlive, hconnected, rfl⟩
  | opens hopen =>
    obtain ⟨-, -, rfl⟩ := openSession_eq hopen
    exact absurd hconnected (by simp)
  | grows _ _ _ hsetup' => exact absurd hsetup' (by simp [hconnected, Phase.isSettingUp])
  | enters _ hsetup hlive' =>
    exact .inr ⟨rfl, Option.some.inj (hlive'.symm.trans hlive), hsetup⟩
  | leaves => exact absurd hlive (by simp [Central.cleared])
  | keeps hlive' =>
    rw [Central.store_of_live hlive'] at hlive hconnected ⊢
    exact .inl ⟨hlive, hconnected, rfl⟩
  | closes => exact absurd hlive (by simp [Central.cleared])

namespace System

variable {closed : List Moment → Link → Prop} {stream : Nat → Nat → Option LinkEvent}
  {past : List Moment} {m : Moment} {session : Nat} {link : Link}

/-- **A session arrives by a reply to its connect cycle.** -/
theorem Sound.connected_of_step (hs : m.before.Sound)
    (hstep : m.before.step m.action = some (m.after, m.seen))
    (hlive : m.after.central.connection.session = some session)
    (hconnected : m.after.central.connection.phase = .connected) :
    (m.before.central.connection.session = some session ∧
      m.before.central.connection.phase = .connected ∧
      m.after.central.connection.link = m.before.central.connection.link) ∨
    ∃ number slot reply task stage turn, m.action = .reply number slot reply ∧
      m.before.tasks[number]? = some task ∧ task.work = .attempt session stage ∧
      task.answer m.before.central slot reply = some turn ∧
      m.after.central = turn.central := by
  have hstays (hstep : m.after.central = m.before.central)
      (hsetup : m.before.central.connection.phase.isSettingUp) : False := by
    rw [hstep] at hconnected
    exact absurd hsetup (by simp [hconnected, Phase.isSettingUp])
  have hcases : (m.before.central.connection.session = some session ∧
      m.before.central.connection.phase = .connected ∧
      m.after.central.connection.link = m.before.central.connection.link) ∨
      m.before.attempt? m.action = some session ∧
        m.before.central.connection.phase.isSettingUp := by
    have heffect := (hs.step hstep).2
    generalize m.after.central = c' at heffect hlive hconnected ⊢
    cases heffect with
    | work _ hattempt _ hchange =>
      refine (hchange.connected hlive hconnected).imp_right ?_
      rintro ⟨hown, rfl, hsetup⟩
      exact ⟨hattempt hown, hsetup⟩
    | request _ _ hchange =>
      exact (hchange.connected hlive hconnected).imp_right fun h => absurd h.1 (by simp)
    | word => exact .inl ⟨hlive, hconnected, rfl⟩
  refine hcases.imp_right ?_
  rintro ⟨hattempt, hsetup⟩
  cases haction : m.action with
  | start operation =>
    rw [haction] at hattempt
    cases operation with
    | connect =>
      simp only [attempt?, cycle?, Option.ite_none_right_eq_some] at hattempt
      exact absurd hsetup (by simp [hattempt.1, Phase.isSettingUp])
    | _ => exact absurd hattempt (by simp [attempt?])
  | send number =>
    obtain ⟨_, _, _, -, -, hafter, -⟩ := step_send (haction ▸ hstep)
    exact (hstays (by rw [hafter]) hsetup).elim
  | reply number slot reply =>
    obtain ⟨task, turn, htask, hturn, hafter, -⟩ := step_reply (haction ▸ hstep)
    rw [haction] at hattempt
    obtain ⟨task', htask', hattempt'⟩ := Option.bind_eq_some_iff.mp hattempt
    obtain rfl := Option.some.inj (htask'.symm.trans htask)
    obtain ⟨stage, hwork⟩ := Task.attempt?_eq_some.mp hattempt'
    exact ⟨number, slot, reply, task', stage, turn, rfl, htask, hwork, hturn, by rw [hafter]⟩
  | _ => rw [haction] at hattempt; exact absurd hattempt (by simp [attempt?])

/-- **A step keeps what stands behind the cycles.** -/
theorem standing_of_step (hs : m.before.Sound)
    (hstep : m.before.step m.action = some (m.after, m.seen))
    (hreliable : Reliable closed stream (past ++ [m]))
    (htasks : ∀ number task, m.before.tasks[number]? = some task →
      Standing closed past number task)
    (number : Nat) (task : Task) (htask : m.after.tasks[number]? = some task) :
    Standing closed (past ++ [m]) number task := by
  cases haction : m.action with
  | start operation =>
    obtain ⟨hafter, -⟩ := step_start (haction ▸ hstep)
    rw [hafter] at htask
    rcases eq_of_getElem?_concat htask with ⟨-, rfl⟩ | htask
    · exact standing_start hs.coherent operation
    · exact (htasks number task htask).idle (by simp [haction])
  | send number' =>
    obtain ⟨task', ticket, queued, htask', hqueued, hafter, -⟩ := step_send (haction ▸ hstep)
    rw [hafter] at htask
    rcases eq_of_getElem?_set htask with ⟨rfl, rfl⟩ | ⟨hne, htask⟩
    · exact (htasks number task' htask').send ⟨haction, task', queued, htask', hqueued⟩ hqueued
    · exact (htasks number task htask).idle fun h =>
        hne (Action.send.inj (haction.symm.trans h)).symm
  | reply number' slot reply =>
    obtain ⟨task', turn, htask', hturn, hafter, -⟩ := step_reply (haction ▸ hstep)
    rw [hafter] at htask
    rcases eq_of_getElem?_set htask with ⟨rfl, rfl⟩ | ⟨-, htask⟩
    · exact (htasks number task' htask').answer hreliable hs.coherent
        (hs.fits number task' htask') haction htask' hturn
    · exact (htasks number task htask).idle (by simp [haction])
  | push session event =>
    obtain ⟨-, hafter, -⟩ := step_push (haction ▸ hstep)
    rw [hafter] at htask
    exact (htasks number task htask).idle (by simp [haction])
  | endOfStream session =>
    obtain ⟨-, hafter, -⟩ := step_push (step_endOfStream (haction ▸ hstep))
    rw [hafter] at htask
    exact (htasks number task htask).idle (by simp [haction])

/-- **A step keeps what stands behind the connection**, which has come about by a cycle. -/
theorem established_of_step (hs : m.before.Sound)
    (hstep : m.before.step m.action = some (m.after, m.seen))
    (hreliable : Reliable closed stream (past ++ [m]))
    (htasks : ∀ number task, m.before.tasks[number]? = some task →
      Standing closed past number task)
    (hestablished : m.before.central.connection.session = some session →
      m.before.central.connection.phase = .connected →
      m.before.central.connection.link = some link → Established closed past session link)
    (hlive : m.after.central.connection.session = some session)
    (hconnected : m.after.central.connection.phase = .connected)
    (hlink : m.after.central.connection.link = some link) :
    Established closed (past ++ [m]) session link := by
  rcases hs.connected_of_step hstep hlive hconnected with ⟨hlive₀, hconnected₀, hlink₀⟩ |
    ⟨number, slot, reply, task, stage, turn, haction, htask, hwork, hturn, hafter⟩
  · exact (hestablished hlive₀ hconnected₀ (hlink₀ ▸ hlink)).append _
  · obtain ⟨-, rest, hrest, -, hanswer⟩ := Task.answer_of_attempt hwork hturn
    have hfits := hs.fits number task htask
    simp only [Task.Fits, hwork] at hfits
    rw [hafter] at hlive hconnected hlink
    rcases Attempt.reaches_of_answer hanswer hs.coherent hrest hfits.2.2.1 with
      ⟨-, -, -, -, hphase⟩ | hreaches
    · exact absurd hconnected hphase
    · obtain ⟨link', hfound, hlink'⟩ := hreaches.arrives hlive hconnected
      obtain rfl := Option.some.inj (hlink'.symm.trans hlink)
      exact (htasks number task htask).established hreliable haction hwork hturn hfound

/-- **What stands behind the cycles and the connection**, along a history. -/
theorem standing_of_leads {profile : Profile} {ms : List Moment} {s : System}
    (h : (initial profile).Leads ms s) (hreliable : Reliable closed stream ms) :
    (∀ number task, s.tasks[number]? = some task → Standing closed ms number task) ∧
      ∀ session link, s.central.connection.session = some session →
        s.central.connection.phase = .connected → s.central.connection.link = some link →
          Established closed ms session link := by
  refine h.induction (motive := fun ms s => Reliable closed stream ms →
    (∀ number task, s.tasks[number]? = some task → Standing closed ms number task) ∧
      ∀ session link, s.central.connection.session = some session →
        s.central.connection.phase = .connected → s.central.connection.link = some link →
          Established closed ms session link)
    (fun _ => ⟨by simp [initial], by simp [initial]⟩)
    (fun past m hpast hstep ih hreliable => ?_) hreliable
  obtain ⟨htasks, hestablished⟩ := ih hreliable.of_append
  have hs := sound_of_leads hpast
  exact ⟨standing_of_step hs hstep hreliable htasks, fun session link =>
    established_of_step hs hstep hreliable htasks (hestablished session link)⟩

/-! ### Lost links -/

/-- **A connected central whose link is closed is about to find out.** Either the pump of its
session runs, and the loss is still ahead of it in its stream, or a disconnect of the session
has asked for the link to be closed and is still to clean up. As soon as the pump has taken
the loss, or the disconnect has come to its end, the session is over, and it has left a
connection that is disconnected and holds no value. -/
theorem loss_of_leads {profile : Profile} {ms : List Moment} {s : System}
    (h : (initial profile).Leads ms s) (hreliable : Reliable closed stream ms)
    (hconnected : s.central.isConnected) (hlink : s.central.connection.link = some link)
    (hclosed : closed ms link) :
    ∃ session, s.central.connection.session = some session ∧
      ((s.central.connection.pump = some session ∧ ⟨session, link⟩ ∈ s.central.pumps ∧
          ∃ i, taken ms session ≤ i ∧ IsLoss (stream session i)) ∨
        ∃ number task, s.tasks[number]? = some task ∧ task.work = .hangUp (some session) ∧
          .disconnect link ∈ made ms number) ∧
      ∀ later t, s.Leads later t → Reliable closed stream (ms ++ later) →
        ((∃ i, IsLoss (stream session i) ∧ i < taken (ms ++ later) session) ∨
          ∃ (number : Nat) (task task' : Task), s.tasks[number]? = some task ∧
            task.work = .hangUp (some session) ∧ t.tasks[number]? = some task' ∧
            task'.outcome?.isSome) →
        t.Over later session := by
  have hs := sound_of_leads h
  have hphase : s.central.connection.phase = .connected := by
    simpa [Central.isConnected] using hconnected
  cases hlive : s.central.connection.session with
  | none => exact absurd hphase (by simp [hs.coherent.idle hlive])
  | some session =>
    have hshape := hs.coherent.shaped session hlive
    simp only [Connection.Shaped, hphase] at hshape
    have hpump : ⟨session, link⟩ ∈ s.central.pumps := by
      rw [hs.coherent.running, Connection.running, hshape.2.1, hlink]
      exact List.mem_singleton.mpr rfl
    refine ⟨session, rfl, ?_, fun later t hlater hreliable' hended => ?_⟩
    · -- The link was open when the services were asked for, and has closed since.
      obtain ⟨past, rest, rfl, hlistened, hopen⟩ :=
        (standing_of_leads h hreliable).2 session link hlive hphase hlink
      obtain ⟨between, m, later, rfl, hopen', hclosed'⟩ := exists_closing hopen hclosed
      rcases hreliable.reports (past ++ between) m later session link (by simp)
        (hlistened.append between) hopen' hclosed' with ⟨i, -, hloss⟩ | hangs
      · rcases Nat.lt_or_ge i (taken (past ++ (between ++ m :: later)) session) with hlt | hge
        · exact absurd hlive (hasEnded_of_taken h hreliable hloss hlt).2.2
        · exact .inl ⟨hshape.2.1, hpump, i, hge, hloss⟩
      · have hangs' := hangs.append later
        simp only [List.append_assoc, List.singleton_append] at hangs'
        exact .inr ((hangUp_or_hasEnded h hangs').resolve_right fun hended =>
          hended.2.2 hlive)
    · refine hs.over_of_hasEnded hlater hlive ?_
      rcases hended with ⟨i, hloss, htaken⟩ | ⟨number, task, task', htask, hwork, htask', hdone⟩
      · exact hasEnded_of_taken (leads_append.mpr ⟨s, h, hlater⟩) hreliable' hloss htaken
      · refine (hs.hangUp_of_leads htask hwork hlater).resolve_left ?_
        rintro ⟨task'', htask'', hwork''⟩
        obtain rfl := Option.some.inj (htask''.symm.trans htask')
        simp [Task.outcome?, hwork''] at hdone

/-- The link to the alarm clock is lost as soon as it is connected, and the pump finds out. -/
theorem loss_of_alarm :
    ∃ (closed : List Moment → Link → Prop) (ms later : List Moment) (s t : System),
      (initial Profile.alarm).Leads ms s ∧ s.central.isConnected ∧
      s.central.connection.link = some ⟨0, none⟩ ∧ closed ms ⟨0, none⟩ ∧ s.Leads later t ∧
      Reliable closed (fun _ _ => some .disconnected) (ms ++ later) ∧ t.Over later 1 := by
  have hruns : ((initial Profile.alarm).run
      [.start .connect, .send 0, .reply 0 0 (.availability true), .send 0,
        .reply 0 0 (.device (.ok ⟨0, none⟩)), .send 0, .reply 0 0 (.done (.ok ())), .send 0,
        .reply 0 0 (.done (.ok ())), .send 0,
        .reply 0 0 (.services (.ok
          [⟨Uuid.alarmService, Profile.alarm.channels.map ChannelSpec.uuid⟩]))]).any
      (fun first => first.1.central.isConnected &&
        first.1.central.connection.link == some ⟨0, none⟩ &&
        first.1.central.connection.session == some 1 &&
        (first.1.run [.push 1 .disconnected]).isSome) = true := by
    decide +kernel
  simp only [Option.any_eq_true, Bool.and_eq_true, beq_iff_eq, Option.isSome_iff_exists]
    at hruns
  obtain ⟨⟨s, seen⟩, hrun, ⟨⟨hconnected, hlink⟩, hlive⟩, ⟨t, now⟩, hpush⟩ := hruns
  obtain ⟨ms, h, hactions, -⟩ := run_iff_leads.mp hrun
  obtain ⟨later, hlater, hactions', -⟩ := run_iff_leads.mp hpush
  have hlength : ms.length = 11 := by simpa using congrArg List.length hactions
  have hlength' : later.length = 1 := by simpa using congrArg List.length hactions'
  -- The link is closed from the last reply on.
  let closed : List Moment → Link → Prop := fun past _ => 11 ≤ past.length
  have hreliable : Reliable closed (fun _ _ => some .disconnected) (ms ++ later) := by
    refine ⟨fun past m rest session item hms htakes => ?_, ?_,
      fun past m rest session link _ _ _ _ => .inl ⟨_, Nat.le_refl _, .inr rfl⟩⟩
    · have hmem : m.action ∈ (ms ++ later).map Moment.action := by
        rw [hms]
        simp
      rw [List.map_append, hactions, hactions'] at hmem
      simp only [List.cons_append, List.nil_append, List.mem_cons, List.not_mem_nil,
        or_false] at hmem
      rcases hmem with h | h | h | h | h | h | h | h | h | h | h | h <;>
        simp only [Moment.Takes, h, Action.item?, reduceCtorEq] at htakes
      exact (Prod.mk.inj (Option.some.inj htakes)).2
    · intro past m between m' rest number ticket link reply hms _ _ _ _ hclosed
      have htotal := congrArg List.length hms
      simp only [List.length_append, List.length_cons] at htotal
      have hpast : 11 ≤ past.length := hclosed
      omega
  obtain ⟨session, hlive', -, hover⟩ := loss_of_leads h hreliable.of_append hconnected hlink
    (show closed ms ⟨0, none⟩ from Nat.le_of_eq hlength.symm)
  obtain rfl : session = 1 := Option.some.inj (hlive'.symm.trans hlive)
  refine ⟨closed, ms, later, s, t, h, hconnected, hlink, Nat.le_of_eq hlength.symm, hlater,
    hreliable, hover later t hlater hreliable (.inl ⟨0, .inr rfl, ?_⟩)⟩
  rw [taken_eq, List.map_append, hactions, hactions']
  decide

end System

end CarrierLink
