import CarrierLink.Proofs.Central.Cycle
import CarrierLink.Proofs.Central.History

/-!
# The turns of a task

A task remembers things about the central while it waits: a connect cycle its stage, a
request the session in which it got its handle. What it remembers is right as long as that
session is live (`CarrierLink.Task.Fits`). This module proves that a task which remembers
rightly does so after each of its turns, and says what the turns of each kind do to the
central: those of a connect cycle are a `CarrierLink.Cycle`, those of a request change the
central as far as a `CarrierLink.Change` that keeps a value and tell the observer nothing but
statuses (`CarrierLink.Turn.OfScript`), and those that close a connection close it or do
nothing. `CarrierLink.Task.answered_of_answer` puts them together.

Between two of its turns others have theirs, and a task has to rely on them.
`CarrierLink.Task.Fits.change` is what it relies on: the only work that could break the
promise to a task is that of the connect cycle of its own session.
-/

namespace CarrierLink

/-! ### What a task remembers -/

/-- The calls that a cycle waits for: one that has stopped hoping closes its link, and no
other closes any. -/
def Stage.Awaits (stage : Stage) (tickets : List Ticket) : Prop :=
  if stage.isOpen then ∀ ticket ∈ tickets, ticket.call.isDisconnect = false
  else ∃ link, tickets = [⟨0, .disconnect link⟩]

/-- The session of a request has begun, and while it is live the connection is set up. -/
def Transfer.Fits (c : Central) (t : Transfer) : Prop :=
  t.session ≤ c.sessions ∧ (c.connection.session = some t.session →
    c.connection.phase = .connected ∧ c.connection.link = some t.link)

/-- What one of two requests remembers. -/
def Slot.Fits (c : Central) : Slot → Prop
  | .pending transfer => transfer.Fits c
  | .settled _ => True

/-- **What a task remembers is right.** -/
def Task.Fits (c : Central) (t : Task) : Prop :=
  match t.work with
  | .attempt session stage =>
    0 < session ∧ session ≤ c.sessions ∧
      (c.connection.session = some session → stage.Matches c.connection) ∧
      stage.Awaits t.unanswered
  | .hangUp session => ∀ session', session = some session' → 0 < session' ∧ session' ≤ c.sessions
  | .single transfer _ => transfer.Fits c
  | .pair first second _ => first.Fits c ∧ second.Fits c
  | .finished _ => t.unanswered = []

/-! ### The others are not disturbed -/

section Frame

variable {session : Nat} {c c' : Central} {own : Bool} {callbacks : List Callback}

theorem Transfer.Fits.change {t : Transfer} (hfits : t.Fits c)
    (h : Change session c own callbacks c') : t.Fits c' := by
  obtain ⟨hbegun, hconnected⟩ := hfits
  refine ⟨Nat.le_trans hbegun h.sessions_le, fun hlive' => ?_⟩
  obtain ⟨hphase, hlink⟩ := hconnected (h.live_of_live hbegun hlive')
  obtain ⟨hphase', hlink'⟩ := h.frame hbegun hlive' fun _ _ => hphase
  exact ⟨hphase'.trans hphase, hlink'.trans hlink⟩

theorem Slot.Fits.change {slot : Slot} (hfits : slot.Fits c)
    (h : Change session c own callbacks c') : slot.Fits c' := by
  cases slot with
  | pending transfer => exact Transfer.Fits.change hfits h
  | settled response => trivial

/-- **A change leaves every task right**, except perhaps the connect cycle that makes it. -/
theorem Task.Fits.change {t : Task} (hfits : t.Fits c) (h : Change session c own callbacks c')
    (hother : own = true → ∀ stage, t.work ≠ .attempt session stage) : t.Fits c' := by
  simp only [Task.Fits] at hfits ⊢
  split at hfits
  next session' stage hwork =>
    obtain ⟨hpos, hbegun, hmatches, hawaits⟩ := hfits
    refine ⟨hpos, Nat.le_trans hbegun h.sessions_le, fun hlive' => ?_, hawaits⟩
    have hframe := h.frame hbegun hlive' fun hown heq =>
      absurd (heq ▸ hwork) (hother hown stage)
    exact (hmatches (h.live_of_live hbegun hlive')).congr hframe.1 hframe.2
  next session' hwork =>
    intro session' hsession
    exact ⟨(hfits session' hsession).1,
      Nat.le_trans (hfits session' hsession).2 h.sessions_le⟩
  next transfer next hwork => exact Transfer.Fits.change hfits h
  next first second next hwork =>
    exact ⟨hfits.1.change h, hfits.2.change h⟩
  next outcome hwork => exact hfits

end Frame

/-! ### The turns of a connect cycle -/

theorem Cycle.fits {session : Nat} {c : Central} {got : Option Link} {why : Error → Prop}
    {turn : Turn} (h : Cycle session c got why turn) (hpos : 0 < session)
    (hbegun : session ≤ c.sessions) : turn.task.Fits turn.central := by
  have hbegun' := Nat.le_trans hbegun h.change.sessions_le
  cases h with
  | goesOn stage hwork hopen _ _ hmatches hcalls =>
    simp only [Task.Fits, hwork, Stage.Awaits, hopen, if_true]
    exact ⟨hpos, hbegun', hmatches, hcalls⟩
  | refuses _ hdead =>
    exact ⟨hpos, hbegun', fun hlive => absurd hlive hdead, _, rfl⟩
  | completes => rfl
  | givesUp _ _ hdead =>
    exact ⟨hpos, hbegun', fun hlive => absurd hlive hdead, _, rfl⟩
  | reports => rfl

/-- A connect cycle stays the cycle of its session, and ends as nothing else. -/
theorem Cycle.session_eq {session session' : Nat} {c : Central} {got : Option Link}
    {why : Error → Prop} {turn : Turn} {stage : Stage} (h : Cycle session c got why turn)
    (hwork : turn.task.work = .attempt session' stage) : session' = session := by
  cases h with
  | goesOn _ hwork' =>
    rw [hwork', Work.attempt.injEq] at hwork
    exact hwork.1.symm
  | refuses => exact (Work.attempt.inj hwork).1.symm
  | completes => exact absurd hwork (by simp [Task.finished])
  | givesUp => exact (Work.attempt.inj hwork).1.symm
  | reports => exact absurd hwork (by simp [Task.finished])

/-! ### The turns of a request -/

theorem Central.target_eq {c : Central} {channel : Channel} {session : Nat} {link : Link}
    {handle : Handle} (h : c.target channel = .ok (session, link, handle)) :
    c.connection.phase = .connected ∧ c.connection.session = some session ∧
      c.connection.link = some link ∧
      ∃ handles, c.connection.handles = some handles ∧ handles.get? channel = some handle := by
  rw [target] at h
  split at h
  next hphase =>
    split at h
    next session' link' handles hsession hlink hhandles =>
      split at h
      next handle' hhandle =>
        obtain ⟨rfl, rfl, rfl⟩ : session' = session ∧ link' = link ∧ handle' = handle := by
          simpa using h
        exact ⟨hphase, hsession, hlink, handles, hhandles, hhandle⟩
      next => exact absurd h (by simp)
    next => exact absurd h (by simp)
  next => exact absurd h (by simp)

theorem Transfer.read_of_check {c : Central} {channel : Channel} {t : Transfer}
    (h : check c (.read channel) = .ok t) :
    c.entry channel = .ok t.spec ∧ t.spec.access.canRead ∧
      c.target channel = .ok (t.session, t.link, t.handle) ∧ t.outgoing = none := by
  obtain ⟨spec, hspec, h⟩ := exists_of_bind_eq_ok h
  split at h
  · exact absurd h (by simp [throw, throwThe, MonadExceptOf.throw, bind, Except.bind])
  next haccess =>
    obtain ⟨⟨session, link, handle⟩, htarget, h⟩ := exists_of_bind_eq_ok h
    obtain rfl := Except.ok.inj h
    exact ⟨hspec, by simpa using haccess, htarget, rfl⟩

theorem Transfer.write_of_check {c : Central} {channel : Channel} {value : Value}
    {t : Transfer} (h : check c (.write channel value) = .ok t) :
    c.entry channel = .ok t.spec ∧ t.spec.access.canWrite ∧
      c.target channel = .ok (t.session, t.link, t.handle) ∧
      ∃ data, t.spec.wire.encode value = .ok data ∧ t.outgoing = some (value, data) := by
  obtain ⟨spec, hspec, h⟩ := exists_of_bind_eq_ok h
  split at h
  · exact absurd h (by simp [throw, throwThe, MonadExceptOf.throw, bind, Except.bind])
  next haccess =>
    obtain ⟨⟨session, link, handle⟩, htarget, h⟩ := exists_of_bind_eq_ok h
    obtain ⟨data, hdata, h⟩ := exists_of_bind_eq_ok h
    obtain rfl := Except.ok.inj h
    refine ⟨hspec, by simpa using haccess, htarget, data, ?_, rfl⟩
    cases hencode : spec.wire.encode value with
    | error e => simp [hencode, Except.mapError] at hdata
    | ok data' =>
      obtain rfl : data' = data := by simpa [hencode, Except.mapError] using hdata
      rfl

/-- A request that has passed its checks belongs to the live session. -/
theorem Transfer.fits_of_check {c : Central} {request : Request} {t : Transfer}
    (hc : c.Coherent) (h : check c request = .ok t) : t.Fits c := by
  have htarget : ∃ channel, c.target channel = .ok (t.session, t.link, t.handle) := by
    cases request with
    | read channel => exact ⟨channel, (read_of_check h).2.2.1⟩
    | write channel value => exact ⟨channel, (write_of_check h).2.2.1⟩
  obtain ⟨channel, htarget⟩ := htarget
  obtain ⟨hphase, hsession, hlink, -⟩ := Central.target_eq htarget
  exact ⟨Nat.le_of_eq (hc.newest _ hsession).2, fun _ => ⟨hphase, hlink⟩⟩

theorem Slot.fits_ofCheck {c : Central} (hc : c.Coherent) (request : Request) :
    (Slot.ofCheck (Transfer.check c request)).Fits c := by
  cases hcheck : Transfer.check c request with
  | error e => trivial
  | ok transfer => exact Transfer.fits_of_check hc hcheck

/-- **What a stretch of a script does**: it leaves the central alone, tells the observer
nothing but statuses, and waits, if at all, with requests that have passed their checks. -/
structure Turn.OfScript (c : Central) (turn : Turn) : Prop where
  central : turn.central = c
  callbacks : ∀ callback ∈ turn.callbacks, callback.isStatus
  fits : turn.task.Fits c
  work : turn.task.cycle? = none

theorem Script.ofScript_run {c : Central} (hc : c.Coherent) (script : Script) :
    Turn.OfScript c (script.run c) := by
  induction script with
  | finish outcome => exact ⟨rfl, by simp [run], rfl, rfl⟩
  | report text level next ih =>
    refine ⟨ih.central, fun callback hmem => ?_, ih.fits, ih.work⟩
    rcases List.mem_cons.mp hmem with rfl | hmem
    · rfl
    · exact ih.callbacks callback hmem
  | exchange request next ih =>
    rw [run]
    split
    next transfer hcheck => exact ⟨rfl, by simp, Transfer.fits_of_check hc hcheck, rfl⟩
    next e _ => exact ih (.error e)
  | exchangeBoth first second next ih =>
    rw [run]
    split
    next r₁ r₂ _ _ => exact ih r₁ r₂
    next =>
      exact ⟨rfl, by simp, ⟨Slot.fits_ofCheck hc first, Slot.fits_ofCheck hc second⟩, rfl⟩

theorem Slot.ofScript_proceed {c : Central} (hc : c.Coherent) {first second : Slot}
    (hfirst : first.Fits c) (hsecond : second.Fits c) (next : Response → Response → Script)
    (rest : Task) : Turn.OfScript c (Slot.proceed c first second next rest) := by
  cases first with
  | pending transfer => exact ⟨rfl, by simp [proceed], ⟨hfirst, hsecond⟩, rfl⟩
  | settled r₁ =>
    cases second with
    | pending transfer => exact ⟨rfl, by simp [proceed], ⟨hfirst, hsecond⟩, rfl⟩
    | settled r₂ => exact (next r₁ r₂).ofScript_run hc

/-- **What the conclusion of a request does** to a central. -/
theorem Transfer.conclude_change {c c' : Central} {t : Transfer} {reply : Reply}
    {response : Response} (hfits : t.Fits c) (h : t.conclude c reply = some (c', response)) :
    Change t.session c false [] c' := by
  have hrests : Change t.session c false [] c := .rests (by simp)
  simp only [conclude] at h
  split at h
  · exact (Prod.mk.inj (Option.some.inj h)).1 ▸ hrests
  · split at h
    next hlive =>
      have hlive := Central.isLive_iff.mp hlive
      split at h
      · obtain ⟨rfl, -⟩ := Prod.mk.inj (Option.some.inj h)
        exact .keeps hlive (.inr (hfits.2 hlive).1) (by simp)
      · exact (Prod.mk.inj (Option.some.inj h)).1 ▸ hrests
    next => exact (Prod.mk.inj (Option.some.inj h)).1 ▸ hrests
  · exact (Prod.mk.inj (Option.some.inj h)).1 ▸ hrests
  · split at h
    next hlive =>
      have hlive := Central.isLive_iff.mp hlive
      obtain ⟨rfl, -⟩ := Prod.mk.inj (Option.some.inj h)
      rw [keep]
      split
      · exact .keeps hlive (.inr (hfits.2 hlive).1) (by simp)
      · exact hrests
    next => exact (Prod.mk.inj (Option.some.inj h)).1 ▸ hrests
  · exact absurd h (by simp)

/-- **A reply that comes too late fails its request.** -/
theorem Transfer.conclude_of_dead {c c' : Central} {t : Transfer} {reply : Reply}
    {response : Response} (hdead : c.connection.session ≠ some t.session)
    (h : t.conclude c reply = some (c', response)) : c' = c ∧ ∃ e, response = .error e := by
  have hnot : ¬c.isLive t.session = true := mt Central.isLive_iff.mp hdead
  have hsame (e : Error) (h : some (c, .error e) = some (c', response)) :
      c' = c ∧ ∃ e, response = .error e := by
    obtain ⟨rfl, rfl⟩ := Prod.mk.inj (Option.some.inj h)
    exact ⟨rfl, e, rfl⟩
  simp only [conclude, if_neg hnot] at h
  split at h
  · exact hsame _ h
  · exact hsame _ h
  · exact hsame _ h
  · exact hsame _ h
  · exact absurd h (by simp)

/-! ### The turns that close a connection -/

theorem Central.Coherent.close_change {c : Central} (hc : c.Coherent) (session : Nat) :
    Change session c false (c.close session).2 (c.close session).1 := by
  by_cases hlive : c.connection.session = some session
  · rw [hc.close_of_live hlive]
    exact .closes hlive
  · rw [Central.close_of_dead hlive]
    exact .rests (by simp)

/-- Only the pump of the live session runs. -/
theorem Central.Coherent.live_of_mem_pumps {c : Central} (hc : c.Coherent) {pump : Pump}
    (hpump : pump ∈ c.pumps) : c.connection.session = some pump.session := by
  rw [hc.running, Connection.running] at hpump
  split at hpump
  next session link hregistered hlink =>
    obtain rfl : pump = ⟨session, link⟩ := by simpa using hpump
    cases hsession : c.connection.session with
    | none =>
      rw [hc.idle hsession] at hregistered
      exact absurd hregistered (by simp)
    | some live =>
      have hshape := hc.shaped live hsession
      simp only [Connection.Shaped] at hshape
      split at hshape
      · exact hshape.elim
      · rw [hshape.1] at hregistered
        exact absurd hregistered (by simp)
      · rw [hshape.2.1] at hregistered
        exact hregistered
      · rw [hshape.2.1] at hregistered
        exact hregistered
      · rw [hshape.2.1] at hregistered
        exact hregistered
  next => exact absurd hpump (by simp)

/-- **What the pump of the live session does** with an event. -/
theorem Central.Coherent.receive_change {c : Central} {session : Nat} (hc : c.Coherent)
    (hlive : c.connection.session = some session) (event : LinkEvent) :
    Change session c false (c.receive session event).2 (c.receive session event).1 ∧
      ((c.receive session event).2 = Callback.teardown → event = .disconnected) := by
  cases event with
  | disconnected =>
    refine ⟨?_, fun _ => rfl⟩
    simp only [receive, hc.close_of_live hlive]
    exact .closes hlive
  | notification characteristic data =>
    rw [receive, route, if_pos (isLive_iff.mpr hlive)]
    split
    next channel value hdispatch =>
      -- There are routes, and therefore handles: values may be kept.
      rw [deliver_of_live hlive]
      refine ⟨.keeps hlive ?_ (by simp [Callback.isValue]), by simp [Callback.teardown]⟩
      have hshape := hc.shaped session hlive
      simp only [Connection.Shaped] at hshape
      split at hshape
      · exact hshape.elim
      · simp [hshape.2.2.1] at hdispatch
      · simp [hshape.2.2.2.1] at hdispatch
      · exact .inl (by assumption)
      · exact .inr (by assumption)
    next => exact ⟨.rests (by simp), by simp [Callback.teardown]⟩

/-! ### The turns after a reply -/

theorem Task.attempt?_eq_some {t : Task} {session : Nat} :
    t.attempt? = some session ↔ ∃ stage, t.work = .attempt session stage := by
  cases hwork : t.work <;> simp [attempt?, hwork]

theorem Task.cycle?_of_attempt? {t : Task} {session : Nat} (h : t.attempt? = some session) :
    t.cycle? = some session := by
  obtain ⟨stage, hwork⟩ := attempt?_eq_some.mp h
  simp [cycle?, hwork]

/-- It makes no difference which of its calls a task has already sent. -/
theorem Task.Fits.of_perm {c : Central} {t t' : Task} (hfits : t.Fits c)
    (hwork : t'.work = t.work) (hperm : t'.unanswered.Perm t.unanswered) : t'.Fits c := by
  simp only [Fits, hwork] at hfits ⊢
  split at hfits
  next session stage _ =>
    refine ⟨hfits.1, hfits.2.1, hfits.2.2.1, ?_⟩
    have hawaits := hfits.2.2.2
    simp only [Stage.Awaits] at hawaits ⊢
    split at hawaits
    next hopen =>
      rw [if_pos hopen]
      exact fun ticket hmem => hawaits ticket (hperm.mem_iff.mp hmem)
    next hclosed =>
      obtain ⟨link, hlink⟩ := hawaits
      rw [if_neg hclosed]
      exact ⟨link, List.perm_singleton.mp (hlink ▸ hperm)⟩
  next => exact hfits
  next => exact hfits
  next => exact hfits
  next => exact List.perm_nil.mp (hfits ▸ hperm)

section Attempt

variable {session slot : Nat} {c : Central} {t : Task} {stage : Stage} {reply : Reply}
  {turn : Turn}

/-- A reply to a connect cycle is a reply to its stage. -/
theorem Task.answer_of_attempt (hwork : t.work = .attempt session stage)
    (h : t.answer c slot reply = some turn) :
    t.sent ≠ [] ∧ ∃ rest : Task, rest.work = .attempt session stage ∧
      (∀ ticket ∈ rest.unanswered, ticket ∈ t.unanswered) ∧
      Attempt.answer c session stage rest slot reply = some turn := by
  rw [answer] at h
  split at h
  next hsent =>
    simp only [hwork] at h
    refine ⟨fun hnone => by simp [hnone] at hsent, _, rfl, fun ticket hmem => ?_, h⟩
    simp only [unanswered, List.mem_append, List.mem_filter] at hmem ⊢
    exact hmem.imp_right And.left
  next => exact absurd h (by simp)

theorem Task.eq_searching_of_answer {link : Link} (hwork : t.work = .attempt session stage)
    (h : t.answer c slot reply = some turn) (hlink : reply.link? = some link) :
    stage = .searching := by
  obtain ⟨-, rest, -, -, hanswer⟩ := answer_of_attempt hwork h
  exact Attempt.eq_searching_of_answer hanswer hlink

/-- **A reply to a cycle that still hopes to connect.** -/
theorem Task.cycle_of_answer {why : Error → Prop} (hc : c.Coherent) (hfits : t.Fits c)
    (hwork : t.work = .attempt session stage) (hopen : stage.isOpen)
    (h : t.answer c slot reply = some turn) (hown : ∀ e, e ≠ .busy → why e)
    (hreply : ∀ e, reply.error? = some e → why e)
    (hfailed : ∀ e, stage.failure? = some e → why e) :
    Cycle session c (reply.link?.or stage.link?) why turn := by
  obtain ⟨-, rest, hrest, hsub, hanswer⟩ := answer_of_attempt hwork h
  simp only [Fits, hwork, Stage.Awaits, hopen, if_true] at hfits
  exact Attempt.answer_cycle hanswer hopen hc hfits.2.2.1 hrest
    (fun ticket hmem => hfits.2.2.2 ticket (hsub ticket hmem)) hown hreply hfailed

/-- **A reply to a cycle that has stopped hoping**, which has then made all its calls. -/
theorem Task.report_of_answer (hfits : t.Fits c) (hwork : t.work = .attempt session stage)
    (hclosed : stage.isOpen = false) (h : t.answer c slot reply = some turn) :
    t.queued = [] ∧ c.connection.session ≠ some session ∧
      turn = Attempt.report c (stage.failure?.getD .notConnected) := by
  obtain ⟨hsent, rest, -, -, hanswer⟩ := answer_of_attempt hwork h
  simp only [Fits, hwork] at hfits
  obtain ⟨-, -, hmatches, hawaits⟩ := hfits
  have hdead : c.connection.session ≠ some session := fun hlive => by
    simp [(hmatches hlive).isOpen] at hclosed
  refine ⟨?_, hdead, Attempt.answer_of_closed hanswer hclosed hdead⟩
  rw [Stage.Awaits, if_neg (by simp [hclosed])] at hawaits
  obtain ⟨link, hlink⟩ := hawaits
  rw [unanswered, List.append_eq_singleton_iff] at hlink
  -- The one call that is left has been answered just now, so it is not queued any more.
  rcases hlink with ⟨hqueued, -⟩ | ⟨-, hnone⟩
  · exact hqueued
  · exact absurd hnone hsent

end Attempt

/-- **What a turn after a reply does**: the work of a connect cycle, the closing of a
connection, or the conclusion of a request with the script that goes on from it. -/
inductive Task.Answered (c : Central) (t : Task) (slot : Nat) : Turn → Prop
  | attempt {session : Nat} {turn : Turn} (hattempt : t.attempt? = some session)
      (hchange : Change session c true turn.callbacks turn.central)
      (hfits : turn.task.Fits turn.central)
      (hstays : ∀ session', turn.task.attempt? = some session' → session' = session) :
      Task.Answered c t slot turn
  | hangUp {session : Option Nat} (hwork : t.work = .hangUp session) :
      Task.Answered c t slot (CarrierLink.hangUp c session)
  | request {transfer : Transfer} {c' : Central} {turn : Turn}
      (htransfer : t.transfer? slot = some transfer) (hrequest : t.cycle? = none)
      (hchange : Change transfer.session c false [] c') (hscript : Turn.OfScript c' turn) :
      Task.Answered c t slot turn

theorem Task.answered_of_answer {c : Central} {t : Task} {slot : Nat} {reply : Reply}
    {turn : Turn} (hc : c.Coherent) (hfits : t.Fits c)
    (h : t.answer c slot reply = some turn) : t.Answered c slot turn := by
  have hfits' := hfits
  simp only [Fits] at hfits'
  split at hfits'
  next session stage hwork =>
    obtain ⟨hpos, hbegun, -⟩ := hfits'
    have hattempt : t.attempt? = some session := attempt?_eq_some.mpr ⟨stage, hwork⟩
    cases hopen : stage.isOpen with
    | true =>
      have hcycle : Cycle session c _ (fun _ => True) turn :=
        cycle_of_answer hc hfits hwork hopen h (fun _ _ => trivial) (fun _ _ => trivial)
          (fun _ _ => trivial)
      refine .attempt hattempt hcycle.change (hcycle.fits hpos hbegun) fun session' h' => ?_
      obtain ⟨stage', hwork'⟩ := attempt?_eq_some.mp h'
      exact hcycle.session_eq hwork'
    | false =>
      obtain ⟨-, -, rfl⟩ := report_of_answer hfits hwork hopen h
      refine .attempt hattempt (.rests ?_) rfl fun session' h' => ?_
      · simp [Attempt.report, Callback.isWarning]
      · exact absurd h' (by simp [Attempt.report, finished, attempt?])
  next session hwork =>
    simp only [answer, hwork, Option.ite_none_right_eq_some, Option.some.injEq] at h
    exact h.2 ▸ .hangUp hwork
  next transfer script hwork =>
    simp only [answer, hwork, Option.ite_none_right_eq_some] at h
    obtain ⟨⟨c', r⟩, hconclude, rfl⟩ := Option.map_eq_some_iff.mp h.2
    have hchange := Transfer.conclude_change hfits' hconclude
    exact .request (by simp [transfer?, hwork]) (by simp [cycle?, hwork]) hchange
      ((script r).ofScript_run (hchange.coherent hc))
  next first second script hwork =>
    simp only [answer, hwork, Option.ite_none_right_eq_some] at h
    obtain ⟨-, h⟩ := h
    split at h
    next =>
      obtain ⟨⟨c', r⟩, hconclude, rfl⟩ := Option.map_eq_some_iff.mp h
      have hchange := Transfer.conclude_change hfits'.1 hconclude
      have hsettled : (Slot.settled r).Fits c' := trivial
      exact .request (by simp [transfer?, hwork]) (by simp [cycle?, hwork]) hchange
        (Slot.ofScript_proceed (hchange.coherent hc) hsettled (hfits'.2.change hchange) _ _)
    next transfer =>
      obtain ⟨⟨c', r⟩, hconclude, rfl⟩ := Option.map_eq_some_iff.mp h
      have hchange := Transfer.conclude_change hfits'.2 hconclude
      have hsettled : (Slot.settled r).Fits c' := trivial
      have htransfer : t.transfer? 1 = some transfer := by
        cases first <;> simp [transfer?, hwork]
      exact .request htransfer (by simp [cycle?, hwork]) hchange
        (Slot.ofScript_proceed (hchange.coherent hc) (hfits'.1.change hchange) hsettled _ _)
    next => exact absurd h (by simp)
  next outcome hwork => exact absurd h (by simp [answer, hwork])

/-- No reply turns a task into the connect cycle of another session. -/
theorem Task.Answered.attempt? {c : Central} {t : Task} {slot : Nat} {turn : Turn}
    {session : Nat} (h : t.Answered c slot turn)
    (hattempt : turn.task.attempt? = some session) : t.attempt? = some session := by
  cases h with
  | attempt hattempt' _ _ hstays => rw [hstays session hattempt, hattempt']
  | hangUp => exact absurd hattempt (by simp [CarrierLink.hangUp, finished, Task.attempt?])
  | request _ _ _ hscript =>
    exact absurd (cycle?_of_attempt? hattempt) (by simp [hscript.work])

/-- A new connect cycle has a new session. -/
theorem Task.sessions_lt_of_start {c : Central} (hc : c.Coherent) {operation : Operation}
    {session : Nat} (h : (start c operation).task.attempt? = some session) :
    c.sessions < session := by
  cases operation with
  | connect =>
    simp only [start] at h
    split at h
    next session' c' hopen =>
      obtain ⟨-, hsession, -⟩ := Change.openSession_eq hopen
      obtain rfl : session' = session := by simpa [attempt?, asking] using h
      omega
    next => exact absurd h (by simp [finished, attempt?])
  | disconnect =>
    simp only [start] at h
    split at h
    · exact absurd h (by simp [asking, attempt?])
    · exact absurd h (by simp [CarrierLink.hangUp, finished, attempt?])
  | run script =>
    exact absurd (cycle?_of_attempt? h) (by simp [start, (script.ofScript_run hc).work])

end CarrierLink
