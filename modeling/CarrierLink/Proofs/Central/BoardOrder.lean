import CarrierLink.Proofs.Central.LostLink
import CarrierLink.Proofs.Central.Samples

/-!
# Samples in the order of the board

A central keeps the sample of a channel that has come last, and does not ask how old it is.
Pushes come in the order in which the board has sent them, but a read that is out can be
overtaken by a push and a push by a read: their replies take different ways. This module says
what is known of a channel in terms of the board's own order.

`CarrierLink.Sampling` is what is assumed of a board behind a history: each sample is a value
that the board has had at some time, the reply to a call at a time between the call and the
reply, and pushes are taken in order. The sample that the board has taken last is then known
in the end, unless one that is older was still on its way when it came
(`CarrierLink.Sampling.UnderWay`) and has come after it
(`CarrierLink.System.newest_or_overtaken_of_leads`). Both happens: a late push replaces what
has been read since (`CarrierLink.older_push_kept`), and a late reply replaces a newer push
(`CarrierLink.older_reply_kept`).
-/

namespace CarrierLink

/-! ### A reply answers a call -/

section Sent

variable {session slot : Nat} {c : Central} {link : Link} {reply : Reply} {turn : Turn}
  {telemetry : List (ChannelSpec × Handle)}

namespace Attempt

@[simp] theorem sent_fail (got : Option Link) (e : Error) :
    (fail c session got e).task.sent = [] := by
  rw [fail_eq]
  split <;> rfl

@[simp] theorem sent_complete : (complete c session link).task.sent = [] := by
  rw [complete]
  split <;> simp [Task.finished]

@[simp] theorem sent_startReading : (startReading c session link telemetry).task.sent = [] := by
  rw [startReading]
  split <;> simp [Task.askingAll]

@[simp] theorem sent_startSubscribing :
    (startSubscribing c session link telemetry).task.sent = [] := by
  rw [startSubscribing]
  split <;> simp [Task.askingAll]

@[simp] theorem sent_startDiscovering : (startDiscovering c session link).task.sent = [] := by
  rw [startDiscovering]
  split <;> simp [next, Task.asking]

@[simp] theorem sent_resolve (services : List Service) :
    (resolve c session link services).task.sent = [] := by
  rw [resolve]
  split
  · simp
  · split <;> simp

theorem sent_proceedSubscribing {failed : Option (Nat × Error)} {rest : Task} :
    (proceedSubscribing c session link telemetry failed rest).task.sent ⊆ rest.sent := by
  simp only [proceedSubscribing]
  split
  · split <;> simp
  · split <;> simp

/-- A turn of a cycle leaves no call out that was not out before. -/
theorem sent_answer {stage : Stage} {rest : Task}
    (h : answer c session stage rest slot reply = some turn) : turn.task.sent ⊆ rest.sent := by
  have hnone {turn : Turn} (hsent : turn.task.sent = []) : turn.task.sent ⊆ rest.sent := by
    rw [hsent]
    exact List.nil_subset _
  simp only [answer] at h
  -- Only a cycle that waits for several calls at once goes on with some of them.
  split at h
  next available =>
    split at h
    · obtain rfl := Option.some.inj h
      exact hnone rfl
    · obtain rfl := Option.some.inj h
      exact hnone (sent_fail _ _)
  next link =>
    obtain rfl := Option.some.inj h
    exact hnone (sent_fail _ _)
  next link =>
    split at h
    · obtain rfl := Option.some.inj h
      exact hnone rfl
    · obtain rfl := Option.some.inj h
      exact hnone rfl
  next =>
    obtain rfl := Option.some.inj h
    exact hnone (sent_fail _ _)
  next =>
    obtain rfl := Option.some.inj h
    exact hnone (sent_fail _ _)
  next =>
    obtain rfl := Option.some.inj h
    exact hnone rfl
  next =>
    obtain rfl := Option.some.inj h
    exact hnone (sent_fail _ _)
  next =>
    obtain rfl := Option.some.inj h
    exact hnone sent_startDiscovering
  next =>
    obtain rfl := Option.some.inj h
    exact hnone (sent_fail _ _)
  next =>
    obtain rfl := Option.some.inj h
    exact hnone (sent_resolve _)
  next =>
    obtain rfl := Option.some.inj h
    exact sent_proceedSubscribing
  next =>
    obtain ⟨_, -, h⟩ := Option.bind_eq_some_iff.mp h
    obtain rfl := Option.some.inj h
    simp only [Turn.after]
    split
    · exact hnone sent_complete
    · exact List.Subset.refl _
  next =>
    obtain rfl := Option.some.inj h
    exact hnone rfl
  next => exact absurd h (by simp)

end Attempt

theorem Script.sent_run (script : Script) (c : Central) : (script.run c).task.sent = [] := by
  induction script with
  | finish outcome => rfl
  | report text level next ih => exact ih
  | exchange request next ih =>
    rw [run]
    split
    · rfl
    next e _ => exact ih (.error e)
  | exchangeBoth first second next ih =>
    rw [run]
    split
    next r₁ r₂ _ _ => exact ih r₁ r₂
    · rfl

theorem Slot.sent_proceed (first second : Slot) (next : Response → Response → Script)
    (rest : Task) : (proceed c first second next rest).task.sent ⊆ rest.sent := by
  cases first with
  | pending transfer => exact List.Subset.refl _
  | settled r₁ =>
    cases second with
    | pending transfer => exact List.Subset.refl _
    | settled r₂ =>
      rw [proceed, Script.sent_run]
      exact List.nil_subset _

theorem Task.sent_start (c : Central) (operation : Operation) :
    (start c operation).task.sent = [] := by
  cases operation with
  | connect =>
    rw [start]
    split <;> rfl
  | disconnect =>
    rw [start]
    split <;> rfl
  | run script => exact script.sent_run c

/-- **A turn leaves no call out that was not out before.** -/
theorem Task.sent_of_answer {t : Task} (h : t.answer c slot reply = some turn) :
    turn.task.sent ⊆ t.sent := by
  have hrest : (t.without slot).sent ⊆ t.sent := List.filter_sublist.subset
  simp only [answer, Option.ite_none_right_eq_some] at h
  obtain ⟨-, h⟩ := h
  split at h
  · exact List.Subset.trans (Attempt.sent_answer h) hrest
  · obtain rfl := Option.some.inj h
    exact List.nil_subset _
  · obtain ⟨⟨c', r⟩, -, rfl⟩ := Option.map_eq_some_iff.mp h
    rw [Script.sent_run]
    exact List.nil_subset _
  · split at h
    · obtain ⟨⟨c', r⟩, -, rfl⟩ := Option.map_eq_some_iff.mp h
      exact List.Subset.trans (Slot.sent_proceed _ _ _ _) hrest
    · obtain ⟨⟨c', r⟩, -, rfl⟩ := Option.map_eq_some_iff.mp h
      exact List.Subset.trans (Slot.sent_proceed _ _ _ _) hrest
    · exact absurd h (by simp)
  · exact absurd h (by simp)

/-- **Every call that is out has been sent.** -/
theorem System.exists_sends {profile : Profile} {ms : List Moment} {s : System}
    (h : (initial profile).Leads ms s) {number : Nat} {task : Task} {ticket : Ticket}
    (htask : s.tasks[number]? = some task) (hmem : ticket ∈ task.sent) :
    ∃ m ∈ ms, m.Sends number ticket := by
  refine h.induction (motive := fun ms s => ∀ (number : Nat) (task : Task) (ticket : Ticket),
    s.tasks[number]? = some task → ticket ∈ task.sent → ∃ m ∈ ms, m.Sends number ticket)
    (by simp [initial]) (fun past m _ hstep ih number task ticket htask hmem => ?_)
    number task ticket htask hmem
  have hpast (task₀ : Task) (htask₀ : m.before.tasks[number]? = some task₀)
      (hmem₀ : ticket ∈ task₀.sent) : ∃ m' ∈ past ++ [m], m'.Sends number ticket := by
    obtain ⟨m', hm', hsends⟩ := ih number task₀ ticket htask₀ hmem₀
    exact ⟨m', List.mem_append_left _ hm', hsends⟩
  cases haction : m.action with
  | start operation =>
    obtain ⟨hafter, -, -⟩ := step_start (haction ▸ hstep)
    rw [hafter] at htask
    rcases eq_of_getElem?_concat htask with ⟨-, rfl⟩ | htask
    · exact absurd hmem (by simp [Task.sent_start])
    · exact hpast task htask hmem
  | send number' =>
    obtain ⟨task₀, ticket', queued, htask₀, hqueued, hafter, -⟩ := step_send (haction ▸ hstep)
    rw [hafter] at htask
    rcases eq_of_getElem?_set htask with ⟨rfl, rfl⟩ | ⟨-, htask⟩
    · rcases List.mem_append.mp hmem with hmem | hmem
      · exact hpast task₀ htask₀ hmem
      · obtain rfl := List.mem_singleton.mp hmem
        exact ⟨m, by simp, haction, task₀, queued, htask₀, hqueued⟩
    · exact hpast task htask hmem
  | reply number' slot reply =>
    obtain ⟨task₀, turn, htask₀, hturn, hafter, -⟩ := step_reply (haction ▸ hstep)
    rw [hafter] at htask
    rcases eq_of_getElem?_set htask with ⟨rfl, rfl⟩ | ⟨-, htask⟩
    · exact hpast task₀ htask₀ (Task.sent_of_answer hturn hmem)
    · exact hpast task htask hmem
  | push session event =>
    obtain ⟨-, hafter, -⟩ := step_push (haction ▸ hstep)
    rw [hafter] at htask
    exact hpast task htask hmem
  | endOfStream session =>
    obtain ⟨-, hafter, -⟩ := step_push (step_endOfStream (haction ▸ hstep))
    rw [hafter] at htask
    exact hpast task htask hmem

/-- **Every reply answers a call that has been sent.** -/
theorem System.exists_sends_of_reply {profile : Profile} {past : List Moment} {m : Moment}
    (hpast : (initial profile).Leads past m.before)
    (hstep : m.before.step m.action = some (m.after, m.seen)) {number : Nat}
    (haction : m.action = .reply number slot reply) :
    ∃ m' ∈ past, ∃ ticket, m'.Sends number ticket ∧ ticket.slot = slot := by
  rw [haction] at hstep
  obtain ⟨task, turn, htask, hturn, -⟩ := step_reply hstep
  obtain ⟨ticket, hmem, hslot⟩ := Task.exists_sent_of_answer hturn
  obtain ⟨m', hm', hsends⟩ := exists_sends hpast htask hmem
  exact ⟨m', hm', ticket, hsends, hslot⟩

end Sent

/-! ### The board behind a history -/

/-- A value of a channel comes to a session with the moment at a place of a history. -/
def SampleAt (ms : List Moment) (session : Nat) (channel : Channel) (i : Nat) (value : Value) :
    Prop :=
  ∃ m, ms[i]? = some m ∧ m.value? session channel = some value

/-- The moment at a place is a push. -/
def PushAt (ms : List Moment) (i : Nat) : Prop :=
  ∃ m session event, ms[i]? = some m ∧ m.action = .push session event

/-- A task sends the call of a slot with the moment at a place. -/
def SendsAt (ms : List Moment) (number slot j : Nat) : Prop :=
  ∃ m ticket, ms[j]? = some m ∧ m.Sends number ticket ∧ ticket.slot = slot

/-- The moment at a place is the reply to the call that was sent with the moment at another. -/
def AskedAt (ms : List Moment) (i j : Nat) : Prop :=
  ∃ m number slot reply, ms[i]? = some m ∧ m.action = .reply number slot reply ∧ j < i ∧
    SendsAt ms number slot j ∧ ∀ k, j < k → k < i → ¬SendsAt ms number slot k

/-- **The board behind a history**, as far as a channel is concerned, and what is assumed of
it: samples are what the board has had when it took them, the reply to a call after the call
was sent, and pushes come in order. -/
structure Sampling (ms : List Moment) (session : Nat) (channel : Channel) where
  /-- The time of each moment. -/
  clock : Nat → Nat
  /-- The time at which the board has taken the sample of a moment. -/
  taken : Nat → Nat
  /-- What the board has at any time. -/
  held : Nat → Value
  clock_mono : ∀ i j, i ≤ j → clock i ≤ clock j
  held_taken : ∀ i value, SampleAt ms session channel i value → held (taken i) = value
  taken_le : ∀ i value, SampleAt ms session channel i value → taken i ≤ clock i
  le_taken : ∀ i j value, SampleAt ms session channel i value → AskedAt ms i j →
    clock j ≤ taken i
  pushes : ∀ i j v w, i ≤ j → SampleAt ms session channel i v →
    SampleAt ms session channel j w → PushAt ms i → PushAt ms j → taken i ≤ taken j

section Sampling

variable {ms : List Moment} {session : Nat} {channel : Channel} {value : Value}

/-- A sample is the newest when the board has taken none after it. -/
def Sampling.Newest (sampling : Sampling ms session channel) (i : Nat) : Prop :=
  ∀ j w, SampleAt ms session channel j w → sampling.taken j ≤ sampling.taken i

/-- **A sample was on its way when another came**: it is the reply to a call that was out, or
it is a push, and the other one a reply that came when the board had already sent it. -/
def Sampling.UnderWay (sampling : Sampling ms session channel) (late early : Nat) : Prop :=
  early < late ∧ ((∃ j < early, AskedAt ms late j) ∨
    PushAt ms late ∧ ¬PushAt ms early ∧ sampling.taken late < sampling.clock early)

/-- The sample that has come last. -/
theorem exists_last_sample (hsample : ∃ i value, SampleAt ms session channel i value) :
    ∃ last value, SampleAt ms session channel last value ∧
      (samples ms session channel).getLast? = some value ∧
      ∀ i w, SampleAt ms session channel i w → i ≤ last := by
  induction ms using List.reverseRecOn with
  | nil =>
    obtain ⟨i, value, m, hm, -⟩ := hsample
    exact absurd hm (by simp)
  | append_singleton past m ih =>
    -- It comes with the last moment, or it is the last of those before.
    have hsplit {i : Nat} {w : Value} (h : SampleAt (past ++ [m]) session channel i w) :
        SampleAt past session channel i w ∨
          i = past.length ∧ m.value? session channel = some w := by
      obtain ⟨m', hm', hvalue⟩ := h
      rw [List.getElem?_append] at hm'
      split at hm'
      · exact .inl ⟨m', hm', hvalue⟩
      · obtain ⟨hzero, hsame⟩ := List.getElem?_eq_some_iff.mp hm'
        simp only [List.length_cons, List.length_nil] at hzero
        have hi : i = past.length := by omega
        subst hi
        simp only [Nat.sub_self, List.getElem_cons_zero] at hsame
        exact .inr ⟨rfl, hsame ▸ hvalue⟩
    have hlt {i : Nat} {w : Value} (h : SampleAt past session channel i w) : i < past.length := by
      obtain ⟨m', hm', -⟩ := h
      exact (List.getElem?_eq_some_iff.mp hm').1
    rw [samples_snoc]
    cases hlast : m.value? session channel with
    | some value =>
      refine ⟨past.length, value, ⟨m, by simp, hlast⟩, by simp, fun i w h => ?_⟩
      rcases hsplit h with h | ⟨rfl, -⟩
      · exact Nat.le_of_lt (hlt h)
      · exact Nat.le_refl _
    | none =>
      have hpast {i : Nat} {w : Value} (h : SampleAt (past ++ [m]) session channel i w) :
          SampleAt past session channel i w := by
        rcases hsplit h with h | ⟨-, hvalue⟩
        · exact h
        · exact absurd (hvalue.symm.trans hlast) (by simp)
      obtain ⟨i, w, h⟩ := hsample
      obtain ⟨last, value, ⟨m', hm', hvalue⟩, hget, hall⟩ := ih ⟨i, w, hpast h⟩
      refine ⟨last, value, ⟨m', ?_, hvalue⟩, by simpa using hget, fun i w h => hall i w (hpast h)⟩
      rw [List.getElem?_append_left (hlt ⟨m', hm', hvalue⟩), hm']

/-- The last number below a bound that has a property. -/
theorem exists_last_below {P : Nat → Prop} {i j : Nat} (hlt : j < i) (hj : P j) :
    ∃ last < i, P last ∧ ∀ k, last < k → k < i → ¬P k := by
  induction i with
  | zero => exact absurd hlt (Nat.not_lt_zero j)
  | succ i ih =>
    by_cases hi : P i
    · exact ⟨i, Nat.lt_succ_self i, hi, fun k hk hki => absurd hk (by omega)⟩
    · have hne : j ≠ i := fun h => hi (h ▸ hj)
      obtain ⟨last, hlast, hP, hnone⟩ := ih (by omega)
      refine ⟨last, Nat.lt_succ_of_lt hlast, hP, fun k hk hki => ?_⟩
      rcases Nat.lt_succ_iff_lt_or_eq.mp hki with hki | rfl
      · exact hnone k hk hki
      · exact hi

namespace System

variable {profile : Profile} {s : System}

/-- A sample comes as a push or as the reply to a call that has been sent. -/
theorem push_or_asked (h : (initial profile).Leads ms s) {i : Nat}
    (hsample : SampleAt ms session channel i value) : PushAt ms i ∨ ∃ j, AskedAt ms i j := by
  obtain ⟨m, hm, hvalue⟩ := hsample
  obtain ⟨hlt, hget⟩ := List.getElem?_eq_some_iff.mp hm
  have hms : ms = ms.take i ++ m :: ms.drop (i + 1) := by
    rw [← hget, List.getElem_cons_drop, List.take_append_drop]
  rw [hms] at h
  obtain ⟨hpast, hstep, -⟩ := h.split
  obtain ⟨sample, hsome, -⟩ := Option.bind_eq_some_iff.mp hvalue
  rw [Moment.sample?, Option.ite_none_right_eq_some] at hsome
  cases haction : m.action with
  | push session' event => exact .inl ⟨m, session', event, hm, haction⟩
  | reply number slot reply =>
    obtain ⟨m', hmem, ticket, hsends, rfl⟩ := exists_sends_of_reply hpast hstep haction
    obtain ⟨j, hj⟩ := List.mem_iff_getElem?.mp hmem
    have hji : j < i := by
      have hj' := (List.getElem?_eq_some_iff.mp hj).1
      rw [List.length_take] at hj'
      omega
    rw [List.getElem?_take_of_lt hji] at hj
    have hsent : SendsAt ms number ticket.slot j := ⟨m', ticket, hj, hsends, rfl⟩
    obtain ⟨last, hlt, hlast, hnone⟩ := exists_last_below hji hsent
    exact .inr ⟨last, m, number, ticket.slot, reply, hm, haction, hlt, hlast, hnone⟩
  | _ => exact absurd hsome.2 (by simp [haction, sample?])

/-- **What is known of a channel**, in the order of the board. It is the value of the sample
that has come last, and so the value of the newest one, unless an older sample has come after
the newest: then it was on its way when the newest came, and it is what is kept. -/
theorem newest_or_overtaken_of_leads (h : (initial profile).Leads ms s)
    (hlive : s.central.connection.session = some session) (sampling : Sampling ms session channel)
    {newest : Nat} (hsample : SampleAt ms session channel newest value)
    (hnewest : sampling.Newest newest) :
    ∃ last old, SampleAt ms session channel last old ∧
      (∀ i w, SampleAt ms session channel i w → i ≤ last) ∧
      s.central.lastValue channel = some old ∧
      (old = value ∨
        sampling.taken last < sampling.taken newest ∧ sampling.UnderWay last newest) := by
  obtain ⟨last, old, hlast, hget, hall⟩ := exists_last_sample ⟨newest, value, hsample⟩
  refine ⟨last, old, hlast, hall, (lastValue_of_leads h hlive channel).trans hget, ?_⟩
  rcases Nat.lt_or_ge (sampling.taken last) (sampling.taken newest) with hlt | hge
  · refine .inr ⟨hlt, ?_, ?_⟩
    · refine Nat.lt_of_le_of_ne (hall newest value hsample) ?_
      rintro rfl
      exact absurd hlt (Nat.lt_irrefl _)
    · have hcame := sampling.taken_le newest value hsample
      rcases push_or_asked h hlast with hpush | ⟨j, hasked⟩
      · refine .inr ⟨hpush, fun hpushed => ?_, Nat.lt_of_lt_of_le hlt hcame⟩
        exact absurd hlt (Nat.not_lt.mpr
          (sampling.pushes _ _ _ _ (hall newest value hsample) hsample hlast hpushed hpush))
      · -- The older reply was taken after its call, and the call is thus older still.
        refine .inl ⟨j, Nat.lt_of_not_le fun hle => ?_, hasked⟩
        have hsent := sampling.le_taken last j old hlast hasked
        have hclock := sampling.clock_mono newest j hle
        omega
  · have heq := Nat.le_antisymm (hnewest last old hlast) hge
    rw [← sampling.held_taken last old hlast, ← sampling.held_taken newest value hsample, heq]
    exact .inl rfl

end System

end Sampling

/-! ### Samples that cross -/

/-- A connect to the board with telemetry, in which the first reads bring nothing, and then a
read of the temperature, which is out. -/
def readingTemperature : List Action :=
  [.start .connect, .send 0, .reply 0 0 (.availability true), .send 0,
    .reply 0 0 (.device (.ok ⟨1, none⟩)), .send 0, .reply 0 0 (.done (.ok ())), .send 0,
    .reply 0 0 (.done (.ok ())), .send 0,
    .reply 0 0 (.services (.ok Profile.sensor.boardServices))] ++
  List.replicate 13 (.send 0) ++ (List.range 13).map (.reply 0 · (.done (.ok ()))) ++
  List.replicate 13 (.send 0) ++
  (List.range 13).map (.reply 0 · (.data (.error (.transport .reading .notConnected)))) ++
  [.start (.run (.read .temperature)), .send 1]

/-- The read is answered. -/
def answered (data : Bytes) : Action := .reply 1 0 (.data (.ok data))

/-- A temperature is pushed. -/
def pushed (data : Bytes) : Action := .push 1 (.notification (Uuid.ofChannel .temperature) data)

section Crossing

variable {ms : List Moment} {newer older value : Value} {i : Nat}

theorem sampleAt_iff_of_crossing (hvalues : ms.map (·.value? 1 .temperature) =
      List.replicate 65 none ++ [some newer, some older]) :
    SampleAt ms 1 .temperature i value ↔ i = 65 ∧ value = newer ∨ i = 66 ∧ value = older := by
  have hat : SampleAt ms 1 .temperature i value ↔
      (ms.map (·.value? 1 .temperature))[i]? = some (some value) := by
    simp [SampleAt]
  rw [hat, hvalues]
  rcases Nat.lt_or_ge i 65 with hlt | hge
  · rw [List.getElem?_append_left (by simpa using hlt), List.getElem?_replicate_of_lt hlt]
    simp only [Option.some.injEq, reduceCtorEq, false_iff]
    omega
  · obtain ⟨k, rfl⟩ := Nat.exists_eq_add_of_le hge
    rw [List.getElem?_append_right (by simp)]
    rcases k with _ | _ | k
    · simp [eq_comm]
    · simp [eq_comm]
    · have hne : 65 + (k + 1 + 1) ≠ 66 := by omega
      simp [hne]

/-- **The board behind two samples that cross**: what comes last has been taken just after the
read was sent, and before what comes first. -/
def Sampling.crossing (hvalues : ms.map (·.value? 1 .temperature) =
      List.replicate 65 none ++ [some newer, some older])
    (hsend : ∀ m number, ms[65]? = some m → m.action ≠ .send number)
    (hpushes : ¬(PushAt ms 65 ∧ PushAt ms 66)) : Sampling ms 1 .temperature where
  clock i := 2 * i
  taken i := if i = 66 then 129 else 2 * i
  held t := if t = 129 then older else newer
  clock_mono i j hle := Nat.mul_le_mul_left 2 hle
  held_taken i value hsample := by
    rcases (sampleAt_iff_of_crossing hvalues).mp hsample with ⟨rfl, rfl⟩ | ⟨rfl, rfl⟩ <;> rfl
  taken_le i value hsample := by
    rcases (sampleAt_iff_of_crossing hvalues).mp hsample with ⟨rfl, -⟩ | ⟨rfl, -⟩ <;> decide
  le_taken i j value hsample hasked := by
    obtain ⟨_, number, slot, _, -, -, hlt, ⟨m, ticket, hm, hsends, -⟩, -⟩ := hasked
    rcases (sampleAt_iff_of_crossing hvalues).mp hsample with ⟨rfl, -⟩ | ⟨rfl, -⟩
    · exact Nat.mul_le_mul_left 2 (Nat.le_of_lt hlt)
    · -- The call was not sent with the moment in between.
      have hne : j ≠ 65 := by
        rintro rfl
        exact hsend m number hm hsends.1
      rw [if_pos rfl]
      omega
  pushes i j v w hle hv hw hi hj := by
    rcases (sampleAt_iff_of_crossing hvalues).mp hv with ⟨rfl, -⟩ | ⟨rfl, -⟩ <;>
      rcases (sampleAt_iff_of_crossing hvalues).mp hw with ⟨rfl, -⟩ | ⟨rfl, -⟩
    · exact Nat.le_refl _
    · exact absurd ⟨hi, hj⟩ hpushes
    · exact absurd hle (by decide)
    · exact Nat.le_refl _

/-- Two actions at the end of a read, by which two samples cross. -/
theorem exists_crossing (first last : Action) (newer older : Value) (hsend : ∀ number, first ≠ .send number)
    (hpushes : (∀ session event, first ≠ .push session event) ∨
      ∀ session event, last ≠ .push session event)
    (hvalues : ((System.initial Profile.sensor).history (readingTemperature ++ [first, last])).map
      (·.value? 1 .temperature) = List.replicate 65 none ++ [some newer, some older])
    (hrun : ((System.initial Profile.sensor).run (readingTemperature ++ [first, last])).any
      (fun run => run.1.central.isLive 1 && run.1.tasks.all Task.isIdle &&
        run.1.central.lastValue .temperature == some older) = true) :
    ∃ (ms : List Moment) (s : System) (sampling : Sampling ms 1 .temperature),
      (System.initial Profile.sensor).Leads ms s ∧ s.central.connection.session = some 1 ∧
      (∀ task ∈ s.tasks, task.isIdle) ∧
      ms.map Moment.action = readingTemperature ++ [first, last] ∧
      SampleAt ms 1 .temperature 65 newer ∧ sampling.Newest 65 ∧
      s.central.lastValue .temperature = some older := by
  obtain ⟨⟨s, seen⟩, hrun, h⟩ := (Option.any_eq_true _ _).mp hrun
  simp only [Bool.and_eq_true, beq_iff_eq, List.all_eq_true] at h
  obtain ⟨⟨hlive, hidle⟩, hkept⟩ := h
  obtain ⟨hleads, hactions⟩ := System.leads_history hrun
  generalize (System.initial Profile.sensor).history _ = ms at hvalues hleads hactions
  have hlength : readingTemperature.length = 65 := by decide
  have haction {i : Nat} {m : Moment} (hm : ms[i]? = some m) :
      (readingTemperature ++ [first, last])[i]? = some m.action := by
    rw [← hactions, List.getElem?_map, hm]
    rfl
  have hfirst {m : Moment} (hm : ms[65]? = some m) : m.action = first := by
    have h := haction hm
    rw [List.getElem?_append_right (Nat.le_of_eq hlength), hlength] at h
    exact (Option.some.inj h).symm
  have hlast {m : Moment} (hm : ms[66]? = some m) : m.action = last := by
    have h := haction hm
    rw [List.getElem?_append_right (by rw [hlength]; decide), hlength] at h
    exact (Option.some.inj h).symm
  refine ⟨ms, s, Sampling.crossing hvalues (fun m number hm => hfirst hm ▸ hsend number) ?_,
    hleads, Central.isLive_iff.mp hlive, hidle, hactions,
    (sampleAt_iff_of_crossing hvalues).mpr (.inl ⟨rfl, rfl⟩), fun j w hw => ?_, hkept⟩
  · rintro ⟨⟨m, session, event, hm, hpush⟩, ⟨m', session', event', hm', hpush'⟩⟩
    rcases hpushes with hnot | hnot
    · exact hnot session event ((hfirst hm).symm.trans hpush)
    · exact hnot session' event' ((hlast hm').symm.trans hpush')
  · rcases (sampleAt_iff_of_crossing hvalues).mp hw with ⟨rfl, -⟩ | ⟨rfl, -⟩ <;>
      simp [Sampling.crossing]

/-- **A push that is older replaces what has been read since**, so that what is known of a
channel need not be the newest, when all calls have been answered. -/
theorem older_push_kept :
    ¬∀ (profile : Profile) (ms : List Moment) (s : System) (session : Nat) (channel : Channel)
      (sampling : Sampling ms session channel) (newest : Nat) (value : Value),
      (System.initial profile).Leads ms s → s.central.connection.session = some session →
      (∀ task ∈ s.tasks, task.isIdle) → SampleAt ms session channel newest value →
      sampling.Newest newest → s.central.lastValue channel = some value := by
  intro hall
  obtain ⟨ms, s, sampling, h, hlive, hidle, -, hsample, hnewest, hkept⟩ :=
    exists_crossing (answered [0, 0, 0xB0, 0x41]) (pushed [0, 0, 0xAC, 0x41])
      (.float 0x41B00000) (.float 0x41AC0000) (by simp [answered])
      (.inl (by simp [answered])) (by decide +kernel) (by decide +kernel)
  have hnew := hall _ ms s 1 _ sampling 65 _ h hlive hidle hsample hnewest
  exact absurd (hkept.symm.trans hnew) (by simp)

/-- A reply that is older replaces what has been pushed since: the read was out when the push
came. -/
theorem older_reply_kept :
    ∃ (ms : List Moment) (s : System) (sampling : Sampling ms 1 .temperature)
      (newest last : Nat) (older newer : Value),
      (System.initial Profile.sensor).Leads ms s ∧ s.central.connection.session = some 1 ∧
      SampleAt ms 1 .temperature newest newer ∧ sampling.Newest newest ∧ PushAt ms newest ∧
      SampleAt ms 1 .temperature last older ∧ s.central.lastValue .temperature = some older ∧
      older ≠ newer ∧ sampling.taken last < sampling.taken newest ∧
      sampling.UnderWay last newest := by
  obtain ⟨ms, s, sampling, h, hlive, -, hactions, hsample, hnewest, hkept⟩ :=
    exists_crossing (pushed [0, 0, 0xB0, 0x41]) (answered [0, 0, 0xAC, 0x41])
      (.float 0x41B00000) (.float 0x41AC0000) (by simp [pushed])
      (.inr (by simp [answered])) (by decide +kernel) (by decide +kernel)
  obtain ⟨last, old, hlast, -, hold, hcrossed⟩ :=
    System.newest_or_overtaken_of_leads h hlive sampling hsample hnewest
  obtain rfl := Option.some.inj (hkept.symm.trans hold)
  have hne : Value.float 0x41AC0000 ≠ .float 0x41B00000 := by simp
  obtain ⟨hlt, hunderway⟩ := hcrossed.resolve_left hne
  obtain ⟨m, hm, hvalue⟩ := hsample
  have haction : (readingTemperature ++ [pushed [0, 0, 0xB0, 0x41],
      answered [0, 0, 0xAC, 0x41]])[65]? = some m.action := by
    rw [← hactions, List.getElem?_map, hm]
    rfl
  refine ⟨ms, s, sampling, 65, last, _, _, h, hlive, ⟨m, hm, hvalue⟩, hnewest,
    ⟨m, 1, _, hm, (Option.some.inj haction).symm⟩, hlast, hold, hne, hlt, hunderway⟩

end Crossing

end CarrierLink
