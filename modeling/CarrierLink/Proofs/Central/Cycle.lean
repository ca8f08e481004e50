import CarrierLink.Proofs.Central.Coherence
import CarrierLink.Proofs.Handles

/-!
# The turns of a connect cycle

A connect cycle is a task that goes through the stages of `CarrierLink.Stage`. While its
session is live, its stage says which phase the connection is in and which link it has
(`CarrierLink.Stage.Matches`); once the session is over, the stage says nothing, and the
cycle finds that out at its next update.

`CarrierLink.Cycle` lists what one turn of a cycle that still hopes to connect can do: go
on, refuse a link that came too late, complete, give up with a link to close, or report a
failure at once. `CarrierLink.Attempt.answer_cycle` says that there is nothing else, and
`CarrierLink.Attempt.answer_of_closed` that a cycle which has stopped hoping only ever
reports. The helpers of a cycle call each other, so that one turn can take a session through
several phases; what a turn has done by the time it calls the next helper is a
`CarrierLink.Growth`, and each helper is described from any growth on.

Why a cycle fails is kept as a parameter: an error is either the cycle's own or one that
the platform has given, and the lemmas carry any property of errors that both kinds have.
-/

namespace CarrierLink

/-! ### Stages -/

namespace Stage

/-- Whether the cycle still hopes to connect. -/
def isOpen : Stage → Bool
  | refusing | closing _ => false
  | _ => true

/-- The link of a cycle that still hopes to connect. -/
def link? : Stage → Option Link
  | connecting link | listening link | discovering link => some link
  | subscribing link .. | reading link _ => some link
  | checking | searching | refusing | closing _ => none

/-- The error with which the cycle will end, where that is settled. -/
def failure? : Stage → Option Error
  | subscribing _ _ failed => failed.map Prod.snd
  | closing e => some e
  | _ => none

/-- **What a cycle knows of the connection** while its session is live. -/
def Matches (stage : Stage) (conn : Connection) : Prop :=
  match stage with
  | checking | searching => conn.phase = .connecting ∧ conn.link = none
  | connecting link | listening link => conn.phase = .connecting ∧ conn.link = some link
  | discovering link => conn.phase = .resolvingServices ∧ conn.link = some link
  | subscribing link .. | reading link _ => conn.phase = .subscribing ∧ conn.link = some link
  | refusing | closing _ => False

variable {stage : Stage} {conn conn' : Connection}

theorem Matches.isSettingUp (h : stage.Matches conn) : conn.phase.isSettingUp := by
  cases stage <;> simp_all [Matches, Phase.isSettingUp]

/-- A cycle whose session is live has not stopped hoping. -/
theorem Matches.isOpen (h : stage.Matches conn) : stage.isOpen := by
  cases stage <;> simp_all [Matches, Stage.isOpen]

theorem Matches.link_eq (h : stage.Matches conn) : conn.link = stage.link? := by
  cases stage <;> simp_all [Matches, link?]

theorem Matches.congr (h : stage.Matches conn) (hphase : conn'.phase = conn.phase)
    (hlink : conn'.link = conn.link) : stage.Matches conn' := by
  cases stage <;> simp_all [Matches]

end Stage

/-- Whether a call closes a link. -/
def Call.isDisconnect : Call → Bool
  | disconnect _ => true
  | _ => false

/-- The error of a reply. -/
def Reply.error? : Reply → Option Error
  | availability _ => none
  | device (.error e) | done (.error e) | services (.error e) | data (.error e) => some e
  | device (.ok _) | done (.ok _) | services (.ok _) | data (.ok _) => none

/-- The link of a reply. -/
def Reply.link? : Reply → Option Link
  | device (.ok link) => some link
  | _ => none

theorem Task.call_mem_of_askingAll {work : Work} {calls : List Call} {ticket : Ticket}
    (h : ticket ∈ (askingAll work calls).unanswered) : ticket.call ∈ calls := by
  simp only [askingAll, unanswered, List.append_nil, List.mem_mapIdx] at h
  obtain ⟨slot, hslot, rfl⟩ := h
  exact List.getElem_mem hslot

/-! ### Growth -/

/-- **The work of a turn so far**, when the session has not arrived yet. -/
inductive Growth (session : Nat) (c : Central) : List Callback → Central → Prop
  /-- Nothing but words about progress. -/
  | rests {callbacks : List Callback} (hcallbacks : ∀ callback ∈ callbacks, callback.isNote) :
      Growth session c callbacks c
  /-- The session has come further. -/
  | grows {callbacks : List Callback} {c' : Central}
      (hlive : c.connection.session = some session) (hsetup : c.connection.phase.isSettingUp)
      (hlive' : c'.connection.session = some session)
      (hsetup' : c'.connection.phase.isSettingUp)
      (hsessions : c'.sessions = c.sessions) (hprofile : c'.profile = c.profile)
      (hcallbacks : ∀ callback ∈ callbacks, callback.isNote ∨ callback.isValue) :
      Growth session c callbacks c'

namespace Growth

variable {session : Nat} {c c₁ : Central} {callbacks : List Callback}

theorem refl : Growth session c [] c := rests (by simp)

theorem change (h : Growth session c callbacks c₁) (hc₁ : c₁.Coherent) :
    Change session c true callbacks c₁ := by
  cases h with
  | rests hcallbacks =>
    exact .rests fun callback hmem => ⟨rfl, .inl (hcallbacks callback hmem)⟩
  | grows hlive hsetup hlive' hsetup' hsessions hprofile hcallbacks =>
    exact .grows hlive hsetup hlive' hsetup' hsessions hprofile hc₁ hcallbacks

/-- A growing session says nothing about failures. -/
theorem quiet (h : Growth session c callbacks c₁) :
    ∀ callback ∈ callbacks, callback.isWarning = false := by
  intro callback hmem
  cases h with
  | rests hcallbacks =>
    have hnote := hcallbacks callback hmem
    revert hnote
    cases callback with
    | status text level => cases level <;> simp [Callback.isNote, Callback.isWarning]
    | _ => simp [Callback.isNote]
  | grows _ _ _ _ _ _ hcallbacks =>
    have hsaid := hcallbacks callback hmem
    revert hsaid
    cases callback with
    | status text level =>
      cases level <;> simp [Callback.isNote, Callback.isValue, Callback.isWarning]
    | _ => simp [Callback.isWarning]

/-- The session arrives. -/
theorem enters {c₂ : Central} (h : Growth session c callbacks c₁)
    (hlive₁ : c₁.connection.session = some session)
    (hsetup₁ : c₁.connection.phase.isSettingUp)
    (hlive₂ : c₂.connection.session = some session)
    (hconnected : c₂.connection.phase = .connected)
    (hsessions : c₂.sessions = c₁.sessions) (hprofile : c₂.profile = c₁.profile)
    (hc₂ : c₂.Coherent) :
    Change session c true (callbacks ++ [.connected true, .status "Connected" .ok]) c₂ := by
  cases h with
  | rests hcallbacks =>
    exact .enters hlive₁ hsetup₁ hlive₂ hconnected hsessions hprofile hc₂
      fun callback hmem => .inl (hcallbacks callback hmem)
  | grows hlive hsetup _ _ hsessions₁ hprofile₁ hcallbacks =>
    exact .enters hlive hsetup hlive₂ hconnected (hsessions.trans hsessions₁)
      (hprofile.trans hprofile₁) hc₂ hcallbacks

/-- **The session is given up**: if it was still live it is left, and it is over in any
case. -/
theorem abandon {more : List Callback} (h : Growth session c callbacks c₁)
    (hc₁ : c₁.Coherent)
    (hsetup₁ : c₁.connection.session = some session → c₁.connection.phase.isSettingUp)
    (hmore : ∀ callback ∈ more, callback.isWarning) :
    Change session c true (callbacks ++ more) (c₁.abandon session).2 ∧
      (c₁.abandon session).2.connection.session ≠ some session := by
  by_cases hlive₁ : c₁.connection.session = some session
  · rw [hc₁.abandon_of_live hlive₁]
    refine ⟨?_, by simp [Central.cleared]⟩
    have hall : ∀ callback ∈ callbacks ++ more,
        callback.isNote ∨ callback.isWarning ∨ callback.isValue := by
      intro callback hmem
      rcases List.mem_append.mp hmem with hmem | hmem
      · cases h with
        | rests hcallbacks => exact .inl (hcallbacks callback hmem)
        | grows _ _ _ _ _ _ hcallbacks =>
          exact (hcallbacks callback hmem).imp_right .inr
      · exact .inr (.inl (hmore callback hmem))
    cases h with
    | rests => exact .leaves hlive₁ (hsetup₁ hlive₁) hall
    | grows hlive hsetup _ _ hsessions hprofile =>
      have hcleared : c₁.cleared = c.cleared := by
        rw [Central.cleared, Central.cleared, hsessions, hprofile]
      exact hcleared ▸ .leaves hlive hsetup hall
  · rw [Central.abandon_of_dead hlive₁]
    refine ⟨?_, hlive₁⟩
    cases h with
    | rests hcallbacks =>
      refine .rests fun callback hmem => ?_
      exact ⟨rfl, (List.mem_append.mp hmem).imp (hcallbacks callback) (hmore callback)⟩
    | grows _ _ hlive' => exact absurd hlive' hlive₁

end Growth

/-! ### Turns -/

/-- **What a turn of a connect cycle does**, when the cycle still hopes to connect. `got` is
the link that it has, the one of this very reply included, and `why` holds of every error
that it may fail with. -/
inductive Cycle (session : Nat) (c : Central) (got : Option Link) (why : Error → Prop) :
    Turn → Prop
  /-- The cycle goes on. -/
  | goesOn {turn : Turn} (stage : Stage) (hwork : turn.task.work = .attempt session stage)
      (hopen : stage.isOpen) (hgot : stage.link? = got)
      (hwhy : ∀ e, stage.failure? = some e → why e)
      (hmatches : turn.central.connection.session = some session →
        stage.Matches turn.central.connection)
      (hcalls : ∀ ticket ∈ turn.task.unanswered, ticket.call.isDisconnect = false)
      (hquiet : ∀ callback ∈ turn.callbacks, callback.isWarning = false)
      (hchange : Change session c true turn.callbacks turn.central) :
      Cycle session c got why turn
  /-- The device came after the session was over, and its link is closed. -/
  | refuses {link : Link} (hgot : got = some link)
      (hdead : c.connection.session ≠ some session) :
      Cycle session c got why
        ⟨c, [], Task.asking (.attempt session .refusing) (.disconnect link)⟩
  /-- The session has arrived. -/
  | completes {c' : Central} {callbacks : List Callback}
      (hquiet : ∀ callback ∈ callbacks, callback.isWarning = false)
      (hchange : Change session c true callbacks c') :
      Cycle session c got why ⟨c', callbacks, Task.finished (.ok .done)⟩
  /-- The cycle fails and closes its link. -/
  | givesUp {c' : Central} {callbacks : List Callback} {e : Error} {link : Link}
      (hgot : got = some link) (hwhy : why e)
      (hdead : c'.connection.session ≠ some session)
      (hquiet : ∀ callback ∈ callbacks, callback.isWarning = false)
      (hchange : Change session c true callbacks c') :
      Cycle session c got why
        ⟨c', callbacks, Task.asking (.attempt session (.closing e)) (.disconnect link)⟩
  /-- The cycle fails without having got a link. -/
  | reports {c' : Central} {callbacks : List Callback} {e : Error}
      (hgot : got = none) (hwhy : why e) (hdead : c'.connection.session ≠ some session)
      (hquiet : ∀ callback ∈ callbacks, callback.isWarning = false)
      (hchange : Change session c true
        (callbacks ++ [.status ("Error: " ++ e.message) .warn]) c') :
      Cycle session c got why
        ⟨c', callbacks ++ [.status ("Error: " ++ e.message) .warn],
          Task.finished (.error e)⟩

theorem Cycle.change {session : Nat} {c : Central} {got : Option Link} {why : Error → Prop}
    {turn : Turn} (h : Cycle session c got why turn) :
    Change session c true turn.callbacks turn.central := by
  cases h with
  | goesOn _ _ _ _ _ _ _ _ hchange => exact hchange
  | refuses => exact .rests (by simp)
  | completes _ hchange => exact hchange
  | givesUp _ _ _ _ hchange => exact hchange
  | reports _ _ _ _ hchange => exact hchange

namespace Attempt

variable {session : Nat} {c c₁ : Central} {callbacks : List Callback} {link : Link}
  {why : Error → Prop}

/-! ### The helpers, from any growth on -/

theorem fail_eq (c : Central) (session : Nat) (got : Option Link) (e : Error) :
    fail c session got e =
      match (c.abandon session).1.or got with
      | some link =>
        ⟨(c.abandon session).2, [],
          Task.asking (.attempt session (.closing e)) (.disconnect link)⟩
      | none => report (c.abandon session).2 e := rfl

theorem fail_cycle {got : Option Link} {e : Error} (hgrowth : Growth session c callbacks c₁)
    (hc₁ : c₁.Coherent)
    (hsetup : c₁.connection.session = some session →
      c₁.connection.phase.isSettingUp ∧ c₁.connection.link = got)
    (hwhy : why e) : Cycle session c got why ((fail c₁ session got e).after callbacks) := by
  -- A live session has the very link that the cycle has got, and a dead one gives none back.
  have hlink : (c₁.abandon session).1.or got = got := by
    by_cases hlive : c₁.connection.session = some session
    · rw [hc₁.abandon_of_live hlive, (hsetup hlive).2, Option.or_self]
    · rw [Central.abandon_of_dead hlive, Option.none_or]
  have habandon (more : List Callback) (hmore : ∀ callback ∈ more, callback.isWarning) :=
    hgrowth.abandon hc₁ (fun hlive => (hsetup hlive).1) hmore
  rw [fail_eq, hlink]
  cases got with
  | some link =>
    obtain ⟨hchange, hdead⟩ := habandon [] (by simp)
    simp only [List.append_nil] at hchange
    simpa [Turn.after] using Cycle.givesUp rfl hwhy hdead hgrowth.quiet hchange
  | none =>
    obtain ⟨hchange, hdead⟩ :=
      habandon [.status ("Error: " ++ e.message) .warn] (by simp [Callback.isWarning])
    exact .reports rfl hwhy hdead hgrowth.quiet hchange

/-- A session that is about to arrive. -/
def AtEnd (session : Nat) (link : Link) (c : Central) : Prop :=
  c.connection.session = some session →
    c.connection.phase = .subscribing ∧ c.connection.link = some link

theorem AtEnd.isSettingUp (h : AtEnd session link c)
    (hlive : c.connection.session = some session) :
    c.connection.phase.isSettingUp ∧ c.connection.link = some link := by
  rw [(h hlive).1]
  exact ⟨rfl, (h hlive).2⟩

theorem complete_cycle (hgrowth : Growth session c callbacks c₁) (hc₁ : c₁.Coherent)
    (hend : AtEnd session link c₁) (hwhy : why .notConnected) :
    Cycle session c (some link) why ((complete c₁ session link).after callbacks) := by
  by_cases hlive : c₁.connection.session = some session
  · obtain ⟨hphase, -⟩ := hend hlive
    rw [complete, Central.enter, if_pos (Central.isLive_iff.mpr hlive)]
    refine .completes ?_ (hgrowth.enters hlive (hend.isSettingUp hlive).1 hlive rfl rfl rfl ?_)
    · intro callback hmem
      rcases List.mem_append.mp hmem with hmem | hmem
      · exact hgrowth.quiet callback hmem
      · simp only [List.mem_cons, List.not_mem_nil, or_false] at hmem
        rcases hmem with rfl | rfl <;> rfl
    · exact hc₁.withConnected hlive hphase
  · -- Somebody has closed the session while the last call was out.
    rw [complete, Central.enter, if_neg (mt Central.isLive_iff.mp hlive)]
    exact fail_cycle hgrowth hc₁ hend.isSettingUp hwhy

theorem startReading_cycle (hgrowth : Growth session c callbacks c₁) (hc₁ : c₁.Coherent)
    (hend : AtEnd session link c₁) (hwhy : why .notConnected)
    (telemetry : List (ChannelSpec × Handle)) :
    Cycle session c (some link) why
      ((startReading c₁ session link telemetry).after callbacks) := by
  rw [startReading]
  split
  · exact complete_cycle hgrowth hc₁ hend hwhy
  · refine .goesOn (.reading link telemetry) rfl rfl rfl (by simp [Stage.failure?])
      (fun hlive => hend hlive) (fun ticket hmem => ?_) ?_ ?_
    · obtain ⟨entry, -, hcall⟩ := List.mem_map.mp (Task.call_mem_of_askingAll hmem)
      rw [← hcall]
      rfl
    · simpa [Turn.after] using hgrowth.quiet
    · simpa [Turn.after] using hgrowth.change hc₁

theorem startSubscribing_cycle (hgrowth : Growth session c callbacks c₁) (hc₁ : c₁.Coherent)
    (hend : AtEnd session link c₁) (hwhy : why .notConnected)
    (telemetry : List (ChannelSpec × Handle)) :
    Cycle session c (some link) why
      ((startSubscribing c₁ session link telemetry).after callbacks) := by
  rw [startSubscribing]
  split
  · exact startReading_cycle hgrowth hc₁ hend hwhy telemetry
  · refine .goesOn (.subscribing link telemetry none) rfl rfl rfl
      (by simp [Stage.failure?]) (fun hlive => hend hlive) (fun ticket hmem => ?_) ?_ ?_
    · obtain ⟨entry, -, hcall⟩ := List.mem_map.mp (Task.call_mem_of_askingAll hmem)
      rw [← hcall]
      rfl
    · simpa [Turn.after] using hgrowth.quiet
    · simpa [Turn.after] using hgrowth.change hc₁

/-! ### The turns between two calls -/

theorem startDiscovering_cycle (hc : c.Coherent)
    (hmatches : c.connection.session = some session →
      c.connection.phase = .connecting ∧ c.connection.link = some link)
    (hwhy : why .notConnected) :
    Cycle session c (some link) why (startDiscovering c session link) := by
  by_cases hlive : c.connection.session = some session
  · obtain ⟨hphase, hlink⟩ := hmatches hlive
    have hsetup : c.connection.phase.isSettingUp := by
      rw [hphase]
      rfl
    have hcoherent := hc.withPump hlive hphase hlink
    rw [startDiscovering, Central.startPump, if_pos (Central.isLive_iff.mpr hlive)]
    simp only [Central.enter, Central.isLive, hlive, BEq.rfl, if_true] at hcoherent ⊢
    refine .goesOn (.discovering link) rfl rfl rfl (by simp [Stage.failure?])
      (fun _ => ⟨rfl, hlink⟩) (by simp [next, Task.asking, Task.unanswered,
        Call.isDisconnect]) (by simp [next, Callback.isWarning])
      (.grows hlive hsetup rfl rfl rfl rfl hcoherent ?_)
    simp [next, Callback.isNote]
  · rw [startDiscovering, Central.startPump, if_neg (mt Central.isLive_iff.mp hlive)]
    simp only [Central.enter, if_neg (mt Central.isLive_iff.mp hlive)]
    exact fail_cycle .refl hc (fun h => absurd h hlive) hwhy

theorem resolve_cycle (hc : c.Coherent)
    (hmatches : c.connection.session = some session →
      c.connection.phase = .resolvingServices ∧ c.connection.link = some link)
    (hwhy : ∀ e, e ≠ .busy → why e) (services : List Service) :
    Cycle session c (some link) why (resolve c session link services) := by
  have hsetup : c.connection.session = some session →
      c.connection.phase.isSettingUp ∧ c.connection.link = some link := by
    intro hlive
    rw [(hmatches hlive).1]
    exact ⟨rfl, (hmatches hlive).2⟩
  rw [resolve]
  split
  next e he =>
    refine fail_cycle .refl hc hsetup (hwhy e ?_)
    rcases Handles.error_of_resolve he with ⟨_, _, rfl⟩ | ⟨_, _, rfl⟩ <;> simp
  next handles hhandles =>
    by_cases hlive : c.connection.session = some session
    · obtain ⟨hphase, hlink⟩ := hmatches hlive
      rw [Central.takeHandles, if_pos (Central.isLive_iff.mpr hlive)]
      have hgrowth : Growth session c [] { c with connection := { c.connection with
          phase := .subscribing
          handles := some handles
          routes := some (Routes.ofHandles c.profile handles) } } :=
        .grows hlive (hsetup hlive).1 hlive rfl rfl rfl (by simp)
      exact startSubscribing_cycle hgrowth (hc.withHandles hlive hphase hhandles)
        (fun _ => ⟨rfl, hlink⟩) (hwhy _ (by simp)) _
    · rw [Central.takeHandles, if_neg (mt Central.isLive_iff.mp hlive)]
      exact fail_cycle .refl hc hsetup (hwhy _ (by simp))

theorem firstFailed_eq {failed : Option (Nat × Error)} {slot : Nat}
    {outcome : Except Error Unit} {e : Error}
    (h : (firstFailed failed slot outcome).map Prod.snd = some e) :
    failed.map Prod.snd = some e ∨ outcome = .error e := by
  simp only [firstFailed] at h
  split at h
  · exact .inl h
  · exact .inr (by simpa using h)
  · split at h
    · exact .inr (by simpa using h)
    · exact .inl h

theorem proceedSubscribing_cycle {telemetry : List (ChannelSpec × Handle)}
    {failed : Option (Nat × Error)} {rest : Task} (hc : c.Coherent)
    (hend : AtEnd session link c) (hown : why .notConnected)
    (hwhy : ∀ e, failed.map Prod.snd = some e → why e)
    (hcalls : ∀ ticket ∈ rest.unanswered, ticket.call.isDisconnect = false) :
    Cycle session c (some link) why
      (proceedSubscribing c session link telemetry failed rest) := by
  have hwaits : Cycle session c (some link) why
      ⟨c, [], { rest with work := .attempt session (.subscribing link telemetry failed) }⟩ :=
    .goesOn (.subscribing link telemetry failed) rfl rfl rfl hwhy hend hcalls (by simp)
      (.rests (by simp))
  simp only [proceedSubscribing]
  split
  next slot e =>
    split
    · exact hwaits
    · exact fail_cycle .refl hc hend.isSettingUp (hwhy e rfl)
  next =>
    split
    · exact startReading_cycle .refl hc hend hown telemetry
    · exact hwaits

/-- A first read lets a session that is still there grow by a value. -/
theorem receive_growth (hc : c.Coherent) (hend : AtEnd session link c) (spec : ChannelSpec)
    (data : Except Error Bytes) :
    Growth session c (receive c session spec data).2 (receive c session spec data).1 ∧
      (receive c session spec data).1.Coherent ∧
      AtEnd session link (receive c session spec data).1 := by
  have hstays : Growth session c [] c ∧ c.Coherent ∧ AtEnd session link c := ⟨.refl, hc, hend⟩
  simp only [receive]
  split
  · split
    next value _ =>
      by_cases hlive : c.connection.session = some session
      · obtain ⟨hphase, hlink⟩ := hend hlive
        rw [Central.deliver_of_live hlive]
        refine ⟨?_, hc.store hlive (.inl hphase) _ _, ?_⟩
        · have hsetup := (hend.isSettingUp hlive).1
          rw [Central.store_of_live hlive]
          exact .grows hlive hsetup hlive hsetup rfl rfl (by simp [Callback.isValue])
        · rw [Central.store_of_live hlive]
          exact fun _ => ⟨hphase, hlink⟩
      · rw [Central.deliver_of_dead hlive]
        exact hstays
    · exact hstays
  · exact hstays

/-- **Every turn of a hopeful cycle.** The reply brings the link that it carries, and may
bring an error; whatever is said of errors has to hold of those of the platform and of all
that the cycle makes up itself. -/
theorem answer_cycle {stage : Stage} {rest : Task} {slot : Nat} {reply : Reply} {turn : Turn}
    (h : answer c session stage rest slot reply = some turn) (hopen : stage.isOpen)
    (hc : c.Coherent)
    (hmatches : c.connection.session = some session → stage.Matches c.connection)
    (hrest : rest.work = .attempt session stage)
    (hcalls : ∀ ticket ∈ rest.unanswered, ticket.call.isDisconnect = false)
    (hown : ∀ e, e ≠ .busy → why e) (hreply : ∀ e, reply.error? = some e → why e)
    (hfailed : ∀ e, stage.failure? = some e → why e) :
    Cycle session c (reply.link?.or stage.link?) why turn := by
  have hnot : why .notConnected := hown _ (by simp)
  have hsetup : c.connection.session = some session →
      c.connection.phase.isSettingUp ∧ c.connection.link = stage.link? :=
    fun hlive => ⟨(hmatches hlive).isSettingUp, (hmatches hlive).link_eq⟩
  simp only [answer] at h
  -- One case for each reply that a stage waits for; at any other there is no turn.
  split at h
  next available =>
    split at h
    · obtain rfl := Option.some.inj h
      refine .goesOn .searching rfl rfl rfl (by simp [Stage.failure?]) hmatches
        (by simp [next, Task.asking, Task.unanswered, Call.isDisconnect])
        (by simp [next, Callback.isWarning]) (.rests ?_)
      simp [next, Callback.isNote]
    · obtain rfl := Option.some.inj h
      exact fail_cycle .refl hc hsetup (hown _ (by simp))
  next e =>
    obtain rfl := Option.some.inj h
    exact fail_cycle .refl hc hsetup (hreply e rfl)
  next link =>
    by_cases hlive : c.connection.session = some session
    · obtain ⟨hphase, -⟩ := hmatches hlive
      rw [Central.takeLink, if_pos (Central.isLive_iff.mpr hlive)] at h
      obtain rfl := Option.some.inj h
      refine .goesOn (.connecting link) rfl rfl rfl (by simp [Stage.failure?])
        (fun _ => ⟨hphase, rfl⟩)
        (by simp [next, Task.asking, Task.unanswered, Call.isDisconnect])
        (by simp [next, Callback.isWarning]) ?_
      refine .grows hlive (hsetup hlive).1 hlive (hsetup hlive).1 rfl rfl
        (hc.withLink hlive hphase link) ?_
      simp [next, Callback.isNote]
    · rw [Central.takeLink, if_neg (mt Central.isLive_iff.mp hlive)] at h
      obtain rfl := Option.some.inj h
      exact .refuses rfl hlive
  next => exact absurd hopen (by simp [Stage.isOpen])
  next link e =>
    obtain rfl := Option.some.inj h
    exact fail_cycle .refl hc hsetup (hreply e rfl)
  next link =>
    obtain rfl := Option.some.inj h
    exact .goesOn (.listening link) rfl rfl rfl (by simp [Stage.failure?]) hmatches
      (by simp [Task.asking, Task.unanswered, Call.isDisconnect]) (by simp) (.rests (by simp))
  next link e =>
    obtain rfl := Option.some.inj h
    exact fail_cycle .refl hc hsetup (hreply e rfl)
  next link =>
    obtain rfl := Option.some.inj h
    exact startDiscovering_cycle hc hmatches hnot
  next link e =>
    obtain rfl := Option.some.inj h
    exact fail_cycle .refl hc hsetup (hreply e rfl)
  next link services =>
    obtain rfl := Option.some.inj h
    exact resolve_cycle hc hmatches hown services
  next link telemetry failed outcome =>
    obtain rfl := Option.some.inj h
    refine proceedSubscribing_cycle hc hmatches hnot (fun e he => ?_) hcalls
    rcases firstFailed_eq he with he | rfl
    · exact hfailed e he
    · exact hreply e rfl
  next link telemetry data =>
    -- The value is delivered first, and the cycle may complete within the same turn.
    obtain ⟨⟨spec, handle⟩, -, h⟩ := Option.bind_eq_some_iff.mp h
    obtain ⟨hgrowth, hc₁, hend⟩ := receive_growth hc hmatches spec data
    obtain rfl := Option.some.inj h
    split
    · exact complete_cycle hgrowth hc₁ hend hnot
    · exact .goesOn (.reading link telemetry) hrest rfl rfl
        (by simp [Stage.failure?]) hend hcalls (by simpa [Turn.after] using hgrowth.quiet)
        (by simpa [Turn.after] using hgrowth.change hc₁)
  next => exact absurd hopen (by simp [Stage.isOpen])
  next => exact absurd h (by simp)

/-- **A cycle that has stopped hoping only reports.** -/
theorem answer_of_closed {stage : Stage} {rest : Task} {slot : Nat} {reply : Reply}
    {turn : Turn} (h : answer c session stage rest slot reply = some turn)
    (hclosed : stage.isOpen = false)
    (hdead : c.connection.session ≠ some session) :
    turn = report c (stage.failure?.getD .notConnected) := by
  cases stage with
  | refusing =>
    cases reply <;> simp only [answer, reduceCtorEq, Option.some.injEq] at h
    rw [← h, fail_eq, Central.abandon_of_dead hdead]
    rfl
  | closing e =>
    cases reply <;> simp only [answer, reduceCtorEq, Option.some.injEq] at h
    exact h.symm
  | _ => exact absurd hclosed (by simp [Stage.isOpen])

/-- Only a cycle that has asked for a device gets a link. -/
theorem eq_searching_of_answer {stage : Stage} {rest : Task} {slot : Nat} {reply : Reply}
    {turn : Turn} (h : answer c session stage rest slot reply = some turn)
    (hlink : reply.link? = some link) : stage = .searching := by
  simp only [Reply.link?] at hlink
  split at hlink
  · cases stage with
    | searching => rfl
    | _ => exact absurd h (by simp [answer])
  · exact absurd hlink (by simp)

end Attempt

end CarrierLink
