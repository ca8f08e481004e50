import CarrierLink.Proofs.Central.Soundness

/-!
# What an observer is told

The observer of a central hears of many operations at once, and of several ways in which one
session may come to its end. This module proves that what it hears makes sense all the same
(`CarrierLink.System.protocol_of_leads`): a session arrives once at most; it is closed with
one and the same three callbacks when it is closed from outside, and with none of them when
its own connect cycle fails; nothing of it is delivered after that; and whoever goes by the
last word about being connected is never wrong.

Three facts carry the proof. What a session has told so far is tied to its state by an
invariant (`CarrierLink.Told`), what it tells after its end is nothing but statuses
(`CarrierLink.System.told_of_hasEnded`), and the moment at which it ends is of one of two
kinds (`CarrierLink.System.Effect.of_ends`).
-/

namespace CarrierLink

/-! ### Arrivals and ends -/

/-- The connection of a session is set up with this moment. -/
def Moment.Arrives (m : Moment) (session : Nat) : Prop :=
  m.before.central.connection.phase ≠ .connected ∧
    m.after.central.connection.phase = .connected ∧
    m.after.central.connection.session = some session

/-- A session is over with this moment. -/
def Moment.Ends (m : Moment) (session : Nat) : Prop :=
  m.before.central.connection.session = some session ∧
    m.after.central.connection.session ≠ some session

/-- The word about being connected, in a callback that has one. -/
def Callback.connected? : Callback → Option Bool
  | connected on => some on
  | _ => none

/-- **The last word about being connected**: not connected, if there has been none. -/
def lastWord (callbacks : List Callback) : Bool :=
  ((callbacks.filterMap Callback.connected?).getLast?).getD false

theorem lastWord_append (first rest : List Callback) :
    lastWord (first ++ rest) =
      ((rest.filterMap Callback.connected?).getLast?).getD (lastWord first) := by
  cases hlast : (rest.filterMap Callback.connected?).getLast? with
  | none => simp [lastWord, List.getLast?_append, hlast]
  | some on => simp [lastWord, List.getLast?_append, hlast]

/-- Who does not mention it leaves the last word. -/
theorem lastWord_append_of_quiet {first rest : List Callback}
    (h : ∀ callback ∈ rest, ∀ on, callback ≠ .connected on) :
    lastWord (first ++ rest) = lastWord first := by
  have hnone : rest.filterMap Callback.connected? = [] := by
    rw [List.filterMap_eq_nil_iff]
    intro callback hmem
    cases callback with
    | connected on => exact absurd rfl (h _ hmem on)
    | _ => rfl
  rw [lastWord_append, hnone]
  rfl

theorem Phase.ne_connected_of_isSettingUp {phase : Phase} (h : phase.isSettingUp) :
    phase ≠ .connected := by
  rintro rfl
  exact absurd h (by simp [isSettingUp])

theorem Central.isConnected_eq_false {c : Central} (h : c.connection.phase ≠ .connected) :
    c.isConnected = false := by
  simp [isConnected, h]

namespace Change

variable {session session' : Nat} {c c' : Central} {own : Bool} {callbacks : List Callback}

/-- **Who changes a central tells whether it is connected**, by the last word at least. -/
theorem lastWord_eq (h : Change session c own callbacks c') {first : List Callback}
    (hfirst : lastWord first = c.isConnected) :
    lastWord (first ++ callbacks) = c'.isConnected := by
  cases h with
  | rests hcallbacks =>
    rw [lastWord_append_of_quiet fun callback hmem on =>
      Callback.ne_connected ((hcallbacks callback hmem).2.imp_right .inl), hfirst]
  | opens hopen =>
    obtain ⟨hphase, -, rfl⟩ := openSession_eq hopen
    rw [List.append_nil, hfirst, Central.isConnected_eq_false (by simp [hphase]),
      Central.isConnected_eq_false (by simp)]
  | grows _ hsetup _ hsetup' _ _ _ hcallbacks =>
    rw [lastWord_append_of_quiet fun callback hmem on =>
      Callback.ne_connected ((hcallbacks callback hmem).imp_right .inr), hfirst,
      Central.isConnected_eq_false (Phase.ne_connected_of_isSettingUp hsetup),
      Central.isConnected_eq_false (Phase.ne_connected_of_isSettingUp hsetup')]
  | enters _ _ _ hconnected =>
    rw [← List.append_assoc, lastWord_append, Central.isConnected, hconnected]
    rfl
  | leaves _ hsetup hcallbacks =>
    rw [lastWord_append_of_quiet fun callback hmem on =>
      Callback.ne_connected (hcallbacks callback hmem), hfirst,
      Central.isConnected_eq_false (Phase.ne_connected_of_isSettingUp hsetup)]
    rfl
  | keeps hlive _ hcallbacks =>
    rw [lastWord_append_of_quiet fun callback hmem on =>
      Callback.ne_connected (.inr (.inr (hcallbacks callback hmem))), hfirst,
      Central.store_of_live hlive]
    rfl
  | closes =>
    rw [lastWord_append]
    rfl

/-- **Being connected is told when it comes about**, and at no other time. -/
theorem connected_mem_iff (h : Change session c own callbacks c') :
    .connected true ∈ callbacks ↔
      c.connection.phase ≠ .connected ∧ c'.connection.phase = .connected := by
  have hquiet (h : ∀ callback ∈ callbacks,
      callback.isNote ∨ callback.isWarning ∨ callback.isValue) :
      .connected true ∉ callbacks := fun hmem => Callback.ne_connected (h _ hmem) rfl
  cases h with
  | rests hcallbacks =>
    have hnot := hquiet fun callback hmem => (hcallbacks callback hmem).2.imp_right .inl
    exact ⟨fun h => absurd h hnot, fun h => absurd h.2 h.1⟩
  | opens hopen =>
    obtain ⟨-, -, rfl⟩ := openSession_eq hopen
    simp
  | grows _ _ _ hsetup' _ _ _ hcallbacks =>
    have hnot := hquiet fun callback hmem => (hcallbacks callback hmem).imp_right .inr
    exact ⟨fun h => absurd h hnot,
      fun h => absurd h.2 (Phase.ne_connected_of_isSettingUp hsetup')⟩
  | enters _ hsetup _ hconnected =>
    exact ⟨fun _ => ⟨Phase.ne_connected_of_isSettingUp hsetup, hconnected⟩, by simp⟩
  | leaves _ _ hcallbacks =>
    exact ⟨fun h => absurd h (hquiet hcallbacks), fun h => absurd h.2 (by simp [Central.cleared])⟩
  | keeps hlive _ hcallbacks =>
    have hnot := hquiet fun callback hmem => .inr (.inr (hcallbacks callback hmem))
    rw [Central.store_of_live hlive]
    exact ⟨fun h => absurd h hnot, fun h => absurd h.2 h.1⟩
  | closes => simp [Callback.teardown, Central.cleared]

/-- A session that arrives is live, before and after, and says so once. -/
theorem live_of_connected (h : Change session c own callbacks c')
    (hmem : .connected true ∈ callbacks) :
    c.connection.session = some session ∧ c'.connection.session = some session ∧
      callbacks.count (.connected true) = 1 := by
  obtain ⟨hbefore, hafter⟩ := h.connected_mem_iff.mp hmem
  cases h with
  | rests => exact absurd hafter hbefore
  | opens => exact absurd hmem (by simp)
  | grows _ _ _ hsetup' => exact absurd hafter (Phase.ne_connected_of_isSettingUp hsetup')
  | @enters first _ hlive _ hlive' _ _ _ _ hcallbacks =>
    have hnot : .connected true ∉ first := fun hmem =>
      Callback.ne_connected ((hcallbacks _ hmem).imp_right .inr) rfl
    exact ⟨hlive, hlive', by simp [List.count_eq_zero.mpr hnot]⟩
  | leaves => exact absurd hafter (by simp [Central.cleared])
  | keeps hlive =>
    rw [Central.store_of_live hlive] at hafter
    exact absurd hafter hbefore
  | closes => exact absurd hmem (by simp [Callback.teardown])

/-- **Only a session that is closed from outside is torn down.** -/
theorem closes_of_mem (h : Change session c own callbacks c') {callback : Callback}
    (hmem : callback ∈ callbacks) (hteardown : callback ∈ Callback.teardown) :
    own = false ∧ callbacks = Callback.teardown ∧ c.connection.session = some session ∧
      c' = c.cleared := by
  have hquiet (h : callback.isNote ∨ callback.isWarning ∨ callback.isValue) : False :=
    Callback.notMem_teardown h hteardown
  cases h with
  | rests hcallbacks => exact (hquiet ((hcallbacks callback hmem).2.imp_right .inl)).elim
  | opens => exact absurd hmem (by simp)
  | grows _ _ _ _ _ _ _ hcallbacks =>
    exact (hquiet ((hcallbacks callback hmem).imp_right .inr)).elim
  | enters _ _ _ _ _ _ _ hcallbacks =>
    rcases List.mem_append.mp hmem with hmem | hmem
    · exact (hquiet ((hcallbacks callback hmem).imp_right .inr)).elim
    · simp only [List.mem_cons, List.not_mem_nil, or_false] at hmem
      rcases hmem with rfl | rfl <;> exact absurd hteardown (by decide)
  | leaves _ _ hcallbacks => exact (hquiet (hcallbacks callback hmem)).elim
  | keeps _ _ hcallbacks => exact (hquiet (.inr (.inr (hcallbacks callback hmem)))).elim
  | closes hlive => exact ⟨rfl, rfl, hlive, rfl⟩

/-- **A session ends by its own doing or by that of another**: quietly, or torn down. -/
theorem of_ends (h : Change session c own callbacks c') (hc : c.Coherent)
    (hlive : c.connection.session = some session')
    (hdead : c'.connection.session ≠ some session') :
    session = session' ∧ (own = true ∧ (∀ callback ∈ callbacks, callback ∉ Callback.teardown) ∨
      own = false ∧ callbacks = Callback.teardown) := by
  cases h with
  | rests => exact absurd hlive hdead
  | opens hopen =>
    obtain ⟨hphase, -, -⟩ := openSession_eq hopen
    exact absurd hphase (hc.phase_ne hlive)
  | grows hlive₁ _ hlive' => exact absurd (hlive'.trans (hlive₁.symm.trans hlive)) hdead
  | enters hlive₁ _ hlive' => exact absurd (hlive'.trans (hlive₁.symm.trans hlive)) hdead
  | leaves hlive₁ _ hcallbacks =>
    exact ⟨Option.some.inj (hlive₁.symm.trans hlive), .inl ⟨rfl, fun callback hmem =>
      Callback.notMem_teardown (hcallbacks callback hmem)⟩⟩
  | keeps hlive₁ =>
    rw [Central.store_of_live hlive₁] at hdead
    exact absurd hlive hdead
  | closes hlive₁ => exact ⟨Option.some.inj (hlive₁.symm.trans hlive), .inr ⟨rfl, rfl⟩⟩

end Change

/-! ### What a session has told -/

/-- **What a session may have told**, as the central stands. -/
structure Told (c : Central) (session : Nat) (said : List Callback) : Prop where
  unborn : session = 0 ∨ c.sessions < session → said = []
  once : said.count (.connected true) ≤ 1
  arriving : c.connection.session = some session → c.connection.phase ≠ .connected →
    .connected true ∉ said
  untorn : ¬c.HasEnded session → ∀ callback ∈ said, callback ∉ Callback.teardown

namespace Told

variable {session session' : Nat} {c c' : Central} {own : Bool}
  {callbacks said : List Callback}

/-- What has been told stays as right as it was, whatever is done and for whom. -/
theorem change (h : Told c session said) (hchange : Change session' c own callbacks c') :
    Told c' session said := by
  refine ⟨fun hunborn => h.unborn ?_, h.once, fun hlive' hphase' => ?_,
    fun hended => h.untorn fun h => hended (hchange.hasEnded h)⟩
  · have hle := hchange.sessions_le
    omega
  · -- A session that is live and not yet connected has not been connected before either.
    by_cases hbegun : session ≤ c.sessions
    · refine h.arriving (hchange.live_of_live hbegun hlive') fun hphase => hphase' ?_
      exact (hchange.frame hbegun hlive' fun _ _ => hphase).1.trans hphase
    · rw [h.unborn (.inr (Nat.lt_of_not_le hbegun))]
      simp

/-- What a session tells with a change fits what it has told before. -/
theorem append (h : Told c session said) (hc : c.Coherent)
    (hchange : Change session c own callbacks c')
    (hbegun : callbacks = [] ∨ 0 < session ∧ session ≤ c.sessions) :
    Told c' session (said ++ callbacks) := by
  have hstays := h.change hchange
  refine ⟨fun hunborn => ?_, ?_, fun hlive' hphase' => ?_, fun hended callback hmem => ?_⟩
  · rcases hbegun with rfl | ⟨hpos, hle⟩
    · simpa using hstays.unborn hunborn
    · have hle' := hchange.sessions_le
      omega
  · rw [List.count_append]
    by_cases hmem : .connected true ∈ callbacks
    · obtain ⟨hlive, -, hcount⟩ := hchange.live_of_connected hmem
      have hsaid := h.arriving hlive (hchange.connected_mem_iff.mp hmem).1
      exact Nat.le_of_eq (by rw [hcount, List.count_eq_zero.mpr hsaid])
    · rw [List.count_eq_zero.mpr hmem]
      exact h.once
  · rw [List.mem_append]
    rintro (hmem | hmem)
    · exact hstays.arriving hlive' hphase' hmem
    · exact hphase' (hchange.connected_mem_iff.mp hmem).2
  · rcases List.mem_append.mp hmem with hmem | hmem
    · exact hstays.untorn hended callback hmem
    · -- A teardown is told by the change that ends the session.
      intro hteardown
      obtain ⟨-, -, hlive, rfl⟩ := hchange.closes_of_mem hmem hteardown
      obtain ⟨hpos, hnewest⟩ := hc.newest session hlive
      exact hended ⟨hpos, Nat.le_of_eq hnewest, by simp [Central.cleared]⟩

end Told

namespace System

/-- A session that has not begun has no say. -/
theorem Sound.callbacks_eq_nil_or_begun {s t : System} {action : Action}
    {now : List (Actor × Event)} {session : Nat} (hs : s.Sound)
    (h : s.step action = some (t, now)) (hcycle : s.cycle? action = some session) :
    callbacksIn now = [] ∨ 0 < session ∧ session ≤ s.central.sessions := by
  rcases hs.begun h hcycle with rfl | hbegun
  · obtain ⟨-, hcallbacks, -⟩ := step_start h
    rw [hcallbacks, Task.start]
    split <;> exact .inl rfl
  · exact .inr hbegun

/-- **What each session has told is in order**, after every history. -/
theorem told_of_leads {profile : Profile} {ms : List Moment} {s : System}
    (h : (initial profile).Leads ms s) (session : Nat) :
    Told s.central session (told ms session) := by
  refine h.induction (motive := fun ms s => Told s.central session (told ms session))
    ⟨fun _ => rfl, by simp [told], by simp [told], by simp [told]⟩
    fun past m hpast hstep ih => ?_
  have hs := sound_of_leads hpast
  obtain ⟨-, heffect⟩ := hs.step hstep
  rw [told_snoc]
  by_cases hcycle : m.cycle? = some session
  · rw [if_pos hcycle]
    obtain ⟨own, hchange, -⟩ := heffect.change_of_cycle? hcycle
    exact ih.append hs.coherent hchange (hs.callbacks_eq_nil_or_begun hstep hcycle)
  · rw [if_neg hcycle, List.append_nil]
    obtain ⟨_, _, _, hchange⟩ := heffect.change
    exact ih.change hchange

/-! ### The end of a session, and after -/

/-- **Whoever is over only has a word about its own progress or failure left.** -/
theorem told_of_hasEnded {s t : System} {later : List Moment} {session : Nat} (hs : s.Sound)
    (hended : s.central.HasEnded session) (h : s.Leads later t) :
    ∀ callback ∈ told later session, callback.isNote ∨ callback.isWarning := by
  refine h.induction (motive := fun later _ => ∀ callback ∈ told later session,
    callback.isNote ∨ callback.isWarning) (by simp [told]) fun past m hpast hstep ih => ?_
  -- It stays over, so that whatever is done for it comes to nothing but words.
  obtain ⟨hs, hpos, hbegun, hdead⟩ := hs.hasEnded_of_leads hpast hended
  intro callback hmem
  rw [told_snoc, List.mem_append] at hmem
  rcases hmem with hmem | hmem
  · exact ih callback hmem
  · split at hmem
    next hcycle =>
      obtain ⟨own, hchange, -⟩ := (hs.step hstep).2.change_of_cycle? hcycle
      exact ((hchange.eq_of_dead hdead hbegun).2 callback hmem).2
    next => exact absurd hmem (by simp)

theorem closing?_of_attempt? {s : System} {action : Action} {session : Nat}
    (h : s.attempt? action = some session) : s.closing? action = none := by
  cases action with
  | start operation => cases operation <;> simp_all [attempt?, closing?]
  | send number => rfl
  | reply number slot reply =>
    obtain ⟨task, htask, hattempt⟩ := Option.bind_eq_some_iff.mp h
    obtain ⟨stage, hwork⟩ := Task.attempt?_eq_some.mp hattempt
    simp [closing?, htask, hwork]
  | push session event => exact absurd h (by simp [attempt?])
  | endOfStream session => exact absurd h (by simp [attempt?])

/-- **A session ends in one of two ways**: its own connect cycle fails and says nothing of
it, or it is closed and the observer is told. -/
theorem Effect.of_ends {s : System} {action : Action} {callbacks : List Callback}
    {c' : Central} {session : Nat} (h : s.Effect action callbacks c') (hc : s.central.Coherent)
    (hlive : s.central.connection.session = some session)
    (hdead : c'.connection.session ≠ some session) :
    s.cycle? action = some session ∧
      (s.attempt? action = some session ∧
          (∀ callback ∈ callbacks, callback ∉ Callback.teardown) ∨
        s.closing? action = some session ∧ callbacks = Callback.teardown) := by
  cases h with
  | @work session' own _ _ hcycle hattempt hclosing hchange =>
    obtain ⟨rfl, hends⟩ := hchange.of_ends hc hlive hdead
    refine ⟨hcycle, hends.imp (fun hown => ?_) fun hother => ?_⟩
    · exact ⟨hattempt hown.1, hown.2⟩
    · exact ⟨hclosing hother.1 hother.2, hother.2⟩
  | request _ _ hchange =>
    obtain ⟨-, hends⟩ := hchange.of_ends hc hlive hdead
    exact absurd hends (by simp [Callback.teardown])
  | word => exact absurd hlive hdead

theorem Effect.lastWord_eq {s : System} {action : Action} {callbacks : List Callback}
    {c' : Central} (h : s.Effect action callbacks c') {first : List Callback}
    (hfirst : lastWord first = s.central.isConnected) :
    lastWord (first ++ callbacks) = c'.isConnected := by
  have hquiet (hstatus : ∀ callback ∈ callbacks, callback.isStatus) :
      lastWord (first ++ callbacks) = lastWord first := by
    refine lastWord_append_of_quiet fun callback hmem on heq => ?_
    exact absurd (hstatus callback hmem) (by simp [heq, Callback.isStatus])
  cases h with
  | work _ _ _ hchange => exact hchange.lastWord_eq hfirst
  | request _ _ hchange hstatus =>
    rw [hquiet hstatus]
    simpa using hchange.lastWord_eq hfirst
  | word _ hstatus => rw [hquiet hstatus, hfirst]

/-- **A session arrives with the word that it does.** -/
theorem Effect.arrives_iff {s : System} {action : Action} {callbacks : List Callback}
    {c' : Central} (h : s.Effect action callbacks c') (session : Nat) :
    s.cycle? action = some session ∧ .connected true ∈ callbacks ↔
      s.central.connection.phase ≠ .connected ∧ c'.connection.phase = .connected ∧
        c'.connection.session = some session := by
  constructor
  · rintro ⟨hcycle, hmem⟩
    obtain ⟨own, hchange, -⟩ := h.change_of_cycle? hcycle
    obtain ⟨hbefore, hafter⟩ := hchange.connected_mem_iff.mp hmem
    exact ⟨hbefore, hafter, (hchange.live_of_connected hmem).2.1⟩
  · rintro ⟨hbefore, hafter, hlive'⟩
    cases h with
    | @work session' _ _ _ hcycle _ _ hchange =>
      have hmem := hchange.connected_mem_iff.mpr ⟨hbefore, hafter⟩
      obtain rfl : session' = session :=
        Option.some.inj ((hchange.live_of_connected hmem).2.1.symm.trans hlive')
      exact ⟨hcycle, hmem⟩
    | request _ _ hchange =>
      exact absurd (hchange.connected_mem_iff.mpr ⟨hbefore, hafter⟩) (by simp)
    | word => exact absurd hafter hbefore

/-- **The last word about being connected is right**, after every step. -/
theorem lastWord_of_leads {profile : Profile} {ms : List Moment} {s : System}
    (h : (initial profile).Leads ms s) :
    lastWord (ms.flatMap Moment.callbacks) = s.central.isConnected := by
  refine h.induction (motive := fun ms s =>
    lastWord (ms.flatMap Moment.callbacks) = s.central.isConnected) rfl
    fun past m hpast hstep ih => ?_
  rw [List.flatMap_append, List.flatMap_singleton]
  exact ((sound_of_leads hpast).step hstep).2.lastWord_eq ih

/-- A disconnect that finds nothing to close. -/
theorem step_disconnect {s t : System} {now : List (Actor × Event)} (hc : s.central.Coherent)
    (h : s.step (.start .disconnect) = some (t, now))
    (hphase : s.central.connection.phase = .disconnected) :
    now = [] ∧ t = ⟨s.central, s.tasks ++ [Task.finished (.ok .done)]⟩ := by
  have hnew := hc.idle (hc.phase_eq_iff.mp hphase)
  simp only [step, afterTurn, Task.start, hnew, hangUp] at h
  split at h
  · simp only [Option.some.injEq, Prod.mk.injEq] at h
    obtain ⟨rfl, rfl⟩ := h
    simp
  · exact absurd h (by simp)

/-- **How a session that ends is heard of.** The moment at which it ends cuts what it tells
in two: nothing of a teardown comes before, nothing of a teardown and no value after, and
the moment itself brings a whole teardown or nothing of one. -/
theorem told_of_ends {profile : Profile} {past later : List Moment} {m : Moment} {s : System}
    {session : Nat} (h : (initial profile).Leads (past ++ m :: later) s)
    (hends : m.Ends session) :
    m.cycle? = some session ∧
      (m.before.attempt? m.action = some session ∧
          (∀ callback ∈ m.callbacks, callback ∉ Callback.teardown) ∨
        m.before.closing? m.action = some session ∧ m.callbacks = Callback.teardown) ∧
      (∀ callback ∈ told past session, callback ∉ Callback.teardown) ∧
      ∀ callback ∈ told later session,
        callback ∉ Callback.teardown ∧ callback.isValue = false := by
  obtain ⟨hpast, hstep, hlater⟩ := h.split
  have hs := sound_of_leads hpast
  obtain ⟨hs', heffect⟩ := hs.step hstep
  obtain ⟨hcycle, hend⟩ := heffect.of_ends hs.coherent hends.1 hends.2
  refine ⟨hcycle, hend, (told_of_leads hpast session).untorn fun hended => hended.2.2 hends.1,
    fun callback hmem => ?_⟩
  have hended : m.after.central.HasEnded session := by
    obtain ⟨_, _, _, hchange⟩ := heffect.change
    obtain ⟨hpos, hnewest⟩ := hs.coherent.newest session hends.1
    exact ⟨hpos, hnewest ▸ hchange.sessions_le, hends.2⟩
  have hsaid := told_of_hasEnded hs' hended hlater callback hmem
  refine ⟨Callback.notMem_teardown (hsaid.imp_right .inl), ?_⟩
  cases callback with
  | value channel value => simp [Callback.isNote, Callback.isWarning] at hsaid
  | _ => rfl

/-- **What an observer may rely on**, in every history.

* A session says that it is connected once at most, and it does so with the step that
  connects it.
* A session that ends was left by its own connect cycle or closed from outside. In the first
  case it makes none of the callbacks of a teardown; in the second it makes all of them, at
  once and in their order, none of them before or after, and no value afterwards.
* A session that has not ended has made none of them.
* What belongs to no session is only ever a status, and the last word about being connected
  is right.
* A disconnect that finds no connection makes no callback and no call. -/
theorem protocol_of_leads {profile : Profile} {ms : List Moment} {s : System}
    (h : (initial profile).Leads ms s) :
    (∀ session, (told ms session).count (.connected true) ≤ 1) ∧
    (∀ m ∈ ms, ∀ session,
      m.cycle? = some session ∧ .connected true ∈ m.callbacks ↔ m.Arrives session) ∧
    (∀ past m later session, ms = past ++ m :: later → m.Ends session →
      (m.before.attempt? m.action = some session ∨
        m.before.closing? m.action = some session) ∧
      (m.before.attempt? m.action = some session →
        ∀ callback ∈ told ms session, callback ∉ Callback.teardown) ∧
      (m.before.closing? m.action = some session →
        m.callbacks = Callback.teardown ∧
        told ms session = told past session ++ Callback.teardown ++ told later session ∧
        (∀ callback ∈ told past session, callback ∉ Callback.teardown) ∧
        ∀ callback ∈ told later session,
          callback ∉ Callback.teardown ∧ callback.isValue = false)) ∧
    (∀ session, ¬s.central.HasEnded session →
      ∀ callback ∈ told ms session, callback ∉ Callback.teardown) ∧
    (∀ m ∈ ms, m.cycle? = none → ∀ callback ∈ m.callbacks, callback.isStatus) ∧
    lastWord (ms.flatMap Moment.callbacks) = s.central.isConnected ∧
    ∀ m ∈ ms, m.action = .start .disconnect →
      m.before.central.connection.phase = .disconnected →
      m.seen = [] ∧ m.after =
        ⟨m.before.central, m.before.tasks ++ [Task.finished (.ok .done)]⟩ := by
  have hcut (m : Moment) (hmem : m ∈ ms) :
      ∃ past, (initial profile).Leads past m.before ∧
        m.before.step m.action = some (m.after, m.seen) := by
    obtain ⟨past, later, rfl⟩ := List.append_of_mem hmem
    exact ⟨past, h.split.1, h.split.2.1⟩
  refine ⟨fun session => (told_of_leads h session).once, fun m hmem session => ?_,
    fun past m later session hms hends => ?_,
    fun session hended => (told_of_leads h session).untorn hended, fun m hmem hcycle => ?_,
    lastWord_of_leads h, fun m hmem haction hphase => ?_⟩
  · obtain ⟨past, hpast, hstep⟩ := hcut m hmem
    exact ((sound_of_leads hpast).step hstep).2.arrives_iff session
  · subst hms
    obtain ⟨hcycle, hend, hbefore, hafter⟩ := told_of_ends h hends
    have htold : told (past ++ m :: later) session =
        told past session ++ m.callbacks ++ told later session := by
      rw [told_append, told_cons, if_pos hcycle, List.append_assoc]
    refine ⟨hend.imp And.left And.left, fun hattempt callback hmem => ?_, fun hclosing => ?_⟩
    · have hquiet := hend.resolve_right fun hclosed => by
        simp [closing?_of_attempt? hattempt] at hclosed
      rw [htold, List.mem_append, List.mem_append] at hmem
      rcases hmem with (hmem | hmem) | hmem
      · exact hbefore callback hmem
      · exact hquiet.2 callback hmem
      · exact (hafter callback hmem).1
    · have hclosed := hend.resolve_left fun hfailed => by
        simp [closing?_of_attempt? hfailed.1] at hclosing
      exact ⟨hclosed.2, hclosed.2 ▸ htold, hbefore, hafter⟩
  · obtain ⟨past, hpast, hstep⟩ := hcut m hmem
    exact ((sound_of_leads hpast).step hstep).2.isStatus_of_cycle? hcycle
  · obtain ⟨past, hpast, hstep⟩ := hcut m hmem
    rw [haction] at hstep
    obtain ⟨hseen, hafter⟩ := step_disconnect (sound_of_leads hpast).coherent hstep hphase
    exact ⟨hseen, hafter⟩

/-- The alarm clock goes out of reach while it is connected. -/
theorem protocol_of_lost_alarm :
    ∃ ms s, (initial Profile.alarm).Leads ms s ∧ s.central.HasEnded 1 ∧
      (told ms 1).count (.connected true) ≤ 1 ∧
      lastWord (ms.flatMap Moment.callbacks) = s.central.isConnected := by
  obtain ⟨s, seen, hrun, hended⟩ : ∃ s seen, (initial Profile.alarm).run
      [.start .connect, .send 0, .reply 0 0 (.availability true), .send 0,
        .reply 0 0 (.device (.ok ⟨0, none⟩)), .send 0, .reply 0 0 (.done (.ok ())), .send 0,
        .reply 0 0 (.done (.ok ())), .send 0,
        .reply 0 0 (.services (.ok
          [⟨Uuid.alarmService, Profile.alarm.channels.map ChannelSpec.uuid⟩])),
        .push 1 .disconnected] = some (s, seen) ∧ s.central.HasEnded 1 :=
    ⟨_, _, rfl, by decide, by decide, by decide⟩
  obtain ⟨ms, h, -⟩ := run_iff_leads.mp hrun
  obtain ⟨honce, -, -, -, -, hlast, -⟩ := protocol_of_leads h
  exact ⟨ms, s, h, hended, honce 1, hlast⟩

end System

end CarrierLink
