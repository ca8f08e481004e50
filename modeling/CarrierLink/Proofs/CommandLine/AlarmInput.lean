import CarrierLink.Proofs.Arming
import CarrierLink.Proofs.Central.Limits
import CarrierLink.Proofs.CommandLine.Course
import CarrierLink.Proofs.Melody.RoundTrip
import CarrierLink.Proofs.Radio

/-!
# How far an alarm gets that cannot be sent

The command that sets an alarm reads its time and its melody first, and if one of them makes
no sense there is no session at all. A melody may also be too long for the board
(`CarrierLink.AlarmInput.TooLong`), and this is not found until the alarm is programmed. The
session has been opened by then, and opening one sets the board's clock. So
the radio is in use when the command fails
(`CarrierLink.AlarmInput.clock_set_before_failure` is such a run), and what can be said is
(`CarrierLink.AlarmInput.failed_of_run`): nothing but the clock is ever written, the command
does not succeed, and if it says that the melody is too long then the clock has been set.

The proof follows the stages of the program (`CarrierLink.AlarmInput.Course`). Every
operation of the session keeps to limits (`CarrierLink.AlarmInput.limits`), by which it
cannot fail to encode anything, and of a melody that is too long only the clock may be
written. The operation that programs the alarm is the exception: with such a melody it has
ended as soon as it begins.
-/

namespace CarrierLink

namespace AlarmInput

open AlarmClock

/-! ### The session of an alarm -/

/-- The melody is too long for the board. -/
def TooLong (config : AlarmConfig) : Prop :=
  Wire.maxTextLength < config.melody.wireText.utf8ByteSize

instance (config : AlarmConfig) : Decidable (TooLong config) :=
  inferInstanceAs (Decidable (_ < _))

/-- The failure of a melody that is too long. -/
def tooLong (config : AlarmConfig) : Error :=
  .encode (.textTooLong config.melody.wireText.utf8ByteSize)

/-- The session in which an alarm is set. -/
def sessionPlan (settings : Settings) (config : AlarmConfig) (clock : Readings) : Plan :=
  ⟨.alarm, Command.filter settings .alarm, clock.opening,
    Command.saying (configure config clock.programming) s!"Alarm set for {config.time.text}"⟩

theorem errand_setAlarm (settings : Settings) (clock : Readings) (time melody : String) :
    Command.errand settings clock (.setAlarm time melody) =
      match AlarmConfig.parse time melody with
      | .error e => .print [] (some (.validation e))
      | .ok config => .session (sessionPlan settings config clock) := rfl

/-- The bytes of the clock. -/
def clockBytes (now : ClockTime) : Bytes := [UInt8.ofNat now.hour, UInt8.ofNat now.minute]

/-- The board's clock has been set, by the log of the radio. -/
def ClockSet (now : ClockTime) (log : List (RadioStep × Bool)) : Prop :=
  ∃ device, (.write device (Uuid.ofChannel .localTime) (clockBytes now), true) ∈ log

/-- A step of the radio that writes nothing but the clock. -/
def WritesClock (now : ClockTime) (step : RadioStep) : Prop :=
  ∀ device characteristic data, step = .write device characteristic data →
    characteristic = Uuid.ofChannel .localTime ∧ data = clockBytes now

/-! ### What its operations keep to -/

/-- **The limits of the session**: the clock, and the settings of the alarm if the melody fits.
None of these fails to be encoded. -/
def limits (config : AlarmConfig) (clock : Readings) : Limits where
  requests request := request = .write .localTime (.time clock.opening) ∨
    ¬TooLong config ∧ ∃ setting ∈ settings config clock.programming,
      request = .write setting.1 setting.2
  failures _ := False

section Limits

variable {config : AlarmConfig} {clock : Readings}

theorem limits_clock :
    (limits config clock).requests (.write .localTime (.time clock.opening)) := .inl rfl

theorem limits_of_mem (hfits : ¬TooLong config) {setting : Channel × Value}
    (hmem : setting ∈ settings config clock.programming) :
    (limits config clock).requests (.write setting.1 setting.2) :=
  .inr ⟨hfits, setting, hmem, rfl⟩

theorem encode_wireText (hfits : ¬TooLong config) :
    Wire.encode .text (.text config.melody.wireText) =
      .ok (Bytes.ofText config.melody.wireText) := by
  simp only [Wire.encode]
  rw [if_pos (Nat.not_lt.mp hfits)]

theorem limits_suits : (limits config clock).Suits Profile.alarm := by
  rintro _ spec e (rfl | ⟨hfits, setting, hmem, rfl⟩) hspec hencode
  · obtain rfl := Option.some.inj hspec
    exact absurd hencode (by simp [Request.outgoing, Profile.entry, Wire.encode, Except.map])
  simp only [settings, clockTimes, afterTimes, List.cons_append, List.nil_append,
    List.mem_cons, List.not_mem_nil, or_false] at hmem
  rcases hmem with rfl | rfl | rfl | rfl <;> obtain rfl := Option.some.inj hspec
  · exact absurd hencode (by simp [Request.outgoing, Profile.entry, Wire.encode, Except.map])
  · exact absurd hencode (by simp [Request.outgoing, Profile.entry, Wire.encode, Except.map])
  · refine absurd hencode ?_
    simp only [Request.outgoing, Profile.entry, encode_wireText hfits, Except.map]
    simp
  · exact absurd hencode (by simp [Request.outgoing, Profile.entry, Wire.encode, Except.map])

theorem within_onDone {next : Script} (hnext : next.Within (limits config clock))
    {response : Response} (h : (limits config clock).Admits response) :
    (Script.onDone next response).Within (limits config clock) := by
  cases response with
  | ok => exact hnext
  | error e =>
    intro e' he'
    exact h e' (congrArg Except.error (Except.error.inj he'))

theorem within_setClock : (setClock clock.opening).Within (limits config clock) := by
  refine ⟨limits_clock, fun _ h => within_onDone ?_ h⟩
  exact Limits.admits_ok _

theorem within_configure (hfits : ¬TooLong config) :
    (configure config clock.programming).Within (limits config clock) := by
  have hmem (channel : Channel) (value : Value)
      (h : (channel, value) ∈ settings config clock.programming) :
      (limits config clock).requests (.write channel value) := limits_of_mem hfits h
  have hinTurn : (inTurn config (afterTimes config)).Within (limits config clock) := by
    refine ⟨hmem _ _ (by simp [settings, afterTimes]), fun _ h => within_onDone ?_ h⟩
    refine ⟨hmem _ _ (by simp [settings, afterTimes]), fun _ h => within_onDone ?_ h⟩
    exact Limits.admits_ok _
  rw [configure_eq, encode_wireText hfits]
  exact ⟨hmem _ _ (by simp [settings, clockTimes]), hmem _ _ (by simp [settings, clockTimes]),
    fun _ _ h₁ h₂ => within_onDone (within_onDone hinTurn h₂) h₁⟩

theorem run_configure (hlong : TooLong config) (now : ClockTime) (c : Central) :
    (configure config now).run c = ⟨c, [], Task.finished (.error (tooLong config))⟩ := by
  rw [configure_eq]
  simp only [Wire.encode]
  rw [if_neg (Nat.not_le.mpr hlong)]
  rfl

/-- **What a write of the session writes**, when the melody is too long. -/
theorem eq_clock_of_within (hlong : TooLong config) {t : Transfer}
    (h : t.Within (limits config clock) Profile.alarm) :
    t.Writes Profile.alarm t.session t.link .localTime (.time clock.opening) := by
  obtain ⟨c, request, hc, hprofile, rfl | ⟨hfits, -⟩, hcheck⟩ := h
  · exact hprofile ▸ (Transfer.writes_of_check hc hcheck).1
  · exact absurd hlong hfits

theorem call_of_clock {now : ClockTime} {t : Transfer}
    (h : t.Writes Profile.alarm t.session t.link .localTime (.time now)) :
    t.call = .write t.link ⟨Uuid.alarmService, Uuid.ofChannel .localTime⟩ (clockBytes now) := by
  have hdata (data : Bytes) (h : Wire.time.encode (.time now) = .ok data) :
      data = clockBytes now := (Except.ok.inj h).symm
  have hspec : Profile.alarm.spec? (Channel.localTime, Value.time now).1 =
      some (Profile.entry .primary .time .readWrite .localTime) := rfl
  exact call_of_writes hspec hdata h

end Limits

/-! ### The stages of the session -/

/-- **The operation that sets the clock** is out with it, or has ended; and if it has ended
well the clock has been set. -/
def Clocking (now : ClockTime) (log : List (RadioStep × Bool)) (task : Task) : Prop :=
  (∃ t : Transfer, task.work = .single t (Request.write .localTime (.time now)).next ∧
    t.Writes Profile.alarm t.session t.link .localTime (.time now)) ∨
  ∃ outcome, task.work = .finished outcome ∧ ∀ answer, outcome = .ok answer → ClockSet now log

/-- What is known of the operation under way at a stage. -/
def Doing (config : AlarmConfig) (clock : Readings) (log : List (RadioStep × Bool))
    (task : Task) : Program.Stage → Prop
  | .settingClock =>
    task.Within (limits config clock) Profile.alarm ∧ Clocking clock.opening log task
  | .working _ =>
    if TooLong config then task.outcome? = some (.error (tooLong config))
    else task.Within (limits config clock) Profile.alarm
  | _ => task.Within (limits config clock) Profile.alarm

/-- **What the command may end with.** -/
structure Verdict (config : AlarmConfig) (now : ClockTime) (log : List (RadioStep × Bool))
    (result : Except Error Unit) : Prop where
  encode : ∀ e, result = .error (.encode e) →
    TooLong config ∧ .encode e = tooLong config ∧ ClockSet now log
  fails : TooLong config → result ≠ .ok ()

/-- What is known of the session at a stage. -/
def Knows (config : AlarmConfig) (now : ClockTime) (log : List (RadioStep × Bool)) :
    Program.Stage → Prop
  | .opening | .settingClock => True
  | .abandoning e => ∀ e', e ≠ .encode e'
  | .working _ => ClockSet now log
  | .watching _ => False
  | .closing result | .ended result => Verdict config now log result

/-- **The course of the session.** -/
structure Course (config : AlarmConfig) (clock : Readings) (plan : Plan) (p : Program) :
    Prop where
  plan_eq : p.plan = plan
  reached : p.Reached
  writes : TooLong config → ∀ entry ∈ p.log, WritesClock clock.opening entry.1
  knows : Knows config clock.opening p.log p.stage
  doing : p.Doing fun task => Doing config clock p.log task p.stage

section Tasks

variable {config : AlarmConfig} {now : ClockTime} {clock : Readings}
  {log log' : List (RadioStep × Bool)} {task task' : Task} {stage : Program.Stage}

theorem ClockSet.mono (h : ClockSet now log) (hsub : log ⊆ log') : ClockSet now log' := by
  obtain ⟨device, hmem⟩ := h
  exact ⟨device, hsub hmem⟩

theorem Knows.mono (h : Knows config now log stage) (hsub : log ⊆ log') :
    Knows config now log' stage := by
  have hverdict {result : Except Error Unit} (h : Verdict config now log result) :
      Verdict config now log' result :=
    ⟨fun e he => ⟨(h.encode e he).1, (h.encode e he).2.1, (h.encode e he).2.2.mono hsub⟩, h.fails⟩
  cases stage with
  | working => exact ClockSet.mono h hsub
  | closing => exact hverdict h
  | ended => exact hverdict h
  | _ => exact h

theorem outcome?_eq_some {outcome : Outcome} :
    task.outcome? = some outcome ↔ task.work = .finished outcome := by
  cases hwork : task.work <;> simp [Task.outcome?, hwork]

/-- It makes no difference which of its calls an operation has sent. -/
theorem Doing.congr (h : Doing config clock log task stage) (hwork : task'.work = task.work)
    (hcalls : ∀ ticket ∈ task'.unanswered, ticket ∈ task.unanswered) :
    Doing config clock log task' stage := by
  cases stage with
  | settingClock =>
    refine ⟨h.1.congr hwork hcalls, ?_⟩
    rw [Clocking, hwork]
    exact h.2
  | working =>
    simp only [Doing] at h ⊢
    split at h
    next hlong =>
      rw [if_pos hlong, outcome?_eq_some, hwork, ← outcome?_eq_some]
      exact h
    next hfits =>
      rw [if_neg hfits]
      exact h.congr hwork hcalls
  | _ => exact Task.Within.congr h hwork hcalls

/-- An operation that can still be answered is within the limits. -/
theorem Doing.within (h : Doing config clock log task stage) (hopen : task.outcome? = none) :
    task.Within (limits config clock) Profile.alarm := by
  cases stage with
  | settingClock => exact h.1
  | working =>
    simp only [Doing] at h
    split at h
    · exact absurd (hopen.symm.trans h) (by simp)
    · exact h
  | _ => exact h

theorem outcome?_of_answer {c : Central} {slot : Nat} {reply : Reply} {turn : Turn}
    (h : task.answer c slot reply = some turn) : task.outcome? = none := by
  cases hwork : task.work with
  | finished outcome => simp [Task.answer, hwork] at h
  | _ => simp [Task.outcome?, hwork]

end Tasks

/-! ### Steps of the session -/

section Steps

variable {config : AlarmConfig} {now : ClockTime} {clock : Readings} {plan : Plan}
  {p p' q : Program} {reports : List Callback} {stage : Program.Stage}

/-- **The answer to the operation that sets the clock.** If it succeeds, so has the write on
the air. -/
theorem Clocking.answer {c : Central} {log : List (RadioStep × Bool)} {task : Task} {call : Call}
    {slot : Nat} {filter : Filter} {result : Radio.Result} {reply : Reply} {turn : Turn}
    (h : Clocking now log task) (hturn : task.answer c slot reply = some turn)
    (hcall : ∀ t next, task.work = .single t next → call = t.call)
    (hreply : Radio.reply? filter call result = some reply) :
    Clocking now (log ++ Radio.steps call result) turn.task := by
  rcases h with ⟨t, hwork, hwrites⟩ | ⟨outcome, hwork, -⟩
  · simp only [Task.answer, hwork, Option.ite_none_right_eq_some] at hturn
    obtain ⟨⟨c', response⟩, hconclude, rfl⟩ := Option.map_eq_some_iff.mp hturn.2
    rw [Request.run_next]
    refine .inr ⟨_, rfl, fun answer hanswer => ?_⟩
    rw [hcall t _ hwork, call_of_clock hwrites] at hreply ⊢
    obtain ⟨data, hencode, houtgoing⟩ := hwrites.encoded
    have hsent : (Request.write .localTime (.time now)).outgoing t.spec.wire = .ok t.outgoing := by
      simp [Request.outgoing, hencode, houtgoing, Except.map]
    have hsettled := Settled.of_conclude hwrites.channel_eq hsent hconclude
    rw [hanswer] at hsettled
    cases hsettled with
    | written =>
      exact ⟨t.link.number, List.mem_append_right _ (Radio.mem_steps_of_done hreply)⟩
  · simp [Task.answer, hwork] at hturn

/-- **An answer** to the operation under way. -/
theorem Doing.answer {c : Central} {log : List (RadioStep × Bool)} {task : Task} {call : Call}
    {slot : Nat} {filter : Filter} {result : Radio.Result} {reply : Reply} {turn : Turn}
    (hc : c.Coherent) (hprofile : c.profile = Profile.alarm) (hfits : task.Fits c)
    (h : Doing config clock log task stage) (hturn : task.answer c slot reply = some turn)
    (hcall : ∃ ticket ∈ task.unanswered, call = ticket.call)
    (hreply : Radio.reply? filter call result = some reply) :
    Doing config clock (log ++ Radio.steps call result) turn.task stage := by
  have hwithin := h.within (outcome?_of_answer hturn)
  have hwithin' : turn.task.Within (limits config clock) Profile.alarm := by
    refine hwithin.answer limits_suits hc hprofile hfits (fun e he => ?_) hturn
    exact (Radio.isPlatform_of_reply? hreply he).elim
  cases stage with
  | settingClock =>
    refine ⟨hwithin', h.2.answer hturn (fun t next hwork => ?_) hreply⟩
    obtain ⟨ticket, hmem, rfl⟩ := hcall
    simp only [Task.Within, hwork] at hwithin
    exact hwithin.2.1 ticket hmem
  | working =>
    simp only [Doing] at h ⊢
    split at h
    · exact absurd ((outcome?_of_answer hturn).symm.trans h) (by simp)
    next hfits => rwa [if_neg hfits]
  | _ => exact hwithin'

/-- **What an answered call has put on the air**, when the melody is too long. -/
theorem writesClock_of_within {task : Task} (hlong : TooLong config)
    (h : task.Within (limits config clock) Profile.alarm) {call : Call} {result : Radio.Result}
    (hcall : ∃ ticket ∈ task.unanswered, call = ticket.call) :
    ∀ entry ∈ Radio.steps call result, WritesClock clock.opening entry.1 := by
  rintro ⟨step, ok⟩ hmem device characteristic data rfl
  obtain ⟨link, handle, hwrite, rfl⟩ := Radio.write_of_mem_steps hmem
  obtain ⟨ticket, hticket, rfl⟩ := hcall
  rcases h.call hticket with ⟨stage, hasks⟩ | hdisconnect | ⟨t, ht, hcall⟩
  · -- Neither a connect cycle nor a teardown writes anything.
    rw [hwrite] at hasks
    cases stage <;> exact hasks.elim
  · rw [hwrite] at hdisconnect
    exact absurd hdisconnect (by simp [Call.isDisconnect])
  · rw [hwrite, call_of_clock (eq_clock_of_within hlong ht)] at hcall
    obtain ⟨-, rfl, rfl⟩ := Call.write.inj hcall
    exact ⟨rfl, rfl⟩

/-- A new stage begins with a new operation. -/
theorem Course.start {operation : Operation} (h : Course config clock plan p)
    (hstart : q.start operation stage = some (p', reports)) (hsystem : q.system = p.system)
    (hplan : q.plan = p.plan) (hlog : q.log = p.log)
    (hknows : Knows config clock.opening p.log stage)
    (hdoing : Doing config clock p.log (Task.start p.system.central operation).task stage) :
    Course config clock plan p' := by
  obtain ⟨hstage', hplan', hlog', ⟨task, htask, rfl⟩, hreached⟩ := Program.doing_of_start hstart
  refine ⟨hplan'.trans (hplan.trans h.plan_eq), hreached (h.reached.congr hsystem hplan), ?_, ?_,
    _, htask, ?_⟩
  · rw [hlog', hlog]
    exact h.writes
  · rw [hlog', hlog, hstage']
    exact hknows
  · rw [hlog', hlog, hstage', hsystem]
    exact hdoing

/-- The session is over. -/
theorem Course.stop {result : Except Error Unit} (h : Course config clock plan p)
    (hstop : q.stop result = some (p', reports)) (hsystem : q.system = p.system)
    (hplan : q.plan = p.plan) (hlog : q.log = p.log)
    (hverdict : Verdict config clock.opening p.log result)
    (hdoing : p.Doing (Task.Within (limits config clock) Profile.alarm)) :
    Course config clock plan p' := by
  obtain ⟨rfl, -⟩ := Prod.mk.inj (Option.some.inj hstop)
  refine ⟨hplan.trans h.plan_eq, h.reached.congr hsystem hplan, ?_, ?_, hdoing.congr hsystem⟩
  · change TooLong config → ∀ entry ∈ q.log, WritesClock clock.opening entry.1
    rw [hlog]
    exact h.writes
  · change Verdict config clock.opening q.log result
    rwa [hlog]

/-- A connection is closed within the limits. -/
theorem within_disconnect (hc : p.system.central.Coherent)
    (hprofile : p.system.central.profile = Profile.alarm) :
    (Task.start p.system.central .disconnect).task.Within (limits config clock) Profile.alarm :=
  Task.within_start limits_suits hc hprofile (by simp)

/-- The clock goes out as soon as the board can be reached. -/
theorem clocking_start (hc : p.system.central.Coherent)
    (hprofile : p.system.central.profile = Profile.alarm) (log : List (RadioStep × Bool)) :
    Clocking now log (Task.start p.system.central (.run (setClock now))).task := by
  have hrun := (Request.write .localTime (.time now)).run_script p.system.central
  rw [Task.start, show setClock now = (Request.write .localTime (.time now)).script from rfl, hrun]
  split
  next t hcheck =>
    exact .inl ⟨t, rfl, hprofile ▸ (Transfer.writes_of_check hc hcheck).1⟩
  next e _ => exact .inr ⟨_, rfl, by simp⟩

/-- **The program goes on** after an operation. -/
theorem Course.proceed {settings : Settings} {outcome : Outcome}
    (h : Course config clock (sessionPlan settings config clock) p)
    (houtcome : p.outcome? = some outcome) (hproceed : p.proceed outcome = some (p', reports)) :
    Course config clock (sessionPlan settings config clock) p' := by
  have hc := h.reached.sound.coherent
  have hprofile : p.system.central.profile = Profile.alarm := by
    rw [h.reached.profile_eq, h.plan_eq]
    rfl
  obtain ⟨task, htask, hdoing⟩ := h.doing
  have hknows := h.knows
  have hended : task.work = .finished outcome := by
    rw [Program.outcome?, htask] at houtcome
    exact outcome?_eq_some.mp houtcome
  have hadmits (hwithin : task.Within (limits config clock) Profile.alarm) (e : EncodeError) :
      outcome ≠ .error (.encode e) := by
    simp only [Task.Within, hended] at hwithin
    exact fun he => hwithin.2 e he
  have hfailed {log : List (RadioStep × Bool)} {e : Error} (he : ∀ e', e ≠ .encode e') :
      Verdict config clock.opening log (.error e) :=
    ⟨fun e' he' => absurd (Except.error.inj he') (he e'), by simp⟩
  simp only [Program.proceed] at hproceed
  split at hproceed
  next e hstage =>
    rw [hstage] at hdoing
    exact h.stop hproceed (by simp) (by simp) (by simp)
      (hfailed fun e' he => hadmits hdoing e' (congrArg Except.error he)) ⟨task, htask, hdoing⟩
  next hstage =>
    rw [h.plan_eq] at hproceed
    refine h.start hproceed (by simp) (by simp) (by simp) trivial ?_
    exact ⟨Task.within_start limits_suits hc hprofile fun _ hrun =>
      Operation.run.inj hrun ▸ within_setClock, clocking_start hc hprofile _⟩
  next e hstage =>
    rw [hstage] at hdoing
    refine h.start hproceed rfl rfl rfl ?_ (within_disconnect hc hprofile)
    exact fun e' he => hadmits hdoing.1 e' (congrArg Except.error he)
  next answer hstage =>
    rw [hstage] at hdoing
    rw [Program.startJob, Program.print_plan, h.plan_eq] at hproceed
    refine h.start hproceed rfl rfl rfl ?_ ?_
    · -- The clock has been set, and the alarm comes next.
      rcases hdoing.2 with ⟨t, hwork, -⟩ | ⟨_, hwork, hset⟩
      · exact absurd (hwork.symm.trans hended) (by simp)
      · exact hset answer (Work.finished.inj (hwork.symm.trans hended))
    · simp only [Doing, Task.start]
      split
      next hlong =>
        rw [run_configure hlong]
        rfl
      next hfits => exact Script.within_run limits_suits hc hprofile (within_configure hfits)
  next e _ hstage =>
    rw [hstage] at hdoing hknows
    exact h.stop hproceed rfl rfl rfl (hfailed hknows) ⟨task, htask, hdoing⟩
  next _ e hstage =>
    rw [hstage] at hdoing hknows
    refine h.start hproceed (by simp) (by simp) (by simp) ?_ (within_disconnect hc hprofile)
    simp only [Doing] at hdoing
    split at hdoing
    next hlong =>
      obtain rfl : e = tooLong config :=
        Except.error.inj (Option.some.inj ((outcome?_eq_some.mpr hended).symm.trans hdoing))
      exact ⟨fun e' he' => ⟨hlong, (Except.error.inj he').symm, hknows⟩, by simp⟩
    next => exact hfailed fun e' he => hadmits hdoing e' (congrArg Except.error he)
  next printed answer hstage =>
    rw [hstage] at hdoing
    refine h.start hproceed (by simp) (by simp) (by simp) ⟨by simp, fun hlong => ?_⟩
      (within_disconnect hc hprofile)
    simp only [Doing, if_pos hlong] at hdoing
    exact absurd ((outcome?_eq_some.mpr hended).symm.trans hdoing) (by simp)
  next result _ hstage =>
    rw [hstage] at hdoing hknows
    exact h.stop hproceed (by simp) (by simp) (by simp) hknows ⟨task, htask, hdoing⟩
  next => exact absurd hproceed (by simp)
  next => exact absurd hproceed (by simp)

/-- **Every step keeps the course of the session.** -/
theorem Course.next {settings : Settings}
    (h : Course config clock (sessionPlan settings config clock) p) {action : Program.Action}
    (hmoves : p.Moves action p') :
    Course config clock (sessionPlan settings config clock) p' := by
  obtain ⟨task, htask, hdoing⟩ := h.doing
  cases hmoves with
  | acts haction hstep =>
    obtain ⟨task', htask', hwork, hcalls⟩ := Program.doing_of_acts haction hstep htask
    exact ⟨h.plan_eq, h.reached.next hstep rfl, h.writes, h.knows, task', htask',
      hdoing.congr hwork hcalls⟩
  | @answers slot result call reply system seen hcall hreply hstep =>
    obtain ⟨turn, hturn, htask'⟩ := Program.doing_of_answers hstep htask
    obtain ⟨ticket, hmem, -, hticket⟩ := Program.exists_of_call? htask hcall
    have hs := h.reached.sound
    have hprofile : p.system.central.profile = Profile.alarm := by
      rw [h.reached.profile_eq, h.plan_eq]
      rfl
    refine ⟨h.plan_eq, h.reached.next hstep rfl, fun hlong => ?_,
      h.knows.mono (List.subset_append_left _ _), turn.task, htask',
      hdoing.answer hs.coherent hprofile (hs.fits _ _ htask) hturn ⟨ticket, hmem, hticket⟩ hreply⟩
    have hwithin := hdoing.within (outcome?_of_answer hturn)
    exact List.forall_mem_append.mpr
      ⟨h.writes hlong, writesClock_of_within hlong hwithin ⟨ticket, hmem, hticket⟩⟩
  | looks hsystem hplan hlog hstage =>
    refine ⟨hplan.trans h.plan_eq, h.reached.congr hsystem hplan, ?_, ?_, ?_⟩
    · rw [hlog]
      exact h.writes
    · rw [hlog, hstage]
      exact h.knows
    · rw [hlog, hstage]
      exact Program.Doing.congr h.doing hsystem
  | proceeds houtcome hproceed => exact h.proceed houtcome hproceed
  | leaves _ hstage =>
    -- Nothing is watched in this session.
    have hknows := h.knows
    rw [hstage] at hknows
    exact hknows.elim

end Steps

/-! ### The session from its beginning -/

/-- The session at its beginning. -/
theorem course_opened {settings : Settings} {config : AlarmConfig} {clock : Readings}
    {p : Program} {reports : List Callback}
    (h : Program.opened (sessionPlan settings config clock) = some (p, reports)) :
    Course config clock (sessionPlan settings config clock) p := by
  obtain ⟨hstage, hplan, hlog, ⟨task, htask, rfl⟩, hreached⟩ := Program.doing_of_start h
  refine ⟨hplan, hreached (Program.reached_initial _), fun _ => by simp [hlog, Program.initial],
    by rw [hstage]; trivial, _, htask, ?_⟩
  have hwithin : (Task.start ({ profile := Profile.alarm } : Central) .connect).task.Within
      (limits config clock) Profile.alarm :=
    Task.within_start limits_suits (Central.coherent_new _) rfl (by simp)
  rw [hstage]
  exact hwithin

/-! ### An alarm that cannot be sent -/

/-- An alarm with fifty-two tones of a second each, which the board has no room for. -/
def longAlarm : AlarmConfig where
  time := ⟨7, 5⟩
  melody := ⟨List.replicate 52 ⟨1000, 1000⟩, by simp, by simp [Melody.maxSteps]⟩

/-- The minute ends while the session is being opened. -/
def halfPastSix : Readings where
  opening := ⟨6, 30⟩
  programming := ⟨6, 31⟩

theorem parse_longMelody : Melody.parse longAlarm.melody.text = .ok longAlarm.melody := by
  refine (Melody.parse_text_iff _).mpr fun step hstep => ?_
  rw [List.eq_of_mem_replicate hstep]
  exact (Melody.Step.inBounds_iff _).mpr (by decide)

theorem parse_longAlarm : AlarmConfig.parse "7:05" longAlarm.melody.text = .ok longAlarm := by
  have htime : ClockTime.parse "7:05" = .ok longAlarm.time := by decide
  simp only [AlarmConfig.parse, parse_longMelody, htime]
  rfl

/-- Everything goes well: there is one board, and it does all that it is asked to. -/
def obliging : List Program.Action :=
  [.send, .answer 0 (.availability (.ok ()) (.ok 1)),
    .send, .answer 0 (.survey ⟨.ok (), .ok 1, .ok (),
      .ok [⟨"AA:00:00:00:00:02", .ok (some ⟨some "Clock", [Uuid.alarmService], some (-71)⟩)⟩],
      .ok ()⟩),
    .send, .answer 0 (.done (.ok ())),
    .send, .answer 0 (.streams (.ok ()) (.ok ())),
    .send, .answer 0 (.services
      (.ok [⟨Uuid.alarmService, Profile.alarm.channels.map ChannelSpec.uuid⟩])),
    .proceed, .send, .answer 0 (.acknowledgement (some (.ok ()))),
    .proceed, .proceed, .send, .answer 0 (.done (.ok ())), .proceed]

theorem run_obliging :
    ∃ p₀ first p reports,
      Program.opened (sessionPlan {} longAlarm halfPastSix) = some (p₀, first) ∧
      p₀.run obliging = some (p, reports) ∧
      p.result? = some (.error (.encode (.textTooLong 519))) ∧
      p.log.map Prod.fst =
        [.startScan, .stopScan, .connect 1, .notifications 1, .adapterEvents, .discover 1,
          .write 1 (Uuid.ofChannel .localTime) [6, 30], .disconnect 1] := by
  have h : ((Program.opened (sessionPlan {} longAlarm halfPastSix)).bind fun opened =>
      (opened.1.run obliging).map fun ran => (ran.1.result?, ran.1.log.map Prod.fst)) =
        some (some (.error (.encode (.textTooLong 519))),
          [.startScan, .stopScan, .connect 1, .notifications 1, .adapterEvents, .discover 1,
            .write 1 (Uuid.ofChannel .localTime) [6, 30], .disconnect 1]) := by
    decide +kernel
  obtain ⟨⟨p₀, first⟩, hopened, h⟩ := Option.bind_eq_some_iff.mp h
  obtain ⟨⟨p, reports⟩, hrun, h⟩ := Option.map_eq_some_iff.mp h
  exact ⟨p₀, first, p, reports, hopened, hrun, congrArg Prod.fst h, congrArg Prod.snd h⟩

/-- **The clock is set before the alarm fails**: the melody is refused, but there has been a
scan, a connection and a write. -/
theorem clock_set_before_failure :
    ∃ plan p₀ first p reports,
      Command.errand {} halfPastSix (.setAlarm "7:05" longAlarm.melody.text) = .session plan ∧
      Program.opened plan = some (p₀, first) ∧ p₀.run obliging = some (p, reports) ∧
      p.result? = some (.error (.encode (.textTooLong 519))) ∧
      p.log.map Prod.fst =
        [.startScan, .stopScan, .connect 1, .notifications 1, .adapterEvents, .discover 1,
          .write 1 (Uuid.ofChannel .localTime) [6, 30], .disconnect 1] := by
  obtain ⟨p₀, first, p, reports, hopened, hrun, hresult, hlog⟩ := run_obliging
  refine ⟨_, p₀, first, p, reports, ?_, hopened, hrun, hresult, hlog⟩
  rw [errand_setAlarm, parse_longAlarm]

/-! ### Alarms that cannot be sent -/

/-- **An alarm that cannot be sent**, however the board and the platform behave. If the time
or the melody makes no sense, the command ends with that, and there is no session. Else there
is one. It only ever fails to encode anything when the melody is too long; then it says so
after the board's clock has been set. And with such a melody nothing but the clock is written,
and the command does not succeed. -/
theorem failed_of_run (settings : Settings) (clock : Readings) (time melody : String) :
    (∀ e, AlarmConfig.parse time melody = .error e →
      Command.errand settings clock (.setAlarm time melody) =
        .print [] (some (.validation e))) ∧
    ∀ config, AlarmConfig.parse time melody = .ok config →
      ∃ plan, Command.errand settings clock (.setAlarm time melody) = .session plan ∧
        ∀ p₀ first actions p reports, Program.opened plan = some (p₀, first) →
          p₀.run actions = some (p, reports) →
          (∀ e, p.result? = some (.error (.encode e)) →
            TooLong config ∧ .encode e = tooLong config ∧ ClockSet clock.opening p.log) ∧
          (TooLong config →
            p.result? ≠ some (.ok ()) ∧ ∀ entry ∈ p.log, WritesClock clock.opening entry.1) := by
  refine ⟨fun e he => ?_, fun config hconfig => ?_⟩
  · rw [errand_setAlarm, he]
  refine ⟨sessionPlan settings config clock, ?_, ?_⟩
  · rw [errand_setAlarm, hconfig]
  intro p₀ first actions p reports hopened hrun
  have hcourse : Course config clock (sessionPlan settings config clock) p :=
    Program.run_induction (fun _ _ h hmoves => h.next hmoves) hrun (course_opened hopened)
  have hverdict {result : Except Error Unit} (h : p.result? = some result) :
      Verdict config clock.opening p.log result := by
    have hknows := hcourse.knows
    simp only [Program.result?] at h
    split at h
    next hstage =>
      obtain rfl := Option.some.inj h
      rwa [hstage] at hknows
    next => exact absurd h (by simp)
  exact ⟨fun e he => (hverdict he).encode e rfl,
    fun hlong => ⟨fun hok => (hverdict hok).fails hlong rfl, hcourse.writes hlong⟩⟩

theorem failed_of_long_alarm :
    Command.errand {} halfPastSix (.setAlarm "7:05" "") =
      .print [] (some (.validation (.melody .empty))) ∧
    ∃ plan p₀ first p reports,
      Command.errand {} halfPastSix (.setAlarm "7:05" longAlarm.melody.text) = .session plan ∧
      Program.opened plan = some (p₀, first) ∧ p₀.run obliging = some (p, reports) ∧
      TooLong longAlarm ∧ p.result? = some (.error (tooLong longAlarm)) ∧
      ClockSet ⟨6, 30⟩ p.log ∧ ∀ entry ∈ p.log, WritesClock ⟨6, 30⟩ entry.1 := by
  constructor
  · exact (failed_of_run {} halfPastSix "7:05" "").1 (.melody .empty) (by decide)
  obtain ⟨p₀, first, p, reports, hopened, hrun, hresult, -⟩ := run_obliging
  have herrand : Command.errand {} halfPastSix (.setAlarm "7:05" longAlarm.melody.text) =
      .session (sessionPlan {} longAlarm halfPastSix) := by
    rw [errand_setAlarm, parse_longAlarm]
  obtain ⟨plan, hplan, hruns⟩ :=
    (failed_of_run {} halfPastSix "7:05" longAlarm.melody.text).2 longAlarm parse_longAlarm
  obtain rfl := Errand.session.inj (herrand.symm.trans hplan)
  obtain ⟨hencode, hlong⟩ := hruns p₀ first obliging p reports hopened hrun
  obtain ⟨htooLong, he, hset⟩ := hencode _ hresult
  exact ⟨_, p₀, first, p, reports, herrand, hopened, hrun, htooLong, he ▸ hresult, hset,
    (hlong htooLong).2⟩

end AlarmInput

end CarrierLink
