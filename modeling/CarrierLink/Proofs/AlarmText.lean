import CarrierLink.Proofs.Central.Failures
import CarrierLink.Proofs.CommandLine.AlarmInput

/-!
# Alarms that are refused

An alarm is programmed from two texts, and there are three reasons to refuse them
(`CarrierLink.AlarmClock.Refused`): the melody cannot be read, else the time cannot be read,
else the melody is too long for the board. Whether they are refused depends on the texts
alone, and on nothing that the central or the platform does.

A refused alarm leaves no trace (`CarrierLink.AlarmClock.refused_iff_of_leads`): the operation
ends as soon as it begins, without a call or a callback, and the central is as it was. Any
other alarm gets as far as its settings, and none of them can be refused for what it is: a
time always has its two bytes, a flag has one, and the melody fits. So if the operation, or
any request of it, still fails with an error of this kind (`CarrierLink.Error.IsInput`), then
the platform itself has answered with this error.
-/

namespace CarrierLink

/-- The errors that tell of input which cannot be sent. -/
def Error.IsInput : Error → Prop
  | .validation _ | .encode _ => True
  | _ => False

namespace AlarmClock

open AlarmInput (TooLong tooLong)

/-! ### Reasons to refuse -/

/-- **Why the texts of an alarm are refused**: the first of the reasons that applies. -/
inductive Refused (time melody : String) : Error → Prop
  | melody {e : MelodyError} (hmelody : Melody.parse melody = .error e) :
      Refused time melody (.validation (.melody e))
  | time {tune : Melody} {e : TimeError} (hmelody : Melody.parse melody = .ok tune)
      (htime : ClockTime.parse time = .error e) : Refused time melody (.validation (.time e))
  | tooLong {tune : Melody} {t : ClockTime} (hmelody : Melody.parse melody = .ok tune)
      (htime : ClockTime.parse time = .ok t)
      (hlong : Wire.maxTextLength < tune.wireText.utf8ByteSize) :
      Refused time melody (.encode (.textTooLong tune.wireText.utf8ByteSize))

section Texts

variable {time melody : String} {e : Error}

/-- A refused alarm is one script, whatever else there is. -/
theorem configureText_of_refused (now : ClockTime) (h : Refused time melody e) :
    configureText time melody now = Script.fail e := by
  cases h with
  | melody hmelody => simp only [configureText, AlarmConfig.parse, hmelody]; rfl
  | time hmelody htime => simp only [configureText, AlarmConfig.parse, hmelody, htime]; rfl
  | tooLong hmelody htime hlong =>
    simp only [configureText, AlarmConfig.parse, hmelody, htime]
    change configure ⟨_, _⟩ now = _
    rw [configure_eq]
    simp only [Wire.encode]
    rw [if_neg (Nat.not_le.mpr hlong)]

/-- Any other alarm can be programmed. -/
theorem exists_config_of_not_refused (now : ClockTime) (h : ∀ e, ¬Refused time melody e) :
    ∃ config, configureText time melody now = configure config now ∧ ¬TooLong config := by
  cases hmelody : Melody.parse melody with
  | error e => exact absurd (.melody hmelody) (h _)
  | ok tune =>
    cases htime : ClockTime.parse time with
    | error e => exact absurd (.time hmelody htime) (h _)
    | ok t =>
      refine ⟨⟨t, tune⟩, ?_, fun hlong => h _ (.tooLong hmelody htime hlong)⟩
      simp only [configureText, AlarmConfig.parse, hmelody, htime]
      rfl

end Texts

/-! ### What the settings may fail with -/

section Settings

variable {config : AlarmConfig} {now : ClockTime} {allowed : Error → Prop}

/-- **No setting of an alarm that fits is turned away for its value.** -/
theorem failsOnly_setting (hfits : ¬TooLong config) (hallowed : ∀ e : Error, ¬e.IsInput → allowed e)
    {setting : Channel × Value} (hmem : setting ∈ settings config now) :
    (Request.write setting.1 setting.2).FailsOnly Profile.alarm allowed := by
  intro phase e hturned
  cases hturned with
  | unencodable hspec _ _ hencode =>
    have hlimits : (AlarmInput.limits config ⟨now, now⟩).requests
        (.write setting.1 setting.2) := AlarmInput.limits_of_mem hfits hmem
    exact (AlarmInput.limits_suits _ _ _ hlimits hspec hencode).elim
  | _ => exact hallowed _ id

theorem failsOnly_onDone {next : Script} (hnext : next.FailsOnly Profile.alarm allowed)
    {response : Response} (h : Allows allowed response) :
    (Script.onDone next response).FailsOnly Profile.alarm allowed := by
  cases response with
  | ok => exact hnext
  | error e => exact allows_error.mpr (allows_error.mp h)

/-- The settings after the clock times, one after the other. -/
theorem failsOnly_inTurn (more : List (Channel × Value))
    (h : ∀ setting ∈ more,
      (Request.write setting.1 setting.2).FailsOnly Profile.alarm allowed) :
    (inTurn config more).FailsOnly Profile.alarm allowed := by
  induction more with
  | nil => exact allows_ok _
  | cons setting more ih =>
    obtain ⟨hsetting, hmore⟩ := List.forall_mem_cons.mp h
    exact ⟨hsetting, fun _ hresponse => failsOnly_onDone (ih hmore) hresponse⟩

/-- **An alarm that fits makes up no error of input.** -/
theorem failsOnly_configure (hfits : ¬TooLong config)
    (hallowed : ∀ e : Error, ¬e.IsInput → allowed e) :
    (configure config now).FailsOnly Profile.alarm allowed := by
  have hsettings (setting : Channel × Value) (hmem : setting ∈ settings config now) :
      (Request.write setting.1 setting.2).FailsOnly Profile.alarm allowed :=
    failsOnly_setting hfits hallowed hmem
  have hinTurn : (inTurn config (afterTimes config)).FailsOnly Profile.alarm allowed :=
    failsOnly_inTurn _ fun setting hmem => hsettings setting (List.mem_append_right _ hmem)
  rw [configure_eq, AlarmInput.encode_wireText hfits]
  refine ⟨hsettings (.localTime, .time now) (by simp [settings, clockTimes]),
    hsettings (.alarmTime, .time config.time) (by simp [settings, clockTimes]),
    fun _ _ hlocal halarm => ?_⟩
  exact failsOnly_onDone (failsOnly_onDone hinTurn halarm) hlocal

end Settings

/-! ### Refused alarms -/

section Histories

variable {past later : List Moment} {m : Moment} {s : System} {number : Nat}

/-- **A script that fails at once leaves no trace.** -/
theorem untouched_of_fail {profile : Profile} {e : Error}
    (h : (System.initial profile).Leads (past ++ m :: later) s)
    (hbegins : m.Begins number (.run (Script.fail e))) :
    m.seen = [] ∧ m.after = ⟨m.before.central, m.before.tasks ++ [Task.finished (.error e)]⟩ ∧
      s.tasks[number]? = some (Task.finished (.error e)) ∧
      made (m :: later) number = [] ∧ saidBy (m :: later) number = [] := by
  obtain ⟨-, hstep, -⟩ := h.split
  obtain ⟨task, htask, rfl, hmade, hsaid⟩ := System.life_of_leads
    (P := fun _ calls said task => task = Task.finished (.error e) ∧ calls = [] ∧ said = [])
    (fun c _ _ => ⟨rfl, rfl, rfl⟩)
    (fun _ _ _ task ticket queued hP hqueued => by simp [hP.1, Task.finished] at hqueued)
    (fun _ _ _ task c slot reply turn hP _ _ _ hturn => by
      simp [hP.1, Task.finished, Task.answer] at hturn) h hbegins
  obtain ⟨haction, hnumber⟩ := hbegins
  have hseen := System.seen_of_turn hstep
    (show _ = some number by rw [haction, System.turn?, hnumber])
  rw [haction] at hstep
  obtain ⟨hafter, hcallbacks, -⟩ := System.step_start hstep
  exact ⟨by rw [hseen, hcallbacks]; rfl, hafter, htask, hmade, hsaid⟩

/-- **An alarm is refused for its texts alone, and then nothing has happened.** Whatever the
central is doing, if there is a reason to refuse the texts then the operation ends with it at
once: there is no call and no callback, and the central is as before. It ends with an error of
input for no other reason, and if there is none then none of its requests fails with such an
error either, unless the platform has answered with that very error. -/
theorem refused_iff_of_leads {time melody : String} {now : ClockTime}
    (h : (System.initial Profile.alarm).Leads (past ++ m :: later) s)
    (hbegins : m.Begins number (.run (configureText time melody now))) :
    (∀ e, Refused time melody e →
      m.seen = [] ∧ m.after = ⟨m.before.central, m.before.tasks ++ [Task.finished (.error e)]⟩ ∧
        s.tasks[number]? = some (Task.finished (.error e)) ∧
        made (m :: later) number = [] ∧ saidBy (m :: later) number = []) ∧
    (∀ e : Error, e.IsInput → (∀ m' ∈ later, ¬m'.Denies number e) →
      (s.tasks[number]?.bind Task.outcome? = some (.error e) ↔ Refused time melody e)) ∧
    ((∀ e, ¬Refused time melody e) →
      ∀ receipt ∈ receipts (m :: later) number, ∀ e : Error, e.IsInput →
        receipt.response = .error e → ∃ m' ∈ later, m'.Denies number e) := by
  have hrefused (e : Error) (he : Refused time melody e) :=
    untouched_of_fail h (configureText_of_refused now he ▸ hbegins)
  -- An error of input that the platform has not made up is none that the settings allow.
  have hfails (hnot : ∀ e, ¬Refused time melody e) :=
    System.failsOnly_of_leads (fun e => e.IsInput → ∃ m' ∈ later, m'.Denies number e)
      (configureText time melody now) (by
        obtain ⟨config, hconfig, hfits⟩ := exists_config_of_not_refused now hnot
        rw [hconfig]
        exact failsOnly_configure hfits fun e he hinput => absurd hinput he)
      (fun e he => by cases he <;> exact False.elim) h hbegins
      fun m' hmem e hdenies _ => ⟨m', hmem, hdenies⟩
  refine ⟨hrefused, fun e hinput hdenied => ⟨fun houtcome => ?_, fun he => ?_⟩,
    fun hnot receipt hmem e hinput he => ?_⟩
  · by_contra hother
    by_cases hnot : ∀ e, ¬Refused time melody e
    · obtain ⟨task, htask, hallows, -⟩ := hfails hnot
      rw [htask, Option.bind_some, AlarmInput.outcome?_eq_some] at houtcome
      simp only [Task.FailsOnly, houtcome] at hallows
      obtain ⟨m', hmem, hdenies⟩ := hallows e rfl hinput
      exact hdenied m' hmem hdenies
    · obtain ⟨e', he'⟩ := not_forall_not.mp hnot
      obtain ⟨-, -, htask, -, -⟩ := hrefused e' he'
      rw [htask] at houtcome
      obtain rfl : e' = e := by simpa [Task.finished, Task.outcome?] using houtcome
      exact hother he'
  · obtain ⟨-, -, htask, -, -⟩ := hrefused e he
    simp [htask, Task.finished, Task.outcome?]
  · obtain ⟨-, -, -, hreceipts⟩ := hfails hnot
    exact hreceipts receipt hmem e he hinput

/-- Whatever operation is asked for when nobody has anything to send begins. -/
theorem exists_begins {profile : Profile} {ms : List Moment} {s : System}
    (h : (System.initial profile).Leads ms s) (hfloor : s.isFloorFree none)
    (operation : Operation) :
    ∃ m : Moment, (System.initial profile).Leads (ms ++ [m]) m.after ∧ m.before = s ∧
      m.Begins s.tasks.length operation := by
  obtain ⟨⟨t, seen⟩, hstep⟩ : ∃ result, s.step (.start operation) = some result := by
    simp [System.step, hfloor]
  exact ⟨⟨s, .start operation, t, seen⟩, h.snoc (m := ⟨s, .start operation, t, seen⟩) hstep, rfl,
    rfl, rfl⟩

/-- A connected board is asked for an alarm of which neither text makes sense, and for one with
a melody that is too long. -/
theorem refused_on_connected_board :
    ∃ past m₁ m₂, (System.initial Profile.alarm).Leads (past ++ [m₁]) m₁.after ∧
      (System.initial Profile.alarm).Leads (past ++ [m₂]) m₂.after ∧
      m₁.Begins 1 (.run (configureText "25:00" "H4" ⟨12, 0⟩)) ∧
      m₂.Begins 1 (.run (configureText "7:05" AlarmInput.longAlarm.melody.text ⟨12, 0⟩)) ∧
      m₁.before.central.isConnected ∧ m₂.before.central.isConnected ∧
      m₁.after.central = m₁.before.central ∧ m₂.after.central = m₂.before.central ∧
      m₁.after.tasks[1]? = some (Task.finished
        (.error (.validation (.melody (.invalidNote "H4"))))) ∧
      m₂.after.tasks[1]? = some (Task.finished (.error (.encode (.textTooLong 519)))) := by
  have hrun : ((System.initial Profile.alarm).run
      [.start .connect, .send 0, .reply 0 0 (.availability true), .send 0,
        .reply 0 0 (.device (.ok ⟨0, none⟩)), .send 0, .reply 0 0 (.done (.ok ())), .send 0,
        .reply 0 0 (.done (.ok ())), .send 0,
        .reply 0 0 (.services (.ok
          [⟨Uuid.alarmService, Profile.alarm.channels.map ChannelSpec.uuid⟩]))]).any
      (fun ran => ran.1.tasks.length == 1 && ran.1.isFloorFree none &&
        ran.1.central.isConnected) = true := by
    decide +kernel
  simp only [Option.any_eq_true, Bool.and_eq_true, beq_iff_eq] at hrun
  obtain ⟨⟨s, seen⟩, hran, ⟨hlength, hfloor⟩, hconnected⟩ := hrun
  obtain ⟨past, hpast, -⟩ := System.run_iff_leads.mp hran
  have hbegins (operation : Operation) := hlength ▸ exists_begins hpast hfloor operation
  obtain ⟨m₁, hleads₁, hbefore₁, hbegins₁⟩ :=
    hbegins (.run (configureText "25:00" "H4" ⟨12, 0⟩))
  obtain ⟨m₂, hleads₂, hbefore₂, hbegins₂⟩ :=
    hbegins (.run (configureText "7:05" AlarmInput.longAlarm.melody.text ⟨12, 0⟩))
  obtain ⟨-, hafter₁, htask₁, -, -⟩ := (refused_iff_of_leads hleads₁ hbegins₁).1 _
    (.melody (show Melody.parse "H4" = .error (.invalidNote "H4") by decide))
  have hsize : AlarmInput.longAlarm.melody.wireText.utf8ByteSize = 519 := by decide +kernel
  have hrefused : Refused "7:05" AlarmInput.longAlarm.melody.text (.encode (.textTooLong 519)) :=
    hsize ▸ .tooLong AlarmInput.parse_longMelody
      (show ClockTime.parse "7:05" = .ok ⟨7, 5⟩ by decide) (by rw [hsize]; decide)
  obtain ⟨-, hafter₂, htask₂, -, -⟩ := (refused_iff_of_leads hleads₂ hbegins₂).1 _ hrefused
  exact ⟨past, m₁, m₂, hleads₁, hleads₂, hbegins₁, hbegins₂, hbefore₁ ▸ hconnected,
    hbefore₂ ▸ hconnected,
    by rw [hafter₁], by rw [hafter₂], htask₁, htask₂⟩

end Histories

end AlarmClock

end CarrierLink
