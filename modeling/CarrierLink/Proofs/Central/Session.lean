import CarrierLink.Bench.Session
import CarrierLink.Proofs.Central.History

/-!
# What happens on the bench

A session on the bench decides who takes the next turn, answers calls the way its board does,
and lets the operator of the bench interfere. None of this reaches the central but as an action
that the central allows: from one state of a session to any later one there is a history
(`CarrierLink.Session.Continues`), and the reports of a session tell of one history from
beginning to end (`CarrierLink.Session.exists_leads_of_play`). So whatever is known of all
histories is known of all that a bench can show, however its turns are ordered.
-/

namespace CarrierLink.Session

/-! ### From one state of a session to another -/

/-- What the observer of a session hears of some moments, if there is one. -/
def heard (s : Session) (ms : List Moment) : List Callback :=
  if s.observes then ms.flatMap Moment.callbacks else []

/-- **One state of a session comes of another** by moments of its central, of which the observer
has heard. -/
def Continues (s t : Session) : Prop :=
  ∃ ms, s.system.Leads ms t.system ∧ t.observes = s.observes ∧
    t.callbacks = s.callbacks ++ s.heard ms

variable {s t u : Session}

theorem heard_append (s : Session) (first rest : List Moment) :
    s.heard (first ++ rest) = s.heard first ++ s.heard rest := by
  unfold heard
  split <;> simp

theorem heard_congr (h : t.observes = s.observes) (ms : List Moment) : t.heard ms = s.heard ms := by
  rw [heard, heard, h]

theorem Continues.refl (s : Session) : s.Continues s :=
  ⟨[], rfl, rfl, by simp [heard]⟩

theorem Continues.trans (h : s.Continues t) (h' : t.Continues u) : s.Continues u := by
  obtain ⟨first, hfirst, hobserves, hcallbacks⟩ := h
  obtain ⟨rest, hrest, hobserves', hcallbacks'⟩ := h'
  refine ⟨first ++ rest, System.leads_append.mpr ⟨_, hfirst, hrest⟩,
    hobserves'.trans hobserves, ?_⟩
  rw [hcallbacks', hcallbacks, heard_append, List.append_assoc, heard_congr hobserves]

/-- The central does not notice what is done to the bench. -/
theorem continues_bench (s : Session) (bench : Bench) : s.Continues { s with bench } :=
  Continues.refl s

theorem continues_foldl {α : Type} {f : Session → α → Session}
    (h : ∀ (s : Session) (a : α), s.Continues (f s a)) (l : List α) (s : Session) :
    s.Continues (l.foldl f s) := by
  induction l generalizing s with
  | nil => exact .refl s
  | cons a l ih => exact (h s a).trans (ih _)

/-! ### Turns -/

theorem continues_act (s : Session) (action : Action) : s.Continues (s.act action) := by
  unfold act
  split
  next system seen hstep =>
    refine ⟨[⟨s.system, action, system, seen⟩], ⟨rfl, hstep, rfl⟩, rfl, ?_⟩
    refine congrArg (s.callbacks ++ ·) ?_
    cases hobserves : s.observes with
    | true =>
      simp only [heard, hobserves, if_true, List.flatMap_cons, List.flatMap_nil, List.append_nil,
        Moment.callbacks, callbacksIn]
      congr 1
      funext entry
      obtain ⟨_, event⟩ := entry
      cases event <;> rfl
    | false =>
      simp only [heard, hobserves, Bool.false_eq_true, if_false]
      refine List.filterMap_eq_nil_iff.mpr fun entry _ => ?_
      obtain ⟨_, event⟩ := entry
      cases event <;> rfl
  next => exact .refl s

theorem continues_reply (s : Session) (number slot : Nat) (reply : Reply) :
    s.Continues (s.reply number slot reply) :=
  (continues_act s (.reply number slot reply)).trans (continues_bench _ _)

/-- **Whatever a task does in its turn** the central allows. -/
theorem continues_poll (number fuel : Nat) (s : Session) : s.Continues (poll number fuel s) := by
  induction fuel generalizing s with
  | zero => exact .refl s
  | succ fuel ih =>
    rw [poll]
    split
    next => exact .refl s
    next task _ =>
      split
      next ticket _ _ =>
        have hsent := (continues_act s (.send number)).trans (continues_bench _
          ((s.act (.send number)).bench.arrive number ticket.slot ticket.call).1)
        refine (hsent.trans ?_).trans (ih _)
        split
        next answer _ => exact continues_reply _ _ _ _
        next => exact .refl _
      next =>
        split
        next ticket _ =>
          exact ((continues_bench s _).trans (continues_reply _ _ _ _)).trans (ih _)
        next => exact .refl s

theorem continues_drain (s : Session) (pump : Pump) (line : Bench.Line) :
    s.Continues (s.drain pump line) := by
  have hevents (bench : Bench) : s.Continues
      (line.queue.foldl (fun s event => s.act (.push pump.session event)) { s with bench }) :=
    (continues_bench s bench).trans
      (continues_foldl (fun s event => continues_act s (.push pump.session event)) _ _)
  unfold drain
  dsimp only
  split
  · exact hevents _
  · exact (hevents _).trans (continues_act _ _)

theorem continues_turn (s : Session) (actor : Actor) : s.Continues (s.turn actor) := by
  cases actor with
  | task number => exact continues_poll _ _ s
  | pump session =>
    simp only [turn]
    split
    · split
      · exact continues_drain s _ _
      · exact .refl s
    · exact .refl s

/-- **The order of the turns makes no difference** to this. -/
theorem continues_settle (s : Session) (queue : List Actor) : s.Continues (s.settle queue) :=
  (continues_foldl continues_turn queue s).trans (continues_foldl continues_turn _ _)

/-! ### Steps -/

theorem continues_commands (commands : List Bench.Command) (s : Session) (queue : List Actor) :
    s.Continues (commands.foldl (fun (s, queue) command => s.command queue command)
      (s, queue)).1 := by
  induction commands generalizing s queue with
  | nil => exact .refl s
  | cons command commands ih => exact (continues_bench s _).trans (ih _ _)

theorem continues_move (s : Session) (move : Move) : s.Continues (s.move move).1 := by
  cases move with
  | operate operation =>
    have hstarted : s.Continues { s.act (.start operation) with
        started := s.started ++ [(s.steps, s.system.tasks.length)] } :=
      continues_act s (.start operation)
    exact hstarted.trans (continues_settle _ _)
  | board commands => exact (continues_commands commands s []).trans (continues_settle _ _)
  | _ => exact .refl s

/-- What a report says of a central is so. -/
def Report.Tells (report : Report) (c : Central) : Prop :=
  report.phase = c.connection.phase ∧ report.isConnected = c.isConnected ∧
    report.deviceName = c.deviceName

/-- **Reports that recount what has become of a central**, one after the other: each of them has
the callbacks of some moments, if anybody observes them, and says how they have left the
central. -/
inductive Recount (observes : Bool) : System → List Report → Prop
  | nil {s : System} : Recount observes s []
  | cons {s t : System} {ms : List Moment} {report : Report} {rest : List Report}
      (hleads : s.Leads ms t)
      (hcallbacks : report.callbacks = if observes then ms.flatMap Moment.callbacks else [])
      (htells : report.Tells t.central) (hrest : Recount observes t rest) :
      Recount observes s (report :: rest)

/-- **The reports of a session recount what has become of its central**, whatever is done in its
steps. -/
theorem recount_play (moves : List Move) (s : Session) :
    Recount s.observes s.system (s.play moves) := by
  induction moves generalizing s with
  | nil => exact .nil
  | cons move moves ih =>
    obtain ⟨ms, hleads, hobserves, hcallbacks⟩ :=
      continues_move { s with callbacks := [], bench := { s.bench with log := [] } } move
    have hrest := ih (s.step move).1
    rw [show (s.step move).1.observes = s.observes from hobserves] at hrest
    exact .cons hleads hcallbacks ⟨rfl, rfl, rfl⟩ hrest

/-- What is told in reports one after the other is what one history calls back. -/
theorem Recount.exists_leads {start : System} {reports : List Report}
    (h : Recount true start reports) :
    ∃ ms s, start.Leads ms s ∧ reports.flatMap Report.callbacks = ms.flatMap Moment.callbacks := by
  induction h with
  | nil => exact ⟨[], _, rfl, rfl⟩
  | cons hleads hcallbacks _ _ ih =>
    obtain ⟨rest, s, hrest, hreports⟩ := ih
    refine ⟨_ ++ rest, s, System.leads_append.mpr ⟨_, hleads, hrest⟩, ?_⟩
    rw [List.flatMap_cons, hcallbacks, if_pos rfl, hreports, List.flatMap_append]

/-- **All that a session tells its observer** are the callbacks of one history, in order. -/
theorem exists_leads_of_play (bench : Bench) (moves : List Move) :
    ∃ ms s, (System.initial bench.profile).Leads ms s ∧
      ((new bench).play moves).flatMap Report.callbacks = ms.flatMap Moment.callbacks :=
  (recount_play moves (new bench)).exists_leads

end CarrierLink.Session
