import CarrierLink.Proofs.Central.Exchange

/-!
# Where the errors of a script come from

A script can fail in few ways. It may make up an error itself; a request of it may be turned
away; a reply may be an error, may come when its session is over, or may not be readable. An
error of any other kind it can neither get as a response nor end with.

So take a kind of errors (`allowed`), and a script that makes up only errors of this kind,
whatever its responses are, and whose requests are only ever turned away with such errors
(`CarrierLink.Script.FailsOnly`). If late and unreadable replies belong to the kind as well,
then an error of another kind can only be one that the platform has answered with
(`CarrierLink.System.failsOnly_of_leads`): this is kept by every answer to the task of the
script (`CarrierLink.Task.FailsOnly.answer`), whatever others do in the meantime.
-/

namespace CarrierLink

/-! ### Errors of one kind -/

/-- A result is a value or an allowed error. -/
def Allows (allowed : Error → Prop) {α : Type} (result : Except Error α) : Prop :=
  ∀ e, result = .error e → allowed e

theorem allows_ok {allowed : Error → Prop} {α : Type} (a : α) :
    Allows allowed (.ok a : Except Error α) := by
  simp [Allows]

theorem allows_error {allowed : Error → Prop} {α : Type} {e : Error} :
    Allows allowed (.error e : Except Error α) ↔ allowed e := by
  simp [Allows]

/-- An error that a request may end with although it has passed its checks and the platform
has not refused it. -/
inductive Error.IsBelated : Error → Prop
  /-- The session is over. -/
  | late : IsBelated .notConnected
  /-- The bytes cannot be read. -/
  | garbled (e : DecodeError) : IsBelated (.decode e)

/-- A request is only turned away with allowed errors. -/
def Request.FailsOnly (profile : Profile) (allowed : Error → Prop) (request : Request) : Prop :=
  ∀ phase e, Turned profile phase request e → allowed e

/-- **A script makes up allowed errors alone**, as long as it gets no others. -/
def Script.FailsOnly (profile : Profile) (allowed : Error → Prop) : Script → Prop
  | finish outcome => Allows allowed outcome
  | report _ _ next => next.FailsOnly profile allowed
  | exchange request next =>
    request.FailsOnly profile allowed ∧
      ∀ response, Allows allowed response → (next response).FailsOnly profile allowed
  | exchangeBoth first second next =>
    first.FailsOnly profile allowed ∧ second.FailsOnly profile allowed ∧
      ∀ r₁ r₂, Allows allowed r₁ → Allows allowed r₂ → (next r₁ r₂).FailsOnly profile allowed

/-- One of two requests, which has not failed but with an allowed error. -/
def Slot.FailsOnly (allowed : Error → Prop) : Slot → Prop
  | .pending _ => True
  | .settled response => Allows allowed response

/-- **The task of such a script.** -/
def Task.FailsOnly (profile : Profile) (allowed : Error → Prop) (t : Task) : Prop :=
  match t.work with
  | .single _ next =>
    ∀ response, Allows allowed response → (next response).FailsOnly profile allowed
  | .pair first second next =>
    first.FailsOnly allowed ∧ second.FailsOnly allowed ∧
      ∀ r₁ r₂, Allows allowed r₁ → Allows allowed r₂ → (next r₁ r₂).FailsOnly profile allowed
  | .finished outcome => Allows allowed outcome
  | .attempt .. | .hangUp _ => False

/-- Receipts of requests that have not failed but with allowed errors. -/
def ReceiptsAllow (allowed : Error → Prop) (receipts : List Receipt) : Prop :=
  ∀ receipt ∈ receipts, Allows allowed receipt.response

section FailsOnly

variable {profile : Profile} {allowed : Error → Prop} {c c' : Central}

theorem receiptsAllow_append {first rest : List Receipt} (hfirst : ReceiptsAllow allowed first)
    (hrest : ReceiptsAllow allowed rest) : ReceiptsAllow allowed (first ++ rest) :=
  List.forall_mem_append.mpr ⟨hfirst, hrest⟩

/-! ### Working a script off -/

/-- A request is turned away with an allowed error or goes on its way. -/
theorem Slot.failsOnly_ofCheck (hc : c.Coherent) (hprofile : c.profile = profile)
    {request : Request} (hrequest : request.FailsOnly profile allowed) :
    (Slot.ofCheck (Transfer.check c request)).FailsOnly allowed ∧
      ReceiptsAllow allowed ((Slot.ofCheck (Transfer.check c request)).refused request) := by
  cases hcheck : Transfer.check c request with
  | ok transfer => exact ⟨trivial, by simp [ReceiptsAllow, ofCheck, refused]⟩
  | error e =>
    have he : allowed e := hrequest _ _ (hprofile ▸ hc.turned_iff.mpr hcheck)
    refine ⟨allows_error.mpr he, ?_⟩
    simpa [ReceiptsAllow, ofCheck, refused] using allows_error.mpr he

/-- Two requests at the same time, and what comes after them. -/
theorem Slot.failsOnly_proceed (first second : Slot) {next : Response → Response → Script}
    {rest : Task} (hfirst : first.FailsOnly allowed) (hsecond : second.FailsOnly allowed)
    (hnext : ∀ r₁ r₂, Allows allowed r₁ → Allows allowed r₂ →
      (next r₁ r₂).FailsOnly profile allowed)
    (hrun : ∀ r₁ r₂, (next r₁ r₂).FailsOnly profile allowed →
      ((next r₁ r₂).run c).task.FailsOnly profile allowed ∧
        ReceiptsAllow allowed ((next r₁ r₂).refused c)) :
    (Slot.proceed c first second next rest).task.FailsOnly profile allowed ∧
      ReceiptsAllow allowed (Slot.refusedAfter c first second next) := by
  cases first with
  | pending => exact ⟨⟨hfirst, hsecond, hnext⟩, by simp [ReceiptsAllow, refusedAfter]⟩
  | settled r₁ =>
    cases second with
    | pending => exact ⟨⟨hfirst, hsecond, hnext⟩, by simp [ReceiptsAllow, refusedAfter]⟩
    | settled r₂ => exact hrun r₁ r₂ (hnext r₁ r₂ hfirst hsecond)

/-- **A script that is worked off.** -/
theorem Script.failsOnly_run (hc : c.Coherent) (hprofile : c.profile = profile)
    {script : Script} (h : script.FailsOnly profile allowed) :
    (script.run c).task.FailsOnly profile allowed ∧ ReceiptsAllow allowed (script.refused c) := by
  induction script with
  | finish outcome => exact ⟨h, by simp [ReceiptsAllow, refused]⟩
  | report text level next ih => exact ih h
  | exchange request next ih =>
    obtain ⟨hrequest, hnext⟩ := h
    rw [run, refused]
    cases hcheck : Transfer.check c request with
    | ok transfer => exact ⟨hnext, by simp [ReceiptsAllow]⟩
    | error e =>
      have he : allowed e := hrequest _ _ (hprofile ▸ hc.turned_iff.mpr hcheck)
      obtain ⟨htask, hrefused⟩ := ih (.error e) (hnext _ (allows_error.mpr he))
      exact ⟨htask, List.forall_mem_cons.mpr ⟨allows_error.mpr he, hrefused⟩⟩
  | exchangeBoth first second next ih =>
    obtain ⟨hfirst, hsecond, hnext⟩ := h
    obtain ⟨hslot₁, hrefused₁⟩ := Slot.failsOnly_ofCheck hc hprofile hfirst
    obtain ⟨hslot₂, hrefused₂⟩ := Slot.failsOnly_ofCheck hc hprofile hsecond
    obtain ⟨hturn, hrefused⟩ := exchangeBoth_eq c first second next
    rw [hturn, hrefused]
    obtain ⟨htask, hafter⟩ := Slot.failsOnly_proceed _ _ hslot₁ hslot₂ hnext ih
    exact ⟨htask, receiptsAllow_append (receiptsAllow_append hrefused₁ hrefused₂) hafter⟩

/-! ### Answers -/

/-- A request that is answered fails with the reply, or for one of the belated reasons. -/
theorem Transfer.allows_conclude {t : Transfer} {reply : Reply} {response : Response}
    (hbelated : ∀ e : Error, e.IsBelated → allowed e)
    (hreply : ∀ e, reply.error? = some e → allowed e)
    (h : t.conclude c reply = some (c', response)) : Allows allowed response := by
  simp only [conclude] at h
  split at h
  · obtain ⟨-, rfl⟩ := Prod.mk.inj (Option.some.inj h)
    exact allows_error.mpr (hreply _ rfl)
  · split at h
    · split at h
      · obtain ⟨-, rfl⟩ := Prod.mk.inj (Option.some.inj h)
        exact allows_ok _
      next e _ =>
        obtain ⟨-, rfl⟩ := Prod.mk.inj (Option.some.inj h)
        exact allows_error.mpr (hbelated _ (.garbled e))
    · obtain ⟨-, rfl⟩ := Prod.mk.inj (Option.some.inj h)
      exact allows_error.mpr (hbelated _ .late)
  · obtain ⟨-, rfl⟩ := Prod.mk.inj (Option.some.inj h)
    exact allows_error.mpr (hreply _ rfl)
  · split at h
    · obtain ⟨-, rfl⟩ := Prod.mk.inj (Option.some.inj h)
      exact allows_ok _
    · obtain ⟨-, rfl⟩ := Prod.mk.inj (Option.some.inj h)
      exact allows_error.mpr (hbelated _ .late)
  · exact absurd h (by simp)

/-- The receipts of an answer are those of the request that is concluded and of what the
script goes on with. -/
theorem Task.receiptsAllow_of_conclude {t : Task} {slot : Nat} {reply : Reply}
    {transfer : Transfer} {response : Response} (htransfer : t.transfer? slot = some transfer)
    (h : transfer.conclude c reply = some (c', response)) (hresponse : Allows allowed response)
    (hrest : ∀ rest, t.rest? slot response = some rest →
      ReceiptsAllow allowed (rest.refused c')) :
    ReceiptsAllow allowed (t.receipts c slot reply) := by
  rw [receipts_of_conclude htransfer h]
  refine List.forall_mem_cons.mpr ⟨hresponse, ?_⟩
  cases hscript : t.rest? slot response with
  | none => simp
  | some rest => exact hrest rest hscript

/-- **Every answer** leaves the task of a script to allowed errors, if it is no other error
itself. -/
theorem Task.FailsOnly.answer {t : Task} {slot : Nat} {reply : Reply} {turn : Turn}
    (h : t.FailsOnly profile allowed) (hbelated : ∀ e : Error, e.IsBelated → allowed e)
    (hc : c.Coherent) (hprofile : c.profile = profile) (hfits : t.Fits c)
    (hreply : ∀ e, reply.error? = some e → allowed e)
    (hturn : t.answer c slot reply = some turn) :
    turn.task.FailsOnly profile allowed ∧ ReceiptsAllow allowed (t.receipts c slot reply) := by
  -- The rest of the script meets a central that is still in order.
  have hrun {transfer : Transfer} {c' : Central} {response : Response} {script : Script}
      (hfits : transfer.Fits c) (hconclude : transfer.conclude c reply = some (c', response))
      (hscript : script.FailsOnly profile allowed) :
      (script.run c').task.FailsOnly profile allowed ∧
        ReceiptsAllow allowed (script.refused c') := by
    have hchange := Transfer.conclude_change hfits hconclude
    exact Script.failsOnly_run (hchange.coherent hc) (hchange.profile_eq.trans hprofile) hscript
  simp only [FailsOnly] at h
  split at h
  next transfer next hwork =>
    simp only [Task.answer, hwork, Option.ite_none_right_eq_some] at hturn
    obtain ⟨⟨c', response⟩, hconclude, rfl⟩ := Option.map_eq_some_iff.mp hturn.2
    simp only [Fits, hwork] at hfits
    have hresponse := Transfer.allows_conclude hbelated hreply hconclude
    obtain ⟨htask, hrefused⟩ := hrun hfits hconclude (h _ hresponse)
    refine ⟨htask, receiptsAllow_of_conclude (by simp [transfer?, hwork]) hconclude hresponse ?_⟩
    intro rest hrest
    obtain rfl : next response = rest := by simpa [rest?, hwork] using hrest
    exact hrefused
  next first second next hwork =>
    obtain ⟨hfirst, hsecond, hnext⟩ := h
    simp only [Task.answer, hwork, Option.ite_none_right_eq_some] at hturn
    simp only [Fits, hwork] at hfits
    obtain ⟨-, hturn⟩ := hturn
    split at hturn
    next transfer =>
      obtain ⟨⟨c', response⟩, hconclude, rfl⟩ := Option.map_eq_some_iff.mp hturn
      have hresponse := Transfer.allows_conclude hbelated hreply hconclude
      obtain ⟨htask, hrefused⟩ := Slot.failsOnly_proceed (.settled response) second
        hresponse hsecond hnext fun r₁ r₂ => hrun hfits.1 hconclude
      refine ⟨htask, receiptsAllow_of_conclude (by simp [transfer?, hwork]) hconclude hresponse ?_⟩
      intro rest hrest
      cases second with
      | pending => simp [rest?, hwork] at hrest
      | settled r =>
        obtain rfl : next response r = rest := by simpa [rest?, hwork] using hrest
        exact hrefused
    next transfer =>
      obtain ⟨⟨c', response⟩, hconclude, rfl⟩ := Option.map_eq_some_iff.mp hturn
      have hresponse := Transfer.allows_conclude hbelated hreply hconclude
      obtain ⟨htask, hrefused⟩ := Slot.failsOnly_proceed first (.settled response)
        hfirst hresponse hnext fun r₁ r₂ => hrun hfits.2 hconclude
      have htransfer : t.transfer? 1 = some transfer := by
        cases first <;> simp [transfer?, hwork]
      refine ⟨htask, receiptsAllow_of_conclude htransfer hconclude hresponse ?_⟩
      intro rest hrest
      cases first with
      | pending => simp [rest?, hwork] at hrest
      | settled r =>
        obtain rfl : next r response = rest := by simpa [rest?, hwork] using hrest
        exact hrefused
    next => exact absurd hturn (by simp)
  next outcome hwork => exact absurd hturn (by simp [Task.answer, hwork])
  next => exact h.elim
  next => exact h.elim

end FailsOnly

/-! ### The errors of a history -/

/-- **An error of another kind comes from the platform.** If no reply to the calls of the
script is an error of another kind, then it has no response of another kind and does not end
with one. -/
theorem System.failsOnly_of_leads {profile : Profile} (allowed : Error → Prop)
    (script : Script) (hscript : script.FailsOnly profile allowed)
    (hbelated : ∀ e : Error, e.IsBelated → allowed e) {earlier later : List Moment} {m : Moment}
    {s : System} {number : Nat} (h : (initial profile).Leads (earlier ++ m :: later) s)
    (hbegins : m.Begins number (.run script))
    (hreplies : ∀ m' ∈ later, ∀ e, m'.Denies number e → allowed e) :
    ∃ task, s.tasks[number]? = some task ∧ task.FailsOnly profile allowed ∧
      ReceiptsAllow allowed (receipts (m :: later) number) := by
  obtain ⟨hearlier, hstep, hlater⟩ := h.split
  refine hlater.induction (motive := fun later s =>
    (∀ m' ∈ later, ∀ e, m'.Denies number e → allowed e) →
    ∃ task, s.tasks[number]? = some task ∧ task.FailsOnly profile allowed ∧
      ReceiptsAllow allowed (receipts (m :: later) number)) ?_
    (fun past m' hpast hstep' ih hreplies => ?_) hreplies
  · intro _
    obtain ⟨htask, hreceipts, -, -⟩ := start_of_step hstep hbegins
    rw [hreceipts]
    exact ⟨_, htask, Script.failsOnly_run (sound_of_leads hearlier).coherent
      (profile_eq_of_leads hearlier) hscript⟩
  · -- The history up to here begins where the whole one does.
    have hleads : (initial profile).Leads (earlier ++ m :: past) m'.before :=
      leads_append.mpr ⟨m.before, hearlier, rfl, hstep, hpast⟩
    have hs := sound_of_leads hleads
    obtain ⟨task, htask, hfails, hreceived⟩ :=
      ih fun m'' hmem => hreplies m'' (List.mem_append_left _ hmem)
    have hreceipts := receipts_snoc (m :: past) m' number
    rw [List.cons_append] at hreceipts
    rw [hreceipts]
    cases concerns_of_step hstep' htask with
    | idle _ htask' _ hnone =>
      rw [hnone, List.append_nil]
      exact ⟨task, htask', hfails, hreceived⟩
    | sends _ _ htask' _ hnone =>
      rw [hnone, List.append_nil]
      exact ⟨_, htask', hfails, hreceived⟩
    | @answered slot reply turn haction hturn htask' _ _ hnew =>
      have hreply (e : Error) (he : reply.error? = some e) : allowed e :=
        hreplies m' (List.mem_append_right _ (List.mem_singleton_self m')) e
          ⟨slot, reply, haction, he⟩
      obtain ⟨hfails', hreceived'⟩ := hfails.answer hbelated hs.coherent
        (profile_eq_of_leads hleads) (hs.fits number task htask) hreply hturn
      rw [hnew]
      exact ⟨_, htask', hfails', receiptsAllow_append hreceived hreceived'⟩

end CarrierLink
