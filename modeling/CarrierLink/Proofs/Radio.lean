import CarrierLink.Proofs.Central.Cycle
import CarrierLink.Radio

/-!
# What the radio tells a central

A reply of the radio fails for reasons of the platform alone
(`CarrierLink.Radio.isPlatform_of_reply?`): a step has failed, there is no adapter, or no
device was selected. The steps of a call on a link concern the device of the link and no other
(`CarrierLink.Radio.device_of_mem_steps`), those that concern a characteristic are on the
characteristic of the call and with its bytes (`CarrierLink.Radio.write_of_mem_steps`), and the
steps of a search are one scan (`CarrierLink.Radio.Scan`), which is stopped if it has started.
-/

namespace CarrierLink

/-- The failures that only the platform reports. -/
def Error.IsPlatform : Error → Prop
  | .transport .. | .unsupportedPlatform | .deviceSelectionAborted => True
  | _ => False

/-- Whether a step starts or stops a scan. -/
def RadioStep.isScan : RadioStep → Bool
  | startScan | stopScan => true
  | _ => false

namespace Radio

/-! ### Failures -/

section Failures

variable {α : Type} {e : Error}

theorem isPlatform_of_during {activity : Activity} {result : Except Fault α}
    (h : during activity result = .error e) : e.IsPlatform := by
  cases result with
  | ok => exact absurd h (by simp [during, Except.mapError])
  | error fault =>
    obtain rfl : Error.transport activity fault = e := Except.error.inj h
    trivial

/-- Of two steps the first or the second has failed. -/
theorem error_of_bind {β : Type} {x : Except Error α} {f : α → Except Error β}
    (h : x >>= f = .error e) : x = .error e ∨ ∃ a, x = .ok a ∧ f a = .error e := by
  cases x with
  | error e' => exact .inl (congrArg Except.error (Except.error.inj h))
  | ok a => exact .inr ⟨a, rfl, h⟩

theorem isPlatform_of_adapter {manager : Except Fault Unit} {adapters : Except Fault Nat}
    (h : adapter manager adapters = .error e) : e.IsPlatform := by
  rcases error_of_bind h with h | ⟨_, -, h⟩
  · exact isPlatform_of_during h
  rcases error_of_bind h with h | ⟨count, -, h⟩
  · exact isPlatform_of_during h
  split at h
  · obtain rfl : Error.unsupportedPlatform = e := Except.error.inj h
    trivial
  · exact absurd h (by simp [pure, Except.pure])

theorem isPlatform_of_listing {survey : Survey} (h : survey.listing = .error e) :
    e.IsPlatform := by
  rcases error_of_bind h with h | ⟨sightings, -, h⟩
  · exact isPlatform_of_during h
  rcases error_of_bind h with h | ⟨found, -, h⟩
  · obtain ⟨⟨sighting, number⟩, -, h⟩ := exists_error_of_mapM h
    simp only [Survey.advertiser] at h
    cases hread : during .readingAdvertisement sighting.advertisement with
    | ok => exact absurd h (by simp [hread, Except.map])
    | error e' =>
      obtain rfl : e' = e := by simpa [hread, Except.map] using h
      exact isPlatform_of_during hread
  · exact absurd h (by simp [pure, Except.pure])

theorem isPlatform_of_found {survey : Survey} (h : survey.found = .error e) : e.IsPlatform := by
  rcases error_of_bind h with h | ⟨_, -, h⟩
  · exact isPlatform_of_adapter h
  rcases error_of_bind h with h | ⟨_, -, h⟩
  · exact isPlatform_of_during h
  split at h
  · exact absurd h (by simp [pure, Except.pure])
  next hstop =>
    obtain rfl := Except.error.inj h
    exact isPlatform_of_during hstop
  next hlisting =>
    obtain rfl := Except.error.inj h
    exact isPlatform_of_listing hlisting

theorem isPlatform_of_select {survey : Survey} {filter : Filter}
    (h : survey.select filter = .error e) : e.IsPlatform := by
  rcases error_of_bind h with h | ⟨found, -, h⟩
  · exact isPlatform_of_found h
  · split at h
    · exact absurd h (by simp [pure, Except.pure])
    · obtain rfl : Error.deviceSelectionAborted = e := Except.error.inj h
      trivial

theorem isPlatform_of_present {activity : Activity} {handle : Handle}
    {result : Option (Except Fault α)} (h : present activity handle result = .error e) :
    e.IsPlatform := by
  cases result with
  | some result => exact isPlatform_of_during h
  | none =>
    obtain rfl := Except.error.inj h
    trivial

theorem eq_of_error? {reply : Reply} (h : reply.error? = some e) :
    reply = .device (.error e) ∨ reply = .done (.error e) ∨ reply = .services (.error e) ∨
      reply = .data (.error e) := by
  rcases reply with _ | (_ | _) | (_ | _) | (_ | _) | (_ | _) <;> simp_all [Reply.error?]

/-- **A reply of the radio fails for reasons of the platform.** -/
theorem isPlatform_of_reply? {filter : Filter} {call : Call} {result : Result} {reply : Reply}
    (h : reply? filter call result = some reply) (he : reply.error? = some e) :
    e.IsPlatform := by
  simp only [reply?] at h
  rcases eq_of_error? he with rfl | rfl | rfl | rfl
  · split at h <;> simp only [Option.some.injEq, reduceCtorEq, Reply.device.injEq] at h
    exact isPlatform_of_select h
  · split at h <;> simp only [Option.some.injEq, reduceCtorEq, Reply.done.injEq] at h
    · exact isPlatform_of_during h
    · exact isPlatform_of_during h
    · -- Of the two streams the first or the second could not be opened.
      rcases error_of_bind h with h | ⟨_, -, h⟩
      · exact isPlatform_of_during h
      · exact isPlatform_of_during h
    · exact isPlatform_of_present h
    · exact isPlatform_of_present h
  · split at h <;> simp only [Option.some.injEq, reduceCtorEq, Reply.services.injEq] at h
    exact isPlatform_of_during h
  · split at h <;> simp only [Option.some.injEq, reduceCtorEq, Reply.data.injEq] at h
    exact isPlatform_of_present h

end Failures

/-! ### Devices and scans -/

/-- **The steps of one scan**: a scan that has been started is stopped. -/
inductive Scan : List (RadioStep × Bool) → Prop
  /-- There is no adapter to scan with. -/
  | none : Scan []
  | refused : Scan [(.startScan, false)]
  | stopped (ok : Bool) : Scan [(.startScan, true), (.stopScan, ok)]

theorem scan_steps (result : Result) : Scan (steps .requestDevice result) := by
  cases result with
  | survey survey =>
    simp only [steps, scanSteps]
    split
    · cases hstart : survey.start with
      | ok => simpa [step, hstart, Except.toBool] using Scan.stopped _
      | error => simpa [step, hstart, Except.toBool] using Scan.refused
    · exact .none
  | _ => exact .none

theorem Scan.isScan {log : List (RadioStep × Bool)} (h : Scan log) :
    ∀ entry ∈ log, entry.1.isScan := by
  cases h <;> simp [RadioStep.isScan]

/-- **A call on a link** is no scan, and concerns the device of the link alone. -/
theorem device_of_mem_steps {call : Call} {link : Link} {result : Result}
    {entry : RadioStep × Bool} (hlink : call.link? = some link)
    (h : entry ∈ steps call result) :
    entry.1.isScan = false ∧ ∀ device, entry.1.device? = some device → device = link.number := by
  have hsame (h : ∃ step', entry.1 = step' ∧ step'.isScan = false ∧
      (step'.device? = none ∨ step'.device? = some link.number)) :
      entry.1.isScan = false ∧ ∀ device, entry.1.device? = some device → device = link.number := by
    obtain ⟨step', rfl, hscan, hdevice⟩ := h
    refine ⟨hscan, fun device h => ?_⟩
    rcases hdevice with hnone | hsome
    · exact absurd (hnone.symm.trans h) (by simp)
    · exact Option.some.inj (h.symm.trans hsome)
  simp only [steps] at h
  split at h
  · exact absurd hlink (by simp [Call.link?])
  · obtain rfl := Option.some.inj hlink
    obtain rfl := List.mem_singleton.mp h
    exact hsame ⟨_, rfl, rfl, .inr rfl⟩
  · obtain rfl := Option.some.inj hlink
    obtain rfl := List.mem_singleton.mp h
    exact hsame ⟨_, rfl, rfl, .inr rfl⟩
  · obtain rfl := Option.some.inj hlink
    rcases List.mem_cons.mp h with rfl | h
    · exact hsame ⟨_, rfl, rfl, .inr rfl⟩
    · -- The events of the adapter are about no device in particular.
      split at h
      · obtain rfl := List.mem_singleton.mp h
        exact hsame ⟨_, rfl, rfl, .inl rfl⟩
      · exact absurd h List.not_mem_nil
  · obtain rfl := Option.some.inj hlink
    obtain rfl := List.mem_singleton.mp h
    exact hsame ⟨_, rfl, rfl, .inr rfl⟩
  · obtain rfl := Option.some.inj hlink
    obtain ⟨_, -, rfl⟩ := List.mem_map.mp h
    exact hsame ⟨_, rfl, rfl, .inr rfl⟩
  · obtain rfl := Option.some.inj hlink
    obtain ⟨_, -, rfl⟩ := List.mem_map.mp h
    exact hsame ⟨_, rfl, rfl, .inr rfl⟩
  · obtain rfl := Option.some.inj hlink
    obtain ⟨_, -, rfl⟩ := List.mem_map.mp h
    exact hsame ⟨_, rfl, rfl, .inr rfl⟩
  · exact absurd h List.not_mem_nil

/-- A link that is closed leaves one step in the log. -/
theorem steps_of_disconnect {filter : Filter} {link : Link} {result : Result} {reply : Reply}
    (h : reply? filter (.disconnect link) result = some reply) :
    ∃ ok, steps (.disconnect link) result = [(.disconnect link.number, ok)] := by
  cases result with
  | done result => exact ⟨_, rfl⟩
  | _ => exact absurd h (by simp [reply?])

/-! ### Writes -/

/-- **A step that writes** is one of a write, on its characteristic and with its bytes. -/
theorem write_of_mem_steps {call : Call} {result : Result} {device : Nat}
    {characteristic : Uuid} {data : Bytes} {ok : Bool}
    (h : (RadioStep.write device characteristic data, ok) ∈ steps call result) :
    ∃ link handle, call = .write link handle data ∧ characteristic = handle.uuid := by
  simp only [steps] at h
  split at h
  · simp only [scanSteps, step] at h
    split at h
    · split at h <;> simp at h
    · exact absurd h List.not_mem_nil
  · simp [step] at h
  · simp [step] at h
  · simp only [step] at h
    split at h <;> simp at h
  · simp [step] at h
  · simp [step] at h
  next link handle data' result =>
    simp only [step, List.mem_map, Prod.mk.injEq, RadioStep.write.injEq] at h
    obtain ⟨_, -, ⟨-, rfl, rfl⟩, -⟩ := h
    exact ⟨link, handle, rfl, rfl⟩
  · simp [step] at h
  · exact absurd h List.not_mem_nil

/-- A write that is acknowledged has succeeded on the air. -/
theorem mem_steps_of_done {filter : Filter} {link : Link} {handle : Handle} {data : Bytes}
    {result : Result} (h : reply? filter (.write link handle data) result = some (.done (.ok ()))) :
    (RadioStep.write link.number handle.uuid data, true) ∈
      steps (.write link handle data) result := by
  cases result with
  | acknowledgement result =>
    rcases result with _ | (e | _)
    · simp [reply?, present] at h
    · simp [reply?, present, during, Except.mapError] at h
    · simp [steps, step, Except.toBool]
  | _ => exact absurd h (by simp [reply?])

end Radio

end CarrierLink
