import Courier.Proofs.Engine.Rolls

/-!
# Attempts — one record for each attempt

Direct calls, retries and loads of the cache all call the transport, and all may be cancelled, or
panic, at any time.  After any run of a client there is one record for each call of the transport,
but for those that are still running and those that were cut off; whatever was noted of calls was
noted of tasks on the roll that dispatch something; and each of these has attempts that have
finished, each with the right record, and perhaps one that has not (`one_record_per_attempt`).
-/

namespace Courier

variable {α : Type}

/-- **THE TAGS OF THE RECORDS OF ONE REQUEST**, in order: the first tells of no code, and each other
of the code before it. -/
def Tagged (records : List Record) : Prop :=
  ∀ (i : Nat) (r : Record), records[i]? = some r → r.tag = tagAfter (records.take i).getLast?

/-- Attempts that come each after the one before it have these tags. -/
theorem Case.Chained.tagged {transport : Transport} {errand : Errand} {cases : List Case}
    (h : Case.Chained transport errand cases) : Tagged (cases.map Case.record) := by
  intro i r hr
  rw [List.getElem?_map] at hr
  obtain ⟨c, hc, rfl⟩ := Option.map_eq_some_iff.mp hr
  rw [← List.map_take, List.getLast?_map]
  exact (h i c hc).tag

theorem Note.what_of_record? {x : Note} {r : Record} (h : x.record? = some r) :
    x.what = .recorded r := by
  rw [Note.record?] at h
  cases hwhat : x.what with
  | recorded r' =>
      rw [hwhat] at h
      exact congrArg Happening.recorded (Option.some.inj h)
  | _ =>
      rw [hwhat] at h
      cases h

namespace Docket

variable {transport : Transport} {errand : Errand} {n : Nat} {l : Ledger} {lives : Prop}
  {d : Docket}

theorem records_of_cases (cases : List Case) :
    (cases.flatMap Case.steps).filterMap Happening.record? = cases.map Case.record := by
  induction cases with
  | nil => rfl
  | cons c rest ih =>
      rw [List.flatMap_cons, List.filterMap_append, ih]
      rfl

/-- The records of a task are those of the attempts that have finished. -/
theorem Noted.recordsOf (h : d.Noted transport errand n l lives) (hw : d.waits = true) :
    l.recordsOf n = d.cases.map Case.record := by
  rw [Ledger.recordsOf, h.steps]
  cases d with
  | between cases => exact records_of_cases cases
  | calling cases call earlier =>
      rw [Docket.steps, List.filterMap_append, records_of_cases]
      exact List.append_nil _
  | owing => cases hw

/-- Nothing was noted of the calls of a task that has made none. -/
theorem Noted.idle (h : (between []).Noted transport errand n l lives) {x : Note}
    (hx : x ∈ l.notes) (hn : x.task = some n) : x.what.isEntry = false := by
  refine Bool.eq_false_iff.mpr fun hentry => ?_
  have huncut : l.cutsOf n = [] := by
    by_cases hl : lives
    · exact (h.running hl).2
    · exact (h.ended hl).2
  rcases Ledger.step_or_cut_of_entry hx hn hentry with hstep | ⟨number, hcut, -⟩
  · rw [h.steps] at hstep
    cases hstep
  · rw [huncut] at hcut
    cases hcut

end Docket

namespace Engine

variable {e : Engine α} {config : Config} {requests : List (Nat × Request)}
  {events : List (EngineEvent α)} {mayRefuse : Prop} {duty : Duty α} {n : Nat} {d : Docket}

/-- A task that has nothing to dispatch makes no call. -/
theorem OnDuty.idle (h : OnDuty mayRefuse duty n e d) (hduty : duty.errand? = none) :
    d = .between [] := by
  by_cases hl : e.Lives n
  · obtain ⟨t, ht, hn⟩ := hl
    have hserves := h.serves t ht hn
    generalize t.job = job at hserves
    cases hserves with
    | call | load => cases hduty
    | deliver | clean => rfl
  · have hended := h.ended hl
    cases duty with
    | call | load => cases hduty
    | deliver | clean => exact hended

/-- Whatever was noted of calls was noted of a task that has something to dispatch. -/
theorem Dutiful.errand_of_entry {roll : List (Duty α × Nat)} (h : Dutiful mayRefuse roll e)
    (hu : Unborn e) {x : Note} (hx : x ∈ e.ledger.notes) (hentry : x.what.isEntry = true) :
    ∃ duty n errand, x.task = some n ∧ (duty, n) ∈ roll ∧ duty.errand? = some errand := by
  obtain ⟨n, hn⟩ := h.sound.named x hx hentry
  have hlt : n < e.spawned := by
    refine Nat.lt_of_not_le fun hle => ?_
    have hown : x ∈ e.ledger.notesOf n := List.mem_filter.mpr ⟨hx, by simp [hn]⟩
    rw [(hu n hle).1] at hown
    cases hown
  obtain ⟨duty, hduty⟩ := h.enrolled hlt
  cases herrand : duty.errand? with
  | some errand => exact ⟨duty, n, errand, hn, hduty, herrand⟩
  | none =>
      obtain ⟨d, hon⟩ := h.onDuty _ hduty
      have hnoted := hon.noted
      rw [hon.idle herrand] at hnoted
      cases hentry.symm.trans (hnoted.idle hx hn)

/-- Every record is one of a task, and says what came of an attempt of it. -/
theorem Dutiful.case_of_record {roll : List (Duty α × Nat)} (h : Dutiful mayRefuse roll e)
    (hu : Unborn e) {r : Record} (hr : r ∈ e.ledger.records) :
    ∃ duty n errand last, ∃ c : Case, (duty, n) ∈ roll ∧ duty.errand? = some errand ∧
      r ∈ e.ledger.recordsOf n ∧ c.record = r ∧ c.Sound e.parts.transport errand last := by
  rw [h.sound.records] at hr
  obtain ⟨x, hx, hrecord⟩ := List.mem_filterMap.mp hr
  have hwhat := Note.what_of_record? hrecord
  have hentry : x.what.isEntry = true := by rw [hwhat]; rfl
  obtain ⟨duty, n, errand, hn, hduty, herrand⟩ := h.errand_of_entry hu hx hentry
  obtain ⟨d, hon⟩ := h.onDuty _ hduty
  have hown : r ∈ e.ledger.recordsOf n := by
    rcases Ledger.step_or_cut_of_entry hx hn hentry with hstep | ⟨number, -, hcut⟩
    · exact List.mem_filterMap.mpr ⟨x.what, hstep, by rw [hwhat]; rfl⟩
    · cases hwhat.symm.trans hcut
  have hmem := hown
  rw [hon.noted.recordsOf hon.waits] at hmem
  obtain ⟨c, hc, hrecord⟩ := List.mem_map.mp hmem
  obtain ⟨i, hi⟩ := List.getElem?_of_mem hc
  have hsound := hon.noted.chained i c hi
  rw [Duty.errand, herrand] at hsound
  exact ⟨duty, n, errand, _, c, hduty, herrand, hown, hrecord, hsound⟩

theorem Client.parts_steps (h : Client config requests e) (hc : OfClient events) :
    (e.steps events).parts = e.parts := by
  induction events generalizing e requests with
  | nil => rfl
  | cons ev rest ih =>
      obtain ⟨hev, hrest⟩ := List.forall_mem_cons.mp hc
      have hparts := grows_step h.standing.running h.standing.numbers hev
      exact (ih (h.step hev) hrest).trans hparts.1

/-- **THE ACCOUNT OF A RUN**: what there is of calls and records after it. -/
structure Account (first : Engine α) (events : List (EngineEvent α)) : Prop where
  /-- There is a record for each call that neither runs nor was cut off. -/
  balance : (first.steps events).ledger.calls.length
    = (first.steps events).ledger.records.length + (first.steps events).ledger.running.length
      + (first.steps events).ledger.cuts.length
  /-- The calls are those that were noted when they were made, and so are the records. -/
  calls : (first.steps events).ledger.calls
    = (first.steps events).ledger.notes.filterMap Note.call?
  records : (first.steps events).ledger.records
    = (first.steps events).ledger.notes.filterMap Note.record?
  /-- Whatever was noted of calls was noted of a task that dispatches something, for one duty. -/
  enrolled : ∀ x ∈ (first.steps events).ledger.notes, x.what.isEntry = true →
    ∃ duty n errand, x.task = some n ∧ (duty, n) ∈ first.roll events ∧
      duty.errand? = some errand
  once : ((first.roll events).map Prod.snd).Nodup
  /-- What was noted of a task are attempts that have finished, each with the right record, and
  perhaps the call of one that has not, which runs if the task lives, and else was cut off. -/
  attempts : ∀ duty n, (duty, n) ∈ first.roll events → ∃ d : Docket, d.waits = true ∧
    d.Noted first.parts.transport duty.errand n (first.steps events).ledger
      ((first.steps events).Lives n)
  /-- Every record is one of a task, and says what came of an attempt of it. -/
  cases : ∀ r ∈ (first.steps events).ledger.records, ∃ duty n errand last, ∃ c : Case,
    (duty, n) ∈ first.roll events ∧ duty.errand? = some errand ∧
      r ∈ (first.steps events).ledger.recordsOf n ∧ c.record = r ∧
        c.Sound first.parts.transport errand last
  /-- The records of each task have the right tags. -/
  tags : ∀ n, Tagged ((first.steps events).ledger.recordsOf n)
  /-- The times in a record never decrease. -/
  timings : ∀ r ∈ (first.steps events).ledger.records,
    r.progress.nameLookup ≤ r.progress.connect ∧ r.progress.connect ≤ r.progress.preTransfer ∧
      r.progress.preTransfer ≤ r.progress.startTransfer ∧
        r.progress.startTransfer ≤ r.progress.total

/-- Nobody is on the roll twice. -/
theorem Dutiful.once {roll : List (Duty α × Nat)} (h : Dutiful mayRefuse roll e) :
    (roll.map Prod.snd).Nodup := by
  rw [h.numbers]
  exact List.nodup_range

/-- Nobody who has come later is on the roll twice. -/
theorem Dutiful.once_later {roll later : List (Duty α × Nat)}
    (h : Dutiful mayRefuse (roll ++ later) e) : (later.map Prod.snd).Nodup := by
  have hall := h.once
  rw [List.map_append] at hall
  exact (List.nodup_append.mp hall).2.1

/-- The records of each task have the right tags, also of one that was never spawned. -/
theorem Dutiful.tagged {roll : List (Duty α × Nat)} (h : Dutiful mayRefuse roll e) (hu : Unborn e)
    (n : Nat) : Tagged (e.ledger.recordsOf n) := by
  by_cases hn : n < e.spawned
  · obtain ⟨duty, hduty⟩ := h.enrolled hn
    obtain ⟨d, hon⟩ := h.onDuty _ hduty
    rw [hon.noted.recordsOf hon.waits]
    exact hon.noted.chained.tagged
  · have hnone : e.ledger.recordsOf n = [] := by
      rw [Ledger.recordsOf, Ledger.stepsOf, (hu n (Nat.le_of_not_lt hn)).1]
      rfl
    rw [hnone]
    intro i r hr
    rw [List.getElem?_nil] at hr
    cases hr

/-- **ONE RECORD PER ATTEMPT**, whatever is asked of a client, and whatever its transport does. -/
theorem one_record_per_attempt {hasEngine : Bool} {parts : Parts} {present : Response → α}
    {epoch : Int} (h : ofConfig config hasEngine parts present epoch = .ok e)
    (hc : OfClient events) : Account e events := by
  have hopened := client_ofConfig h
  have hborn := unborn_ofConfig h
  have hdutiful := hopened.dutiful hborn (dutiful_ofConfig True h) hc fun _ _ _ _ => trivial
  have hunborn := hopened.unborn hborn hc
  have hparts := hopened.parts_steps hc
  have hroll : ∀ x : Duty α × Nat, x ∈ [(.clean, 0)] ++ e.roll events → x.1.errand? ≠ none →
      x ∈ e.roll events := by
    intro x hx herrand
    rcases List.mem_append.mp hx with hcleaner | hlater
    · rw [List.mem_singleton.mp hcleaner] at herrand
      exact absurd rfl herrand
    · exact hlater
  have henrolled : ∀ x ∈ (e.steps events).ledger.notes, x.what.isEntry = true →
      ∃ duty n errand, x.task = some n ∧ (duty, n) ∈ e.roll events ∧
        duty.errand? = some errand := by
    intro x hx hentry
    obtain ⟨duty, n, errand, hn, hduty, herrand⟩ := hdutiful.errand_of_entry hunborn hx hentry
    exact ⟨duty, n, errand, hn, hroll _ hduty (by simp [herrand]), herrand⟩
  have hcases : ∀ r ∈ (e.steps events).ledger.records, ∃ duty n errand last, ∃ c : Case,
      (duty, n) ∈ e.roll events ∧ duty.errand? = some errand ∧
        r ∈ (e.steps events).ledger.recordsOf n ∧ c.record = r ∧
          c.Sound e.parts.transport errand last := by
    intro r hr
    obtain ⟨duty, n, errand, last, c, hduty, herrand, hown, hrecord, hsound⟩ :=
      hdutiful.case_of_record hunborn hr
    exact ⟨duty, n, errand, last, c, hroll _ hduty (by simp [herrand]), herrand, hown, hrecord,
      hparts ▸ hsound⟩
  refine
    { balance := hdutiful.sound.count
      calls := hdutiful.sound.calls
      records := hdutiful.sound.records
      enrolled := henrolled
      once := hdutiful.once_later
      attempts := ?attempts
      cases := hcases
      tags := fun n => hdutiful.tagged hunborn n
      timings := ?timings }
  case attempts =>
    intro duty n hduty
    obtain ⟨d, hon⟩ := hdutiful.onDuty _ (List.mem_append_right _ hduty)
    exact ⟨d, hon.waits, hparts ▸ hon.noted⟩
  case timings =>
    intro r hr
    obtain ⟨_, _, _, _, c, _, _, _, rfl, hsound⟩ := hcases r hr
    have hmonotonic := hsound.monotonic
    rw [Progress.isMonotonic] at hmonotonic
    simpa [and_assoc] using hmonotonic

/-- The first of two rivals is cancelled inside its second call, and then the other has its turn. -/
def overtaken : List (EngineEvent Response) :=
  rivals ++ [.tick, .turn 1, .cancel 0, .turn 1, .turn 2]

/-- Of three calls two have their records, and one was cut off. -/
theorem one_record_per_attempt_of_overtaken :
    ofConfig narrow true Retry.wavering id 0 = .ok narrowEngine ∧ OfClient overtaken ∧
    Account narrowEngine overtaken ∧
    (narrowEngine.steps overtaken).ledger.calls.length = 3 ∧
    ((narrowEngine.steps overtaken).ledger.recordsOf 1).map Record.code = [503] ∧
    ((narrowEngine.steps overtaken).ledger.recordsOf 2).map Record.code = [200] ∧
    (narrowEngine.steps overtaken).ledger.running = [] ∧
    (narrowEngine.steps overtaken).ledger.cutsOf 1 = [2] := by
  have hc : OfClient overtaken := by simp [OfClient, overtaken, rivals, EngineEvent.isClient]
  exact ⟨ofConfig_narrow, hc, one_record_per_attempt ofConfig_narrow hc, by decide +kernel,
    by decide +kernel, by decide +kernel, by decide +kernel, by decide +kernel⟩

/-- The tags of a request that is repeated twice. -/
example :
    let e := narrowEngine.steps (rivals ++ (List.replicate 8 [.tick, .turn 1]).flatten)
    (e.ledger.recordsOf 1).map Record.tag = ["single", "single|retry:503", "single|retry:-1"] := by
  decide +kernel

end Engine

end Courier
