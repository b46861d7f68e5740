import Courier.Proofs.Engine.Attribution
import Courier.Proofs.Engine.Futures
import Courier.Proofs.Engine.Slots

/-!
# Cancelling — a call around the cache that is cancelled

A call around the cache is dispatched by a task of its own, which keeps its books until the future is
decided (`UnderWay`).  When the future is cancelled, the task is to be dropped: nothing more is noted
of it but that it was dropped, and that its call was cut off if it was inside one (`CutShort`), and
it leaves the pool in its turn.  So what was recorded are the attempts that had finished before, and
whoever asks is told of the cancel (`Ended`).
-/

namespace Courier

open SlotPool

variable {α : Type}

/-- The attempts that have finished, and no others, have records. -/
theorem records_of_steps (finished : List Finished) (inFlight : Option Call) :
    (finished.flatMap Finished.steps ++ inFlight.toList.map Happening.called).filterMap
      Happening.record? = finished.map Finished.record := by
  have hlast : (inFlight.toList.map Happening.called).filterMap Happening.record? = [] := by
    cases inFlight <;> rfl
  rw [List.filterMap_append, hlast, List.append_nil]
  induction finished with
  | nil => rfl
  | cons a rest ih =>
      rw [List.flatMap_cons, List.filterMap_append, ih]
      rfl

namespace Engine

/-- A call around the cache: what the client is asked for, the request that is sent, and the handler
    that makes the result. -/
inductive CallsAround (e : Engine α) : EngineEvent α → Request → Handler α → Prop where
  | critical (request : Request) (handler : Handler α) :
      CallsAround e (.criticalExecuteWith request handler) request handler
  /-- The request is not one that the cache may answer. -/
  | execute {request : Request} (h : request.isCacheEligible = false) :
      CallsAround e (.execute request) request (Handler.response.map e.present)

/-- **A CALL IS UNDER WAY**: its task drives the future and keeps its books, until the future is
    decided. -/
inductive UnderWay (again : Bool) (future n : Nat) (e : Engine α) : Prop where
  | drives {t : Task α} {work : Program (Outcome α)} {juncture : Juncture}
      {finished : List Finished} (ht : t ∈ e.tasks) (hn : t.number = n)
      (hj : t.job = .drive future work)
      (kept : Program.Keeps again n e.ledger work juncture finished) : UnderWay again future n e
  | decided {c : Completion α} (hf : e.futures[future]? = some c) (hc : c.state ≠ .pending) :
      UnderWay again future n e

/-- **A TASK IS CUT SHORT**: it waits for its turn, in which it is dropped, and nothing was noted of
    it since; or it was dropped at some time, and nothing but that was noted. -/
inductive CutShort (n : Nat) (e e' : Engine α) : Prop where
  | waits {t : Task α} (ht : t ∈ e'.tasks) (hn : t.number = n) (ha : t.aborted = true)
      (spared : Spares n e e') : CutShort n e e'
  | dropped (time : Nat) (gone : ¬ e'.Lives n) (inside : e'.ledger.inside n = none)
      (notes : e'.ledger.notesOf n
        = lastNotes n (e.ledger.inside n) time ++ e.ledger.notesOf n) : CutShort n e e'

/-- The turn in which a task is dropped: it was there, it is gone, it left the pool, and if it had
    held a slot, that was given back. -/
structure Drops (holds : Prop) (n : Nat) (e e' : Engine α) : Prop where
  lived : e.Lives n
  leaves : Leaves n e e'
  givesBack : holds → e.ledger.pool.GivesBack n e'.ledger.pool

/-- **WHAT BECOMES OF A CALL** whose future is cancelled, when other things have happened later. -/
structure Ended (again : Bool) (future n : Nat) (e : Engine α) (later : List (EngineEvent α)) :
    Prop where
  /-- When the future is cancelled, some attempts have finished, and the call of one more may be in
      flight; there are no further steps, and the attempts that have finished have the records. -/
  attempts : ∃ (finished : List Finished) (inFlight : Option Call),
    (again = false → finished = []) ∧ e.ledger.inside n = inFlight.map Call.number ∧
    (((e.cancel future).1.steps later).ledger.stepsOf n
      = finished.flatMap Finished.steps ++ inFlight.toList.map .called) ∧
    ((e.cancel future).1.steps later).ledger.recordsOf n = finished.map Finished.record
  /-- Nothing more is noted of the task but that it was dropped. -/
  silent : CutShort n e ((e.cancel future).1.steps later)
  /-- It is dropped once it has a turn. -/
  drops : .turn n ∈ later →
    Comes n (e.cancel future).1 later (Drops (n ∈ e.ledger.pool.holders) n)
  /-- Whoever asks is told of the cancel. -/
  polls : ∀ waker, (((e.cancel future).1.steps later).pollFuture future waker).2
    = some (.error .cancelled)
  waits : (((e.cancel future).1.steps later).waitFuture future).2 = .error .cancelled

variable {e e' : Engine α} {t : Task α} {config : Config} {requests : List (Nat × Request)}
  {events later : List (EngineEvent α)} {ev : EngineEvent α} {again : Bool} {n future : Nat}
  {request : Request} {handler : Handler α}

/-! ## The call -/

/-- A task that drives a future decides it when it ends. -/
theorem remains_of_drive {l : Ledger} {remains : Remains α} {work : Program (Outcome α)}
    (he : Ends e t l remains) (hj : t.job = .drive future work) :
    ∃ result, remains = .future future result := by
  cases ha : t.aborted with
  | true =>
      cases he with
      | dropped _ hf =>
          rw [hj] at hf
          cases hf
          exact ⟨_, rfl⟩
      | droppedLoad _ hjob => cases hj.symm.trans hjob
      | droppedClean _ hjob => cases hj.symm.trans hjob
      | finished ha' | panicked ha' | delivered ha' | loaded ha' | loadPanicked ha' | cleaned ha' =>
          cases ha.symm.trans ha'
  | false =>
      have hfinishes := he.finishes ha
      rw [Finishes, hj] at hfinishes
      obtain ⟨stopped, -, ⟨v, -, rfl⟩ | ⟨text, -, rfl⟩⟩ := hfinishes
      · exact ⟨_, rfl⟩
      · exact ⟨_, rfl⟩

/-- A future that is completed is decided. -/
theorem state_complete (c : Completion α) (result : Outcome α) :
    (c.complete result).1.state ≠ .pending := by
  obtain ⟨state, waker, task⟩ := c
  cases state <;> simp [Completion.complete]

/-- No task is lost in a chain of acts, nor does its job change. -/
theorem Acts.keeps (h : Acts e requests e') (ht : t ∈ e.tasks) :
    ∃ t' ∈ e'.tasks, t'.number = t.number ∧ t'.job = t.job ∧
      (t.aborted = true → t'.aborted = true) := by
  induction h generalizing t with
  | refl e => exact ⟨t, ht, rfl, rfl, id⟩
  | step h hs ih =>
      obtain ⟨u, hu, hnumber, hjob, -, haborted⟩ := h.keeps ht
      obtain ⟨u', hu', hnumber', hjob', haborted'⟩ := ih hu
      exact ⟨u', hu', hnumber'.trans hnumber, hjob'.trans hjob, fun ha => haborted' (haborted ha)⟩

/-- A task is left alone by whatever is not its turn. -/
theorem Client.keeps_task (h : Client config requests e) (hc : ev.isClient = true)
    (ht : t ∈ e.tasks) (hev : ev = .turn t.number → t.number ∉ e.ready) :
    Spares t.number e (e.step ev) ∧ ∃ t' ∈ (e.step ev).tasks, t'.number = t.number ∧
      t'.job = t.job ∧ (t.aborted = true → t'.aborted = true) := by
  refine ⟨Engine.spares_step t.number h.standing.running hc fun hturn _ => hev hturn, ?_⟩
  rcases h.cases hc with ⟨n, rfl, hturned, -⟩ | ⟨-, hacts⟩
  · refine ⟨t, ?_, rfl, rfl, id⟩
    by_cases hn : t.number = n
    · subst hn
      exact hturned.keeps_of_not_ready (hev rfl) ht
    · exact hturned.keeps ht hn
  · exact hacts.keeps ht

/-- A call that is made is under way. -/
theorem Client.underWay_call (h : Client config requests e) (hu : Unborn e)
    (hd : CallsAround e ev request handler) :
    UnderWay request.hasRetryPolicy e.futures.length e.spawned (e.step ev) := by
  have hcritical : UnderWay request.hasRetryPolicy e.futures.length e.spawned
      (e.criticalExecuteWith request handler).1 := by
    rw [criticalExecuteWith]
    split
    · exact .decided List.getElem?_concat_length (by simp [Completion.decided])
    · rw [driveFuture, e.spawnFuture_eq h.standing.running]
      obtain ⟨hnotes, hinside⟩ := hu e.spawned (Nat.le_refl _)
      have hsteps : e.ledger.stepsOf e.spawned = [] := by
        rw [Ledger.stepsOf, hnotes]
        rfl
      have hbooked : Booked request.hasRetryPolicy e.spawned e.ledger [] .between :=
        .between hsteps hinside fun _ => rfl
      exact .drives (List.mem_append_right _ List.mem_cons_self) rfl rfl
        ⟨dispatch_attends request handler, rfl, hbooked⟩
  cases hd with
  | critical => exact hcritical
  | execute hcache =>
      rw [Engine.step, execute]
      split
      · exact .decided List.getElem?_concat_length (by simp [Completion.decided])
      · rw [if_pos (by simp [hcache])]
        exact hcritical

/-- The turn of the task of a call. -/
theorem Client.underWay_turn (h : Client config requests e) {work : Program (Outcome α)}
    {juncture : Juncture} {finished : List Finished} (ht : t ∈ e.tasks)
    (hj : t.job = .drive future work) (hr : t.number ∈ e.ready)
    (kept : Program.Keeps again t.number e.ledger work juncture finished) :
    UnderWay again future t.number (e.turn t.number) := by
  rcases (turn_step h.standing.numbers t.number).own h.standing.numbers ht hr with
    ⟨ha, l, job, loads, hs, hrests⟩ | ⟨l, remains, he, hrests⟩
  · -- it goes on, in the ledger in which its program has to wait again
    have hproceeds := hs.proceeds
    rw [Proceeds, hj] at hproceeds
    obtain ⟨stopped, next, hrun, hnext, rfl⟩ := hproceeds
    have hbegun : Booked again t.number (e.begunLedger t) finished juncture := by
      rw [begunLedger]
      split
      · exact kept.booked
      · exact kept.booked.mark rfl
    obtain ⟨juncture', finished', hkept⟩ :=
      kept.attends.run e.parts hbegun (q := next) (by rw [hrun]; exact hnext)
    rw [hrun] at hkept
    rw [← ledger_turn_of_drive h.standing.numbers hr ht ha hj hrun hnext] at hkept
    refine .drives (t := { t with job := .drive future next, begun := true }) ?_ rfl rfl hkept
    rw [hrests.tasks]
    exact List.mem_map.mpr ⟨t, ht, if_pos rfl⟩
  · obtain ⟨result, rfl⟩ := remains_of_drive he hj
    have hdrives := h.standing.drives t ht
    rw [Drives, hj] at hdrives
    obtain ⟨c, hc, -⟩ := hdrives
    refine .decided (c := (c.complete result).1) ?_ (state_complete c result)
    rw [hrests.futures]
    show (e.futures.modify future fun c => (c.complete result).1)[future]? = _
    rw [List.getElem?_modify, hc]
    simp

/-- A call that is under way goes on, or its future is decided. -/
theorem Client.underWay_step (h : Client config requests e) (hu : UnderWay again future n e)
    (hc : ev.isClient = true) : UnderWay again future n (e.step ev) := by
  cases hu with
  | @decided c hf hd =>
      have hmatures : Matures e (e.step ev) := h.matures (List.forall_mem_singleton.mpr hc)
      obtain ⟨more, hmore⟩ := hmatures.old future c hf
      exact .decided hmore (Completion.after_of_done hd more).1
  | @drives t work juncture finished ht hn hj kept =>
      subst hn
      by_cases hown : ev = .turn t.number ∧ t.number ∈ e.ready
      · obtain ⟨rfl, hr⟩ := hown
        exact h.underWay_turn ht hj hr kept
      · obtain ⟨hspares, u, hu, hnumber, hjob, -⟩ := h.keeps_task hc ht (not_and.mp hown)
        exact .drives hu hnumber (hjob.trans hj)
          ⟨kept.attends, kept.waits, kept.booked.spares hspares⟩

/-- **A CALL IS UNDER WAY UNTIL ITS FUTURE IS DECIDED**, whatever happens to the client. -/
theorem Client.underWay (h : Client config requests e) (hu : UnderWay again future n e)
    (hc : OfClient events) : UnderWay again future n (e.steps events) := by
  induction events generalizing e requests with
  | nil => exact hu
  | cons ev rest ih =>
      obtain ⟨hev, hrest⟩ := List.forall_mem_cons.mp hc
      exact ih (h.step hev) (h.underWay_step hu hev) hrest

/-! ## The cancel -/

/-- The turn of a task that is to be dropped: it is gone, and nothing was noted but that. -/
theorem Client.dropped_in_turn (h : Client config requests e) (ht : t ∈ e.tasks)
    (ha : t.aborted = true) : ¬ (e.turn t.number).Lives t.number ∧
      (e.turn t.number).ledger.inside t.number = none ∧
      (e.turn t.number).ledger.notesOf t.number
        = lastNotes t.number (e.ledger.inside t.number) e.ledger.elapsed
          ++ e.ledger.notesOf t.number := by
  have hr : t.number ∈ e.ready := h.standing.prompt t ht (Or.inr (Or.inl ha))
  have hgone : ¬ (e.turn t.number).Lives t.number := by
    rcases (turn_step h.standing.numbers t.number).own h.standing.numbers ht hr with
      ⟨hnot, -⟩ | ⟨l, remains, he, hrests⟩
    · cases ha.symm.trans hnot
    · exact not_lives_of_left hrests.tasks
  -- whoever is to be dropped drives a future that was cancelled
  have hdrives := h.standing.drives t ht
  rw [Drives] at hdrives
  cases hj : t.job.future? with
  | none =>
      rw [hj] at hdrives
      cases ha.symm.trans hdrives
  | some future =>
      rw [hj] at hdrives
      obtain ⟨c, hf, hcase⟩ := hdrives
      have hcancelled := (hcase.resolve_left fun h => absurd (ha.symm.trans h.2.2) (by simp)).1
      have hdone : ∀ c, e.futures[future]? = some c → c.state ≠ .pending := by
        intro c' hf'
        cases hf.symm.trans hf'
        simp [hcancelled]
      obtain ⟨hnotes, hinside⟩ := dropped_turn h.standing.numbers hr ht ha hj hdone
      exact ⟨hgone, hinside, hnotes⟩

/-- A task that is cut short is dropped in its turn, and left alone before and after that. -/
theorem Client.cutShort_step {first : Engine α} (h : Client config requests e)
    (hn : n < e.spawned) (hd : CutShort n first e) (hc : ev.isClient = true) :
    CutShort n first (e.step ev) := by
  cases hd with
  | dropped time gone inside notes =>
      have hspares := h.spares_step hc gone
      have honward : Onward e (e.step ev) := h.onward (List.forall_mem_singleton.mpr hc)
      exact .dropped time (fun hlives => gone (honward.ended hn hlives))
        (hspares.inside.trans inside) (hspares.notes.trans notes)
  | @waits t ht hnumber ha spared =>
      subst hnumber
      by_cases hown : ev = .turn t.number
      · subst hown
        obtain ⟨hgone, hinside, hnotes⟩ := h.dropped_in_turn ht ha
        rw [spared.notes, spared.inside] at hnotes
        exact .dropped _ hgone hinside hnotes
      · obtain ⟨hspares, u, hu, hnumber, -, haborted⟩ :=
          h.keeps_task hc ht fun hev => absurd hev hown
        exact .waits hu hnumber (haborted ha) (spared.trans hspares)

theorem Client.cutShort {first : Engine α} (h : Client config requests e) (hn : n < e.spawned)
    (hd : CutShort n first e) (hc : OfClient events) : CutShort n first (e.steps events) := by
  induction events generalizing e requests with
  | nil => exact hd
  | cons ev rest ih =>
      obtain ⟨hev, hrest⟩ := List.forall_mem_cons.mp hc
      have honward : Onward e (e.step ev) := h.onward (List.forall_mem_singleton.mpr hev)
      exact ih (h.step hev) (Nat.lt_of_lt_of_le hn honward.spawned) (h.cutShort_step hn hd hev) hrest

/-- A task that is dropped takes no further step of an attempt. -/
theorem CutShort.steps (h : CutShort n e e') : e'.ledger.stepsOf n = e.ledger.stepsOf n := by
  cases h with
  | waits ht hn ha spared => exact spared.steps
  | dropped time gone inside notes =>
      have hlast : ((lastNotes n (e.ledger.inside n) time).reverse.map Note.what).filter
          Happening.isStep = [] := by
        cases e.ledger.inside n <;> rfl
      rw [Ledger.stepsOf, notes, List.reverse_append, List.map_append, List.filter_append, hlast,
        List.append_nil]
      rfl

/-- A task that is to be dropped is dropped once it has had its turn, and gives its slot back. -/
theorem Client.drops (h : Client config requests e) (ht : t ∈ e.tasks) (ha : t.aborted = true)
    (hc : OfClient later) (hl : .turn t.number ∈ later) :
    Comes t.number e later (Drops (t.number ∈ e.ledger.pool.holders) t.number) := by
  refine (h.leaves_of_aborted ht ha hc hl).mono ?_
  rintro x x' ⟨hlives, hleaves, hholds⟩
  refine ⟨hlives, hleaves, fun hh => ?_⟩
  rw [hleaves.2]
  exact givesBack_leave (hholds hh)

/-- **A CALL THAT IS CANCELLED IS AT ITS END.** -/
theorem Client.ended_of_cancelled (h : Client config requests e)
    (hu : UnderWay again future n e) (hcancel : (e.cancel future).2 = true)
    (hc : OfClient later) : Ended again future n e later := by
  cases hu with
  | decided hf hd =>
      rw [e.cancel_of_done] at hcancel
      · cases hcancel
      · intro c hf'
        cases hf.symm.trans hf'
        exact hd
  | @drives t work juncture finished ht hn hj kept =>
      subst hn
      have hclient := h.cancel future
      obtain ⟨hthere, hpool⟩ := h.aborted_of_cancelled ht (by rw [hj]; rfl) hcancel
      have hshort : CutShort t.number e ((e.cancel future).1.steps later) := by
        refine hclient.cutShort (hclient.standing.spawned { t with aborted := true } hthere) ?_ hc
        exact .waits hthere rfl rfl (e.spares_cancel t.number future)
      obtain ⟨hpolls, hwaits⟩ := h.told_for_good hcancel hc
      have hbooked : ∃ inFlight : Option Call, (again = false → finished = []) ∧
          e.ledger.inside t.number = inFlight.map Call.number ∧ e.ledger.stepsOf t.number
            = finished.flatMap Finished.steps ++ inFlight.toList.map .called := by
        -- a task that waits is between two attempts, or inside a call
        have hwaits := kept.waits
        cases kept.booked with
        | between steps inside first =>
            exact ⟨none, first, inside, steps.trans (List.append_nil _).symm⟩
        | calling call steps inside first => exact ⟨some call, first, inside, steps⟩
        | owing => cases hwaits
        | done => cases hwaits
      obtain ⟨inFlight, hfirst, hinside, hsteps⟩ := hbooked
      refine
        { attempts := ⟨finished, inFlight, hfirst, hinside, hshort.steps.trans hsteps, ?_⟩
          silent := hshort
          drops := ?drops
          polls := hpolls
          waits := hwaits }
      · rw [Ledger.recordsOf, hshort.steps, hsteps]
        exact records_of_steps finished inFlight
      case drops =>
        intro hl
        rw [← hpool]
        exact hclient.drops (t := { t with aborted := true }) hthere rfl hc hl

/-- **A CANCELLED CALL STOPS WHERE IT IS.**  A client is asked for a call around the cache, and
    whatever has happened to it since, the future of the call is cancelled before anything else has
    decided it.  Then the call is at its end: it takes no further step, and nothing is noted of its
    task but that it was dropped, together with the call it was inside; it has one record for each
    attempt that had finished, and none if it may have but one; its slot is given back; and the
    future tells of the cancel. -/
theorem cancelled_call_ends {hasEngine : Bool} {parts : Parts} {present : Response → α}
    {epoch : Int} {e₀ : Engine α} (h : ofConfig config hasEngine parts present epoch = .ok e₀)
    {before between later : List (EngineEvent α)} (hbefore : OfClient before)
    (hd : (e₀.steps before).CallsAround ev request handler) (hbetween : OfClient between)
    (hcancel : ((((e₀.steps before).step ev).steps between).cancel
      (e₀.steps before).futures.length).2 = true) (hlater : OfClient later) :
    Ended request.hasRetryPolicy (e₀.steps before).futures.length (e₀.steps before).spawned
      (((e₀.steps before).step ev).steps between) later := by
  have hopened := client_ofConfig h
  have hclient := hopened.steps hbefore
  have hev : ev.isClient = true := by
    cases hd <;> rfl
  have hunborn := hopened.unborn (unborn_ofConfig h) hbefore
  have hunderWay := (hclient.step hev).underWay (hclient.underWay_call hunborn hd) hbetween
  exact ((hclient.step hev).steps hbetween).ended_of_cancelled hunderWay hcancel hlater

/-- The stubborn request sleeps before its first retry, with the slot, when it is cancelled: it has
    one record, and at its turn the slot is given back. -/
theorem cancelled_call_ends_of_stubborn :
    ofConfig narrow true Retry.wavering id 0 = .ok narrowEngine ∧
    ((narrowEngine.steps [.turn 0, .criticalExecuteWith Retry.stubborn .response, .turn 1]).cancel
      0).2 = true ∧
    (narrowEngine.steps [.turn 0, .criticalExecuteWith Retry.stubborn .response,
      .turn 1]).ledger.pool.holders = [1] ∧
    Ended true 0 1
      (narrowEngine.steps [.turn 0, .criticalExecuteWith Retry.stubborn .response, .turn 1])
      [.turn 1] ∧
    (((narrowEngine.steps [.turn 0, .criticalExecuteWith Retry.stubborn .response,
      .turn 1]).cancel 0).1.steps [.turn 1]).ledger.recordsOf 1 ≠ [] := by
  have hturn : ∀ n, OfClient ([.turn n] : List (EngineEvent Response)) := by
    simp [OfClient, EngineEvent.isClient]
  have hcancel : ((narrowEngine.steps [.turn 0, .criticalExecuteWith Retry.stubborn .response,
      .turn 1]).cancel 0).2 = true := by decide +kernel
  have hended := cancelled_call_ends ofConfig_narrow (hturn 0)
    (.critical Retry.stubborn .response) (hturn 1) hcancel (hturn 1)
  exact ⟨ofConfig_narrow, hcancel, by decide +kernel, hended, by decide +kernel⟩

end Engine

end Courier
