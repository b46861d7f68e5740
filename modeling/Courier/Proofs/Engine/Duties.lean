import Courier.Proofs.Engine.Cancelling
import Courier.Proofs.Program.Dockets

/-!
# Duties — what the tasks of a client are there for

A task is spawned for a call around the cache, to run a load, to give the outcome of a load to a
caller, or to clean up.  Its `Duty` says which, and the duties of all tasks are on the `roll` of a
run.  While a task lives it is on duty (`OnDuty`): what is left of its program vouches for its
records, and what is noted of it is its docket.  When it has ended the future of its call was
cancelled, or has come to what the docket says, and nothing more is noted.  Whatever happens to a
client, its tasks are on duty, and its books are in order (`Client.dutiful`).
-/

namespace Courier

variable {α β : Type}

/-- What a task was spawned for. -/
inductive Duty (α : Type) where
  /-- A call around the cache, with its future. -/
  | call (future : Nat) (request : Request) (handler : Handler α)
  | load (ticket : Ticket)
  | deliver (future : Nat) (number : Nat)
  | clean

namespace Duty

/-- The job that a task is spawned with. -/
def job : Duty α → Job α
  | call future request handler => .drive future (dispatch request handler)
  | load ticket => .load ticket (dispatch ticket.request .response).timed
  | deliver future number => .deliver future number
  | clean => .clean none

/-- What is dispatched, if anything is. -/
def errand? : Duty α → Option Errand
  | call _ request handler => some (.of request handler)
  | load ticket => some (.of ticket.request Handler.response)
  | deliver _ _ | clean => none

/-- What is dispatched; where nothing is, nobody is ever heard. -/
def errand (duty : Duty α) : Errand :=
  duty.errand?.getD ⟨default, fun _ _ => none, fun past _ => past⟩

/-- What a job is for, and how far it is, with a program that vouches for its records. -/
inductive Serves (transport : Transport) (mayRefuse : Prop) : Duty α → Job α → Docket → Prop where
  | call {future : Nat} {request : Request} {handler : Handler α} {work : Program (Outcome α)}
      {d : Docket} (h : work.Vouches transport (.of request handler) mayRefuse
        (Dispatched mayRefuse handler) d) :
      Serves transport mayRefuse (.call future request handler) (.drive future work) d
  | load {ticket : Ticket} {work : Program (Outcome Response × Duration)} {d : Docket}
      (h : work.Vouches transport (.of ticket.request Handler.response) mayRefuse
        (fun v => Dispatched mayRefuse .response v.1) d) :
      Serves transport mayRefuse (.load ticket) (.load ticket work) d
  | deliver {future number : Nat} :
      Serves transport mayRefuse (.deliver future number) (.deliver future number) (.between [])
  | clean {due : Option Nat} : Serves transport mayRefuse .clean (.clean due) (.between [])

/-- A task is spawned with a job that vouches for its records. -/
theorem serves_job (transport : Transport) (mayRefuse : Prop) (duty : Duty α) :
    duty.Serves transport mayRefuse duty.job (.between []) := by
  cases duty with
  | call future request handler => exact .call (dispatch_vouches transport request mayRefuse handler)
  | load ticket => exact .load (dispatch_vouches transport ticket.request mayRefuse .response).timed
  | deliver future number => exact .deliver
  | clean => exact .clean

/-- The future of a call is there. -/
def Known (futures : List (Completion α)) : Duty α → Prop
  | call future _ _ => ∃ past, futures[future]? = some ((Completion.start none).after past)
  | _ => True

/-- What a call comes to whose docket is this: what its dispatch comes to; or its task panicked,
once it had called the transport. -/
def Result (mayRefuse : Prop) (handler : Handler α) (d : Docket) (result : Outcome α) : Prop :=
  (∃ cases, d = .between cases ∧ Dispatched mayRefuse handler result cases) ∨
    (d.hasCalled = true ∧ result = .error (.taskFailed .panicked))

/-- How a task ends: the future of its call was cancelled, or gets what the call comes to. -/
def Ended (mayRefuse : Prop) (d : Docket) (futures : List (Completion α)) : Duty α → Prop
  | call future _ handler => ∃ past decided,
    futures[future]? = some ((Completion.start none).after past) ∧
      decision none past = some decided ∧
        (decided = .cancel ∨ ∃ result, decided = .result result ∧ Result mayRefuse handler d result)
  | load _ => True
  | deliver _ _ | clean => d = .between []

end Duty

namespace Engine

variable {e e' : Engine α} {t : Task α} {config : Config} {requests : List (Nat × Request)}
  {ev : EngineEvent α} {events : List (EngineEvent α)} {mayRefuse : Prop} {duty : Duty α}
  {n : Nat} {d : Docket}

theorem Closes.grows (h : Closes n e e') : e.ledger.Grows e'.ledger := by
  cases h with
  | goesOn lives jots => exact .of_eq jots.ledger.calls
  | @ends last gone before after =>
      exact .of_eq (after.ledger.calls.trans ((last.ledger.calls_cut n).trans before.ledger.calls))

theorem grows_worked (e : Engine α) (t : Task α) : e.ledger.Grows (e.worked t) := by
  have hbegun : e.ledger.Grows (e.begunLedger t) := .of_eq (e.jots_begunLedger t).calls
  rw [worked]
  split
  · exact .refl e.ledger
  · cases t.job with
    | drive future work => exact hbegun.trans (Program.grows_run _ _ _ work)
    | deliver future load => exact hbegun
    | load ticket work => exact hbegun.trans (Program.grows_run _ _ _ work)
    | clean due => exact hbegun

/-- Whoever has its turn is a task in the queue, or else nothing happens. -/
theorem turn_cases (e : Engine α) (n : Nat) :
    (∃ t ∈ e.tasks, t.number = n ∧ n ∈ e.ready) ∨ (n ∈ e.ready → ¬ e.Lives n) := by
  by_cases h : ∃ t ∈ e.tasks, t.number = n ∧ n ∈ e.ready
  · exact Or.inl h
  · refine Or.inr fun hr => ?_
    rintro ⟨t, ht, hn⟩
    exact h ⟨t, ht, hn, hr⟩

/-- The parts of an engine are always the same, and calls are only ever added. -/
theorem grows_step (hs : e.stopped = false) (hn : (e.tasks.map Task.number).Nodup)
    (hc : ev.isClient = true) :
    (e.step ev).parts = e.parts ∧ e.ledger.Grows (e.step ev).ledger := by
  cases ht : ev.isTurn with
  | false =>
      have hjots := jots_step hs hc ht
      exact ⟨hjots.parts, .of_eq hjots.ledger.calls⟩
  | true =>
      cases ev with
      | turn n =>
          rcases e.turn_cases n with ⟨t, hmem, rfl, hr⟩ | hgone
          · have hcloses := closes_turn hn hmem hr
            exact ⟨hcloses.parts, (e.grows_worked t).trans hcloses.grows⟩
          · have hjots := jots_turn_of_gone hgone
            exact ⟨hjots.parts, .of_eq hjots.ledger.calls⟩
      | _ => cases ht

/-! ## On duty -/

/-- **A TASK IS ON DUTY**, with this docket. -/
structure OnDuty (mayRefuse : Prop) (duty : Duty α) (n : Nat) (e : Engine α) (d : Docket) :
    Prop where
  waits : d.waits = true
  noted : d.Noted e.parts.transport duty.errand n e.ledger (e.Lives n)
  known : duty.Known e.futures
  serves : ∀ t ∈ e.tasks, t.number = n → duty.Serves e.parts.transport mayRefuse t.job d
  ended : ¬ e.Lives n → duty.Ended mayRefuse d e.futures

theorem known_later (hm : Matures e e') (h : duty.Known e.futures) : duty.Known e'.futures := by
  cases duty with
  | call future request handler =>
      obtain ⟨past, hpast⟩ := h
      obtain ⟨more, hmore⟩ := hm.old future _ hpast
      exact ⟨past ++ more, by rw [hmore, Completion.after_append]⟩
  | load ticket => exact trivial
  | deliver future number => exact trivial
  | clean => exact trivial

theorem ended_later (hm : Matures e e') (h : duty.Ended mayRefuse d e.futures) :
    duty.Ended mayRefuse d e'.futures := by
  cases duty with
  | call future request handler =>
      obtain ⟨past, decided, hpast, hdecided, hresult⟩ := h
      obtain ⟨more, hmore⟩ := hm.old future _ hpast
      refine ⟨past ++ more, decided, ?_, decision_stands hdecided more, hresult⟩
      rw [hmore, Completion.after_append]
  | load ticket => exact trivial
  | deliver future number => exact h
  | clean => exact h

/-- A task stays on duty whatever happens to others. -/
theorem OnDuty.others (h : OnDuty mayRefuse duty n e d) (hclient : Client config requests e)
    (hc : ev.isClient = true) (hn : n < e.spawned)
    (hev : ev = .turn n → e.Lives n → n ∉ e.ready) :
    OnDuty mayRefuse duty n (e.step ev) d := by
  obtain ⟨hparts, hgrows⟩ := grows_step hclient.standing.running hclient.standing.numbers hc
  have hmatures : Matures e (e.step ev) := hclient.matures (List.forall_mem_singleton.mpr hc)
  have honward : Onward e (e.step ev) := hclient.onward (List.forall_mem_singleton.mpr hc)
  have hspares := Engine.spares_step n hclient.standing.running hc hev
  have hkept : ∀ t ∈ e.tasks, t.number = n →
      ∃ t' ∈ (e.step ev).tasks, t'.number = n ∧ t'.job = t.job := by
    rintro t ht rfl
    obtain ⟨-, t', ht', hnumber, hjob, -⟩ :=
      hclient.keeps_task hc ht fun hown => hev hown ⟨t, ht, rfl⟩
    exact ⟨t', ht', hnumber, hjob⟩
  have hlives : (e.step ev).Lives n ↔ e.Lives n := by
    refine ⟨honward.ended hn, ?_⟩
    rintro ⟨t, ht, hnumber⟩
    obtain ⟨t', ht', hnumber', -⟩ := hkept t ht hnumber
    exact ⟨t', ht', hnumber'⟩
  refine
    { waits := h.waits
      noted := ?noted
      known := known_later hmatures h.known
      serves := ?serves
      ended := fun hgone => ended_later hmatures (h.ended fun hl => hgone (hlives.mpr hl)) }
  case noted =>
    rw [hparts]
    exact (h.noted.spares hspares hgrows).of_iff hlives
  case serves =>
    intro t' ht' hnumber'
    obtain ⟨t, ht, hnumber⟩ := hlives.mp ⟨t', ht', hnumber'⟩
    obtain ⟨u, hu, hnumberu, hjob⟩ := hkept t ht hnumber
    have hsame : t' = u := List.inj_on_of_nodup_map (hclient.step hc).standing.numbers ht' hu
      (hnumber'.trans hnumberu.symm)
    rw [hparts, hsame, hjob]
    exact h.serves t ht hnumber

/-! ## The turn of a task on duty -/

/-- What is noted last in a turn goes with the docket. -/
theorem Closes.noted {transport : Transport} {errand : Errand} (h : Closes n e e')
    (hd : d.Noted transport errand n e.ledger True) (hl : e.ledger.Sound d.owed) :
    d.Noted transport errand n e'.ledger (e'.Lives n) ∧ e'.ledger.Sound d.owed := by
  cases h with
  | goesOn lives jots =>
      exact ⟨(hd.jots jots.ledger).of_iff (iff_true_intro lives), jots.ledger.sound hl⟩
  | ends gone before after =>
      refine ⟨?_, after.ledger.sound ((before.ledger.sound hl).cut n)⟩
      exact ((hd.jots before.ledger).cut.jots after.ledger).of_iff (iff_false_intro gone)

/-- What a task leaves behind that was on duty with this docket. -/
def Duty.Leaves (mayRefuse : Prop) (d : Docket) (remains : Remains α) : Duty α → Prop
  | .call future _ handler => ∃ result, remains = .future future result ∧
      Duty.Result mayRefuse handler d result
  | .load _ => True
  | .deliver _ _ | .clean => d = .between []

/-- A task has worked on its duty, and it is this docket that it may go on with, or end. -/
structure WorkedOn (mayRefuse : Prop) (duty : Duty α) (e : Engine α) (t : Task α) (d : Docket) :
    Prop where
  noted : d.Noted e.parts.transport duty.errand t.number (e.worked t) True
  sound : (e.worked t).Sound d.owed
  stays : ∀ {l : Ledger} {job : Job α} {loads : List LoadState}, Stays e t l job loads →
    d.waits = true ∧ duty.Serves e.parts.transport mayRefuse job d
  ends : ∀ {l : Ledger} {remains : Remains α}, Ends e t l remains →
    d.waits = true ∧ Duty.Leaves mayRefuse d remains duty

/-- A task that runs a program on its duty goes on with the docket. -/
theorem Client.vouches_worked (h : Client config requests e) {errand : Errand} {work : Program β}
    {comes : β → List Case → Prop} (hv : work.Vouches e.parts.transport errand mayRefuse comes d)
    (hd : d.Noted e.parts.transport errand t.number e.ledger True) (hl : e.ledger.Sound d.owed)
    (hopen : e.ledger.closed = true → mayRefuse) :
    ∃ d', (work.run e.parts t.number (e.begunLedger t)).2.Vouches e.parts.transport errand mayRefuse
        comes d' ∧
      d'.Noted e.parts.transport errand t.number
        (work.run e.parts t.number (e.begunLedger t)).1 True ∧
      (work.run e.parts t.number (e.begunLedger t)).1.Sound d'.owed := by
  have hbegun := e.jots_begunLedger t
  obtain ⟨hpool, hclosed⟩ := e.pool_begunLedger t
  exact hv.run (hd.jots hbegun) (hbegun.sound hl) (hclosed ▸ hopen)
    (by rw [hpool, h.standing.closed]; exact hopen)

/-- **A TASK WORKS ON ITS DUTY** in its turn, unless it is to be dropped. -/
theorem Client.workedOn (h : Client config requests e) (ha : t.aborted = false)
    (hs : duty.Serves e.parts.transport mayRefuse t.job d)
    (hd : d.Noted e.parts.transport duty.errand t.number e.ledger True)
    (hl : e.ledger.Sound d.owed) (hopen : e.ledger.closed = true → mayRefuse) :
    ∃ d', WorkedOn mayRefuse duty e t d' := by
  have hbegun := e.jots_begunLedger t
  generalize hj : t.job = job at hs
  cases hs with
  | @call future request handler work _ hv =>
      obtain ⟨d', hv', hd', hl'⟩ := h.vouches_worked hv hd hl hopen
      have hworked : e.worked t = (work.run e.parts t.number (e.begunLedger t)).1 := by
        rw [worked, ha, if_neg Bool.false_ne_true, hj]
      refine ⟨d', ⟨hworked ▸ hd', hworked ▸ hl', fun hstays => ?_, fun hends => ?_⟩⟩
      · have hproceeds := hstays.proceeds
        rw [Proceeds, hj] at hproceeds
        obtain ⟨stopped, next, hrun, hnext, rfl⟩ := hproceeds
        rw [hrun] at hv'
        exact (hv'.rest hnext).imp id .call
      · have hfinishes := hends.finishes ha
        rw [Finishes, hj] at hfinishes
        obtain ⟨stopped, hrun, ⟨v, rfl, rfl⟩ | ⟨text, rfl, rfl⟩⟩ := hfinishes
        · rw [hrun] at hv'
          obtain ⟨cases, rfl, hcomes⟩ := hv'
          exact ⟨rfl, v, rfl, Or.inl ⟨cases, rfl, hcomes⟩⟩
        · rw [hrun] at hv'
          exact ⟨hv'.1, _, rfl, Or.inr ⟨hv'.2, rfl⟩⟩
  | @load ticket work _ hv =>
      obtain ⟨d', hv', hd', hl'⟩ := h.vouches_worked hv hd hl hopen
      have hworked : e.worked t = (work.run e.parts t.number (e.begunLedger t)).1 := by
        rw [worked, ha, if_neg Bool.false_ne_true, hj]
      refine ⟨d', ⟨hworked ▸ hd', hworked ▸ hl', fun hstays => ?_, fun hends => ?_⟩⟩
      · have hproceeds := hstays.proceeds
        rw [Proceeds, hj] at hproceeds
        obtain ⟨stopped, next, hrun, hnext, rfl⟩ := hproceeds
        rw [hrun] at hv'
        exact (hv'.rest hnext).imp id .load
      · have hfinishes := hends.finishes ha
        rw [Finishes, hj] at hfinishes
        obtain ⟨stopped, hrun, ⟨v, rfl, -⟩ | ⟨text, rfl, -⟩⟩ := hfinishes
        · rw [hrun] at hv'
          obtain ⟨cases, rfl, -⟩ := hv'
          exact ⟨rfl, trivial⟩
        · rw [hrun] at hv'
          exact ⟨hv'.1, trivial⟩
  | @deliver future number =>
      have hworked : e.worked t = e.begunLedger t := by
        rw [worked, ha, if_neg Bool.false_ne_true, hj]
      refine ⟨.between [], ⟨hworked ▸ hd.jots hbegun, hworked ▸ hbegun.sound hl, fun hstays => ?_,
        fun _ => ⟨rfl, rfl⟩⟩⟩
      have hproceeds := hstays.proceeds
      rw [Proceeds, hj] at hproceeds
      obtain ⟨-, rfl⟩ := hproceeds
      exact ⟨rfl, .deliver⟩
  | clean =>
      have hworked : e.worked t = e.begunLedger t := by
        rw [worked, ha, if_neg Bool.false_ne_true, hj]
      refine ⟨.between [], ⟨hworked ▸ hd.jots hbegun, hworked ▸ hbegun.sound hl, fun hstays => ?_,
        fun _ => ⟨rfl, rfl⟩⟩⟩
      have hproceeds := hstays.proceeds
      rw [Proceeds, hj] at hproceeds
      obtain ⟨-, due, rfl⟩ := hproceeds
      exact ⟨rfl, .clean⟩

/-- A future that gets a result comes to it, unless it was decided before. -/
theorem decided_of_completed {futures : List (Completion α)} {future : Nat}
    {past : List (FutureEvent α)}
    (hf : futures[future]? = some ((Completion.start none).after past)) (result : Outcome α) :
    ∃ past', ((Remains.future future result).futures futures)[future]?
        = some ((Completion.start none).after past') ∧
      decision none past' = (decision none past).or (some (.result result)) := by
  refine ⟨past ++ [.finish result], ?_, decision_concat none past _⟩
  show (futures.modify future fun c => (c.complete result).1)[future]? = _
  rw [List.getElem?_modify, hf, Completion.after_append]
  simp [Completion.after, Completion.step]

/-- The state of a future of a task that has its turn: nothing was decided, or it was cancelled. -/
theorem decision_of_drives (hdrives : Drives e.futures t) {future : Nat}
    (hj : t.job.future? = some future) {past : List (FutureEvent α)}
    (hf : e.futures[future]? = some ((Completion.start none).after past)) :
    (t.aborted = false ∧ decision none past = none) ∨
      (t.aborted = true ∧ decision none past = some .cancel) := by
  have htells := Completion.state_after none past
  rw [Drives, hj] at hdrives
  obtain ⟨c, hc, hcase⟩ := hdrives
  cases hf.symm.trans hc
  rcases hcase with ⟨hstate, -, ha⟩ | ⟨hstate, ha⟩
  · rw [hstate] at htells
    generalize decision none past = decided at htells
    cases htells
    exact Or.inl ⟨ha, rfl⟩
  · rw [hstate] at htells
    generalize decision none past = decided at htells
    cases htells
    exact Or.inr ⟨ha, rfl⟩

/-- A task that ends leaves its future cancelled, or with what the docket says. -/
theorem OnDuty.ended_of_ends (h : OnDuty mayRefuse duty t.number e d)
    (hclient : Client config requests e) (ht : t ∈ e.tasks) {l : Ledger} {remains : Remains α}
    (he : Ends e t l remains) {d' : Docket}
    (hleaves : t.aborted = false → Duty.Leaves mayRefuse d' remains duty)
    (hsame : t.aborted = true → d' = d) : duty.Ended mayRefuse d' (remains.futures e.futures) := by
  have hserves := h.serves t ht rfl
  have hknown := h.known
  generalize hj : t.job = job at hserves
  cases hserves with
  | @call future request handler work _ hv =>
      obtain ⟨past, hpast⟩ := hknown
      have hfuture : t.job.future? = some future := by rw [hj]; rfl
      rcases decision_of_drives (hclient.standing.drives t ht) hfuture hpast with
        ⟨ha, hnone⟩ | ⟨ha, hcancel⟩
      · obtain ⟨result, rfl, hresult⟩ := hleaves ha
        obtain ⟨past', hpast', hdecided⟩ := decided_of_completed hpast result
        rw [hnone, Option.none_or] at hdecided
        exact ⟨past', _, hpast', hdecided, Or.inr ⟨result, rfl, hresult⟩⟩
      · -- whoever is to be dropped comes too late, for its future was cancelled
        obtain ⟨result, rfl⟩ := remains_of_drive he hj
        obtain ⟨past', hpast', hdecided⟩ := decided_of_completed hpast result
        rw [hcancel] at hdecided
        exact ⟨past', _, hpast', hdecided, Or.inl rfl⟩
  | load => exact trivial
  | deliver =>
      cases ha : t.aborted with
      | false => exact hleaves ha
      | true => exact hsame ha
  | clean =>
      cases ha : t.aborted with
      | false => exact hleaves ha
      | true => exact hsame ha

/-- What a task on duty has done when it ends: it worked, or it was to be dropped, and did nothing. -/
theorem OnDuty.last_work (h : OnDuty mayRefuse duty t.number e d)
    (hclient : Client config requests e) (ht : t ∈ e.tasks) (hl : e.ledger.Sound 0)
    (hopen : e.ledger.closed = true → mayRefuse) {l : Ledger} {remains : Remains α}
    (he : Ends e t l remains) : ∃ d', d'.waits = true ∧
      d'.Noted e.parts.transport duty.errand t.number (e.worked t) True ∧
      (e.worked t).Sound d'.owed ∧ duty.Ended mayRefuse d' (remains.futures e.futures) := by
  have hlives : e.Lives t.number := ⟨t, ht, rfl⟩
  have hd : d.Noted e.parts.transport duty.errand t.number e.ledger True :=
    h.noted.of_iff (iff_true_intro hlives).symm
  have hl' : e.ledger.Sound d.owed := by rwa [Docket.owed_of_waits h.waits]
  cases ha : t.aborted with
  | true =>
      have hworked : e.worked t = e.ledger := by rw [worked, if_pos ha]
      refine ⟨d, h.waits, hworked ▸ hd, hworked ▸ hl', ?_⟩
      exact h.ended_of_ends hclient ht he (fun ha' => by cases ha.symm.trans ha') fun _ => rfl
  | false =>
      obtain ⟨d', hw⟩ := hclient.workedOn ha (h.serves t ht rfl) hd hl' hopen
      obtain ⟨hwaits, hleaves⟩ := hw.ends he
      refine ⟨d', hwaits, hw.noted, hw.sound, ?_⟩
      exact h.ended_of_ends hclient ht he (fun _ => hleaves) fun ha' => by cases ha.symm.trans ha'

/-- **A TASK HAS ITS TURN**, and stays on duty, or ends as its duty has it. -/
theorem OnDuty.own_turn (h : OnDuty mayRefuse duty t.number e d)
    (hclient : Client config requests e) (ht : t ∈ e.tasks) (hr : t.number ∈ e.ready)
    (hl : e.ledger.Sound 0) (hopen : e.ledger.closed = true → mayRefuse) :
    ∃ d', OnDuty mayRefuse duty t.number (e.turn t.number) d' ∧
      (e.turn t.number).ledger.Sound 0 := by
  have hnumbers := hclient.standing.numbers
  have hcloses := closes_turn hnumbers ht hr
  have hlives : e.Lives t.number := ⟨t, ht, rfl⟩
  have hturn := turn_step hnumbers t.number
  have hmatures : Matures e (e.turn t.number) := hturn.matures
  have hknown := known_later hmatures h.known
  have hparts := hcloses.parts
  rcases hturn.own hnumbers ht hr with
    ⟨ha, l, job, loads, hs, hrests⟩ | ⟨l, remains, he, hrests⟩
  · have hd : d.Noted e.parts.transport duty.errand t.number e.ledger True :=
      h.noted.of_iff (iff_true_intro hlives).symm
    have hl' : e.ledger.Sound d.owed := by rwa [Docket.owed_of_waits h.waits]
    obtain ⟨d', hw⟩ := hclient.workedOn ha (h.serves t ht rfl) hd hl' hopen
    obtain ⟨hwaits, hserves'⟩ := hw.stays hs
    obtain ⟨hnoted, hsound⟩ := hcloses.noted hw.noted hw.sound
    rw [Docket.owed_of_waits hwaits] at hsound
    have hlives' : (e.turn t.number).Lives t.number := hrests.lives.mpr (lives_goneOn.mpr hlives)
    refine ⟨d', ⟨hwaits, hparts ▸ hnoted, hknown, ?_, fun hgone => absurd hlives' hgone⟩, hsound⟩
    intro u hu hnumber
    rw [hrests.tasks] at hu
    rcases mem_goneOn hu with rfl | ⟨-, hne⟩
    · rw [hparts]
      exact hserves'
    · exact absurd hnumber hne
  · have hgone : ¬ (e.turn t.number).Lives t.number := not_lives_of_left hrests.tasks
    obtain ⟨d', hwaits, hnoted, hsound, hended⟩ := h.last_work hclient ht hl hopen he
    obtain ⟨hnoted', hsound'⟩ := hcloses.noted hnoted hsound
    rw [Docket.owed_of_waits hwaits] at hsound'
    have hserves' : ∀ u ∈ (e.turn t.number).tasks, u.number = t.number →
        duty.Serves (e.turn t.number).parts.transport mayRefuse u.job d' :=
      fun u hu hnumber => absurd ⟨u, hu, hnumber⟩ hgone
    refine ⟨d', ⟨hwaits, hparts ▸ hnoted', hknown, hserves', fun _ => ?_⟩, hsound'⟩
    rw [hrests.futures]
    exact hended

end Engine

end Courier
