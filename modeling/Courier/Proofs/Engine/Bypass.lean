import Courier.Proofs.Engine.Attempts
import Courier.Proofs.Engine.Shutdown
import Mathlib.Data.List.Flatten

/-!
# Bypass — calls around the cache

A call around the cache is a run of its own: a task is spawned for it, which dispatches its request,
and neither the call nor the task changes anything in the cache.  While the client is open no call is
turned down, so whatever comes to a result without being cancelled has called the transport, and the
result is what its own attempts came to (`OwnRun`).  Calls of the transport belong each to one such
run or to one load, and asking the cache starts one load at most (`calls_around_the_cache`).
-/

namespace Courier

variable {α : Type}

/-! ## Who joins an entry -/

namespace Cache

/-- Whoever asks for a request now joins its entry: the entry needs no refresh, or its value has
expired and the refresh that runs takes its place. -/
def Joins (c : Cache) (now : Nat) (request : Request) : Prop :=
  ∃ entry, c.find? request = some entry ∧
    if entry.isExpired now c.config.expire then entry.refresh.isSome = true
    else entry.needsRefresh now c.config.refresh = false

/-- **NO LOAD IS STARTED FOR WHOEVER JOINS AN ENTRY**, and one for everybody else. -/
theorem started_eq_none_iff (c : Cache) (now : Nat) (request : Request) :
    (c.get now request).2.started = none ↔ c.Joins now request := by
  show (c.ask now request).2.started = none ↔ _
  rw [ask, Joins]
  cases hfind : c.find? request with
  | none =>
      refine ⟨(fun h => by cases h), ?_⟩
      rintro ⟨entry, hentry, -⟩
      cases hentry
  | some entry =>
      have hconfig : c.countHit.config = c.config := by
        rw [countHit, count]
        split <;> rfl
      simp only [Option.some.injEq, exists_eq_left']
      split
      · rw [askExpired]
        cases entry.refresh with
        | none => exact ⟨(fun h => by cases h), fun h => by cases h⟩
        | some refresh => exact ⟨fun _ => rfl, fun _ => rfl⟩
      · rw [askLive]
        dsimp only
        rw [hconfig]
        cases entry.needsRefresh now c.config.refresh with
        | false => exact ⟨fun _ => rfl, fun _ => rfl⟩
        | true => exact ⟨(fun h => by cases h), fun h => by cases h⟩

end Cache

namespace Engine

variable {e e' : Engine α} {t : Task α} {config : Config} {requests : List (Nat × Request)}
  {ev : EngineEvent α} {events : List (EngineEvent α)} {mayRefuse : Prop} {duty : Duty α}
  {n size : Nat} {request : Request} {handler : Handler α} {d : Docket}

/-! ## A client that stays open -/

theorem Turn.closed (h : Turn e n e') (hs : Standing size requests e) :
    e'.ledger.closed = e.ledger.closed := by
  cases h with
  | idle hr => rfl
  | skip hr hn hrests => exact hrests.closed
  | stay hn hr ht ha hstays hrests => exact hrests.closed.trans (hs.stays ht ha hstays).1.closed
  | leave hn hr ht he hrests hwoken => exact hrests.closed.trans (hs.ends ht he).closed

section Calls

variable (hs : e.stopped = false)

include hs

theorem closed_criticalExecuteWith (request : Request) (handler : Handler α) :
    (e.criticalExecuteWith request handler).1.ledger.closed = e.ledger.closed := by
  rw [criticalExecuteWith]
  split
  · rfl
  · rw [driveFuture, e.spawnFuture_eq hs]

theorem closed_lookup (request : Request) :
    (e.lookup request).1.ledger.closed = e.ledger.closed := by
  have htold := (e.rests_tellAll none (e.cache.get e.ledger.elapsed request).2.told).closed
  rw [lookup]
  dsimp only
  split
  · exact htold
  · rw [spawn_eq]
    · exact htold
    · exact hs

theorem closed_execute (request : Request) :
    (e.execute request).1.ledger.closed = e.ledger.closed := by
  rw [execute]
  split
  · rfl
  · split
    · exact closed_criticalExecuteWith hs request _
    · have hlookup := closed_lookup (e := e.tell none (.throughCache request.urlText)) hs request
      have hstopped :=
        (acts_lookup (e.tell none (.throughCache request.urlText)) hs request).stopped
      rw [spawnFuture_eq _ (hstopped.trans hs)]
      exact hlookup

end Calls

/-- Only closing a client closes it. -/
theorem Client.closed_step (h : Client config requests e) (hc : ev.isClient = true)
    (hev : ev ≠ .close) : (e.step ev).ledger.closed = e.ledger.closed := by
  have hs := h.standing.running
  cases ev with
  | turn n => exact (turn_step h.standing.numbers n).closed h.standing
  | tick => exact e.rests_tick.closed
  | startCleaner =>
      rw [Engine.step, startCleaner, e.spawn_eq hs]
  | stopCleaner => exact e.rests_stopCleaner.closed
  | execute request => exact closed_execute hs request
  | criticalExecuteWith request handler => exact closed_criticalExecuteWith hs request handler
  | drive work => cases hc
  | lookup request => exact closed_lookup hs request
  | cancel future =>
      by_cases hpending : ∃ c, e.futures[future]? = some c ∧ c.state = .pending
      · obtain ⟨c, hf, hstate⟩ := hpending
        exact (e.rests_cancel hf hstate).2.1.closed
      · rw [Engine.step, e.cancel_of_done fun c hf hstate => hpending ⟨c, hf, hstate⟩]
  | pollFuture future waker =>
      rw [Engine.step, pollFuture]
      split <;> rfl
  | waitFuture future =>
      rw [Engine.step, waitFuture]
      split <;> rfl
  | close => exact absurd rfl hev
  | shutdown => cases hc
  | _ => rfl

theorem Client.closed_steps (h : Client config requests e) (hc : OfClient events)
    (hclose : .close ∉ events) : (e.steps events).ledger.closed = e.ledger.closed := by
  induction events generalizing e requests with
  | nil => rfl
  | cons ev rest ih =>
      obtain ⟨hev, hrest⟩ := List.forall_mem_cons.mp hc
      obtain ⟨hne, hclose⟩ := not_or.mp (mt List.mem_cons.mpr hclose)
      exact (ih (h.step hev) hrest hclose).trans (h.closed_step hev (Ne.symm hne))

/-! ## What leaves the cache alone -/

/-- The turn of a task that drives a future leaves the cache alone. -/
theorem cache_turn (hdrives : ∀ t ∈ e.tasks, t.number = n →
    ∃ future work, t.job = .drive future work) : (e.turn n).cache = e.cache := by
  rw [turn]
  split
  · split
    · rfl
    · rename_i t hfind
      have hnumber : t.number = n :=
        beq_iff_eq.mp (List.find?_some (p := fun u : Task α => u.number == n) hfind)
      obtain ⟨future, work, hj⟩ := hdrives t (List.mem_of_find?_eq_some hfind) hnumber
      exact cache_poll (e := e.called n) hj
  · rfl

/-! ## Who is on the roll -/

/-- The roll has the duties of all events, in order. -/
theorem mem_roll {x : Duty α × Nat} : x ∈ e.roll events ↔ ∃ before ev after,
    events = before ++ ev :: after ∧
      x ∈ ((e.steps before).hires ev).zipIdx (e.steps before).spawned := by
  induction events generalizing e with
  | nil =>
      refine ⟨nofun, ?_⟩
      rintro ⟨before, ev, after, heq, -⟩
      exact absurd heq.symm (List.append_ne_nil_of_right_ne_nil before (List.cons_ne_nil ev after))
  | cons first rest ih =>
      rw [roll, List.mem_append, ih]
      constructor
      · rintro (hnow | ⟨before, ev, after, rfl, hlater⟩)
        · exact ⟨[], first, rest, rfl, hnow⟩
        · exact ⟨first :: before, ev, after, rfl, hlater⟩
      · rintro ⟨before, ev, after, heq, hx⟩
        cases before with
        | nil =>
            obtain ⟨rfl, rfl⟩ := List.cons.inj heq
            exact Or.inl hx
        | cons _ before =>
            obtain ⟨rfl, rfl⟩ := List.cons.inj heq
            exact Or.inr ⟨before, ev, after, rfl, hx⟩

theorem roll_append (e : Engine α) (before after : List (EngineEvent α)) :
    e.roll (before ++ after) = e.roll before ++ (e.steps before).roll after := by
  induction before generalizing e with
  | nil => rfl
  | cons ev rest ih =>
      rw [List.cons_append, roll, roll, ih, List.append_assoc]
      rfl

/-- **A CALL AROUND THE CACHE OF AN OPEN CLIENT** spawns a task that dispatches its request. -/
theorem step_of_around (ho : e.ledger.closed = false) (h : CallsAround e ev request handler) :
    e.step ev = (e.driveFuture (dispatch request handler)).1 := by
  have hcritical : ∀ handler : Handler α, (e.criticalExecuteWith request handler).1
      = (e.driveFuture (dispatch request handler)).1 := by
    intro handler
    rw [criticalExecuteWith, isClosed, ho, if_neg Bool.false_ne_true]
  cases h with
  | critical => exact hcritical handler
  | execute h =>
      rw [Engine.step, execute, isClosed, ho, if_neg Bool.false_ne_true, h, Bool.not_false,
        if_pos rfl]
      exact hcritical _

theorem hires_of_around (ho : e.ledger.closed = false) (h : CallsAround e ev request handler) :
    e.hires ev = [.call e.futures.length request handler] := by
  cases h with
  | critical => rw [hires, isClosed, ho, if_neg Bool.false_ne_true]
  | execute h =>
      rw [hires, isClosed, ho, if_neg Bool.false_ne_true, h, Bool.not_false, if_pos rfl]

/-- Nobody else is spawned for a call around the cache. -/
theorem around_of_hired {future : Nat} (h : .call future request handler ∈ e.hires ev) :
    CallsAround e ev request handler ∧ future = e.futures.length := by
  cases ev with
  | criticalExecuteWith request handler =>
      rw [hires] at h
      split at h
      · cases h
      · cases List.mem_singleton.mp h
        exact ⟨.critical request handler, rfl⟩
  | execute request =>
      rw [hires] at h
      split at h
      · cases h
      · split at h
        · rename_i heligible
          cases List.mem_singleton.mp h
          exact ⟨.execute (by simpa using heligible), rfl⟩
        · rcases List.mem_append.mp h with hload | hdeliver
          · obtain ⟨ticket, -, heq⟩ := Option.map_eq_some_iff.mp (Option.mem_toList.mp hload)
            cases heq
          · cases List.mem_singleton.mp hdeliver
  | lookup request =>
      obtain ⟨ticket, -, heq⟩ := Option.map_eq_some_iff.mp (Option.mem_toList.mp h)
      cases heq
  | startCleaner => cases List.mem_singleton.mp h
  | _ => cases h

/-- **THE CALLS AROUND THE CACHE ARE ON THE ROLL**, each with its future and its task, and no
others. -/
theorem call_mem_roll (ho : ∀ before after, events = before ++ after →
    (e.steps before).ledger.closed = false) {future : Nat} :
    (.call future request handler, n) ∈ e.roll events ↔ ∃ before ev after,
      events = before ++ ev :: after ∧ CallsAround (e.steps before) ev request handler ∧
        future = (e.steps before).futures.length ∧ n = (e.steps before).spawned := by
  rw [mem_roll]
  constructor
  · rintro ⟨before, ev, after, heq, hx⟩
    obtain ⟨hle, hlt, hduty⟩ := List.mem_zipIdx hx
    obtain ⟨haround, hfuture⟩ := around_of_hired (hduty ▸ List.getElem_mem _)
    rw [hires_of_around (ho before _ heq) haround, List.length_singleton] at hlt
    exact ⟨before, ev, after, heq, haround, hfuture, Nat.le_antisymm (Nat.lt_succ_iff.mp hlt) hle⟩
  · rintro ⟨before, ev, after, heq, haround, rfl, rfl⟩
    refine ⟨before, ev, after, heq, ?_⟩
    rw [hires_of_around (ho before _ heq) haround]
    exact List.mem_singleton.mpr rfl

/-- A call around the cache leaves the cache alone. -/
theorem cache_of_around (hs : e.stopped = false) (ho : e.ledger.closed = false)
    (h : CallsAround e ev request handler) : (e.step ev).cache = e.cache := by
  rw [step_of_around ho h, driveFuture, e.spawnFuture_eq hs]

/-- Asking the cache of an open client starts one load at most. -/
theorem hires_of_eligible (ho : e.ledger.closed = false) (h : request.isCacheEligible = true) :
    e.hires (.execute request)
      = ((e.cache.get e.ledger.elapsed request).2.started.map Duty.load).toList ++
        [.deliver e.futures.length (e.cache.get e.ledger.elapsed request).2.load] := by
  rw [hires, isClosed, ho, if_neg Bool.false_ne_true, h, Bool.not_true, if_neg Bool.false_ne_true]

/-! ## A run of its own -/

end Engine

/-- **WHAT A CALL OF ITS OWN COMES TO**, whose docket is this: what its last attempt failed with, or
what the handler made of its response; or its task panicked, once it had called the transport. -/
inductive OwnResult (handler : Handler α) : Docket → Outcome α → Prop where
  | failed {before : List Case} {c : Case} {f : Failure} (h : c.outcome = .error f) :
      OwnResult handler (.between (before ++ [c])) (.error f)
  | judged {before : List Case} {c : Case} {r : Response} {v : Verdict α} (h : c.outcome = .ok r)
      (hv : handler.onCompleted c.heard r = .gives v) :
      OwnResult handler (.between (before ++ [c])) v.outcome
  | panicked {d : Docket} (h : d.hasCalled = true) :
      OwnResult handler d (.error (.taskFailed .panicked))

theorem OwnResult.hasCalled {handler : Handler α} {d : Docket} {result : Outcome α}
    (h : OwnResult handler d result) : d.hasCalled = true := by
  cases h with
  | failed | judged => exact hasCalled_concat _
  | panicked h => exact h

/-- Where no call is turned down, a call comes to what its run comes to. -/
theorem Duty.Result.own {handler : Handler α} {d : Docket} {result : Outcome α}
    (h : Duty.Result False handler d result) : OwnResult handler d result := by
  rcases h with ⟨cases, rfl, ⟨before, c, a, rfl, hjudges, rfl⟩ | ⟨hrefused, -⟩⟩ | ⟨hcalled, rfl⟩
  · cases houtcome : c.outcome with
    | ok r =>
        rw [houtcome, Handler.judges] at hjudges
        split at hjudges
        · cases hjudges
        · rename_i v hv
          cases hjudges
          exact .judged houtcome hv
    | error f =>
        rw [houtcome, Handler.judges] at hjudges
        split at hjudges
        · cases hjudges
        · cases hjudges
          exact .failed houtcome
  · exact hrefused.elim
  · exact .panicked hcalled

/-- The future of a call has come to a result, and was not cancelled before that. -/
def Duty.Completed (futures : List (Completion α)) : Duty α → Prop
  | .call future _ _ => ∃ past result,
    futures[future]? = some ((Completion.start none).after past) ∧
      decision none past = some (.result result)
  | _ => False

namespace Engine

variable {e e' : Engine α} {t : Task α} {config : Config} {requests : List (Nat × Request)}
  {ev : EngineEvent α} {events : List (EngineEvent α)} {mayRefuse : Prop} {duty : Duty α}
  {n size future : Nat} {request : Request} {handler : Handler α} {d : Docket}

/-- **A RUN OF ITS OWN**: the calls of the task are for the request of the call, and its future
comes to no result but that of its attempts, of which there is one at least. -/
structure OwnRun (e : Engine α) (future : Nat) (request : Request) (handler : Handler α)
    (n : Nat) : Prop where
  requests : ∀ call ∈ e.ledger.callsOf n, call.request = request
  results : ∃ past, e.futures[future]? = some ((Completion.start none).after past) ∧
    ∀ result, decision none past = some (.result result) → e.ledger.callsOf n ≠ [] ∧
      (∃ d : Docket, d.Noted e.parts.transport (.of request handler) n e.ledger (e.Lives n) ∧
        OwnResult handler d result) ∧
      (¬ AskedSince none past → (∀ waker, (e.pollFuture future waker).2 = some result) ∧
        (e.waitFuture future).2 = result)

/-- Whoever asks first is told what a future has come to. -/
theorem told_of_result {past : List (FutureEvent α)}
    (hf : e.futures[future]? = some ((Completion.start none).after past)) {result : Outcome α}
    (hd : decision none past = some (.result result)) (hnot : ¬ AskedSince none past) :
    (∀ waker, (e.pollFuture future waker).2 = some result) ∧
      (e.waitFuture future).2 = result := by
  have hspeaks := speaks hf
  have htold := (Completion.told none past).handedOut result hd hnot
  refine ⟨fun waker => ?_, ?_⟩
  · have hpoll := (hspeaks.poll waker).1.trans (htold (.poll waker) rfl)
    cases hanswer : (e.pollFuture future waker).2 with
    | none =>
        rw [hanswer] at hpoll
        cases hpoll
    | some answer =>
        rw [hanswer] at hpoll
        cases hpoll
        rfl
  · have hwait := hspeaks.wait.1.trans (htold .waitTimeout rfl)
    cases hwait
    rfl

/-- The task of a call drives its future. -/
theorem OnDuty.drives (h : OnDuty mayRefuse (.call future request handler) n e d) (ht : t ∈ e.tasks)
    (hn : t.number = n) : ∃ work, t.job = .drive future work := by
  have hserves := h.serves t ht hn
  generalize t.job = job at hserves
  cases hserves with
  | call => exact ⟨_, rfl⟩

/-- Every call that is not turned down has a run of its own. -/
theorem OnDuty.ownRun (h : OnDuty False (.call future request handler) n e d)
    (hclient : Client config requests e) : OwnRun e future request handler n := by
  refine ⟨fun call hcall => h.noted.request_of_mem hcall, ?_⟩
  by_cases hl : e.Lives n
  · -- its task is still there, so its future has come to nothing, or was cancelled
    obtain ⟨t, ht, hn⟩ := hl
    obtain ⟨past, hpast⟩ := h.known
    obtain ⟨work, hj⟩ := h.drives ht hn
    have hfuture : t.job.future? = some future := by rw [hj]; rfl
    refine ⟨past, hpast, fun result hresult => ?_⟩
    rcases decision_of_drives (hclient.standing.drives t ht) hfuture hpast with
      ⟨-, hnone⟩ | ⟨-, hcancel⟩
    · cases hnone.symm.trans hresult
    · cases hcancel.symm.trans hresult
  · obtain ⟨past, decided, hpast, hdecided, hended⟩ := h.ended hl
    refine ⟨past, hpast, fun result hresult => ?_⟩
    cases hdecided.symm.trans hresult
    rcases hended with hcancel | ⟨own, heq, hown⟩
    · cases hcancel
    · cases heq
      exact ⟨h.noted.callsOf_ne_nil hown.own.hasCalled, ⟨d, h.noted, hown.own⟩,
        told_of_result hpast hdecided⟩

theorem OwnRun.callsOf_ne_nil (h : OwnRun e future request handler n)
    (hdone : Duty.Completed e.futures (.call future request handler)) :
    e.ledger.callsOf n ≠ [] := by
  obtain ⟨past, hpast, hresults⟩ := h.results
  obtain ⟨past', result, hpast', hresult⟩ := hdone
  -- two pasts of one future have decided alike
  have htells := Completion.state_after none past
  have htells' := Completion.state_after none past'
  rw [Option.some.inj (hpast.symm.trans hpast')] at htells
  rw [hresult] at htells'
  generalize ((Completion.start none).after past').state = state at htells htells'
  generalize hdecided : decision none past = decided at htells
  cases htells' with
  | ready =>
      cases htells
      exact (hresults _ hdecided).1
  | taken =>
      cases htells
      exact (hresults _ hdecided).1

/-! ## All runs together -/

/-- A task that has nothing to dispatch has no calls. -/
theorem OnDuty.callsOf_eq_nil (h : OnDuty mayRefuse duty n e d) (hduty : duty.errand? = none) :
    e.ledger.callsOf n = [] := by
  refine List.eq_nil_iff_forall_not_mem.mpr fun call hcall => ?_
  obtain ⟨earlier, hmade⟩ := h.noted.mem_callsOf.mp hcall
  -- its docket is empty, and so are the calls of the docket
  rw [h.idle hduty] at hmade
  cases hmade

/-- **EVERY CALL OF THE TRANSPORT BELONGS TO ONE DUTY ON THE ROLL.** -/
theorem Dutiful.perm_calls {roll : List (Duty α × Nat)} (h : Dutiful mayRefuse roll e)
    (hu : Unborn e) : (roll.flatMap fun x => e.ledger.callsOf x.2).Perm e.ledger.calls := by
  have hperm := h.sound.perm_callsOf h.once fun x hx hentry => by
    obtain ⟨duty, n, -, hn, hduty, -⟩ := h.errand_of_entry hu hx hentry
    exact ⟨n, List.mem_map_of_mem hduty, hn⟩
  rwa [List.flatMap_map] at hperm

theorem length_le_flatMap {β γ : Type} {f : β → List γ} {l : List β} (h : ∀ x ∈ l, f x ≠ []) :
    l.length ≤ (l.flatMap f).length := by
  induction l with
  | nil => exact Nat.le_refl _
  | cons x rest ih =>
      obtain ⟨hx, hrest⟩ := List.forall_mem_cons.mp h
      have hfirst := List.length_pos_iff.mpr hx
      have hlater := ih hrest
      rw [List.flatMap_cons, List.length_append, List.length_cons]
      omega

/-- While a client is not closed, it turns nobody down. -/
theorem dutiful_of_open {hasEngine : Bool} {parts : Parts} {present : Response → α} {epoch : Int}
    (h : ofConfig config hasEngine parts present epoch = .ok e) (hc : OfClient events)
    (hclose : .close ∉ events) : (e.steps events).ledger.closed = false ∧
      Dutiful False ([(.clean, 0)] ++ e.roll events) (e.steps events) := by
  have hopened := client_ofConfig h
  have hcleaner := dutiful_ofConfig False h
  have hopen : ∀ before after, events = before ++ after →
      (e.steps before).ledger.closed = false := by
    rintro before after rfl
    rw [hopened.closed_steps (fun ev hev => hc ev (List.mem_append_left _ hev))
      fun hmem => hclose (List.mem_append_left _ hmem)]
    exact Bool.eq_false_iff.mpr hcleaner.refuses
  refine ⟨hopen events [] (List.append_nil events).symm,
    hopened.dutiful (unborn_ofConfig h) hcleaner hc fun before after heq hclosed => ?_⟩
  cases (hopen before after heq).symm.trans hclosed

/-- The turn of a call around the cache leaves the cache alone, also where the call has yet to be
    made. -/
theorem Dutiful.cache_of_turn {roll later : List (Duty α × Nat)} (h : Dutiful mayRefuse roll e)
    (hspawned : ∀ t ∈ e.tasks, t.number < e.spawned)
    (honce : ((roll ++ later).map Prod.snd).Nodup)
    (hcall : (.call future request handler, n) ∈ roll ++ later) : (e.turn n).cache = e.cache := by
  refine cache_turn fun t ht hn => ?_
  -- a task that is there was spawned before, so it has the one duty that its number has
  obtain ⟨duty, hduty⟩ := h.enrolled (hn ▸ hspawned t ht)
  cases List.inj_on_of_nodup_map honce (List.mem_append_left _ hduty) hcall rfl
  obtain ⟨d, hon⟩ := h.onDuty _ hduty
  exact ⟨future, hon.drives ht hn⟩

/-- Some that have come to a result have as many tasks, each with a call of its own, where each of
    them has a run of its own and no call belongs to two. -/
theorem separate_of_runs {roll calls : List (Duty α × Nat)}
    (honce : (roll.map Prod.snd).Nodup)
    (hcalls : (roll.flatMap fun x => e.ledger.callsOf x.2).Nodup)
    (hruns : ∀ future request handler n, (.call future request handler, n) ∈ roll →
      OwnRun e future request handler n)
    (hsub : calls.Sublist roll) (hdone : ∀ x ∈ calls, x.1.Completed e.futures) :
    (calls.map Prod.snd).Nodup ∧ (∀ x ∈ calls, e.ledger.callsOf x.2 ≠ []) ∧
      (calls.flatMap fun x => e.ledger.callsOf x.2).Nodup ∧
      calls.length ≤ (calls.flatMap fun x => e.ledger.callsOf x.2).length := by
  have hcalled : ∀ x ∈ calls, e.ledger.callsOf x.2 ≠ [] := by
    rintro ⟨duty, n⟩ hx
    have hcompleted := hdone _ hx
    cases duty with
    | call future request handler =>
        exact (hruns future request handler n (hsub.subset hx)).callsOf_ne_nil hcompleted
    | load | deliver | clean => exact hcompleted.elim
  exact ⟨(hsub.map Prod.snd).nodup honce, hcalled, (List.Sublist.flatMap hsub _).nodup hcalls,
    length_le_flatMap hcalled⟩

/-- **CALLS AROUND THE CACHE**, in a run of a client that stays open. -/
structure Bypass (first : Engine α) (events : List (EngineEvent α)) : Prop where
  /-- A call around the cache spawns a task that dispatches its request, and leaves the cache
  alone. -/
  around : ∀ before ev after request handler, events = before ++ ev :: after →
    CallsAround (first.steps before) ev request handler →
      (first.steps before).step ev
        = ((first.steps before).driveFuture (dispatch request handler)).1 ∧
      ((first.steps before).step ev).cache = (first.steps before).cache
  /-- The roll has one duty for each of these calls, with the number of its task. -/
  enrolled : ∀ future request handler n, (.call future request handler, n) ∈ first.roll events ↔
    ∃ before ev after, events = before ++ ev :: after ∧
      CallsAround (first.steps before) ev request handler ∧
        future = (first.steps before).futures.length ∧ n = (first.steps before).spawned
  /-- There is nobody who is not on the roll, but who was there before. -/
  everyone : (first.steps events).spawned = first.spawned + (first.roll events).length
  /-- The turns of these tasks leave the cache alone. -/
  turns : ∀ before after future request handler n, events = before ++ .turn n :: after →
    (.call future request handler, n) ∈ first.roll events →
      ((first.steps before).step (.turn n)).cache = (first.steps before).cache
  /-- So does whoever cancels a future, polls it, or waits for it. -/
  asked : ∀ future waker,
    ((first.steps events).cancel future).1.cache = (first.steps events).cache ∧
    ((first.steps events).pollFuture future waker).1.cache = (first.steps events).cache ∧
    ((first.steps events).waitFuture future).1.cache = (first.steps events).cache
  /-- Each of these calls has a run of its own. -/
  runs : ∀ future request handler n, (.call future request handler, n) ∈ first.roll events →
    OwnRun (first.steps events) future request handler n
  /-- However many have come to a result, they have as many tasks, each with a call of its own. -/
  separate : ∀ calls : List (Duty α × Nat), calls.Sublist (first.roll events) →
    (∀ x ∈ calls, x.1.Completed (first.steps events).futures) →
      (calls.map Prod.snd).Nodup ∧
      (∀ x ∈ calls, (first.steps events).ledger.callsOf x.2 ≠ []) ∧
      (calls.flatMap fun x => (first.steps events).ledger.callsOf x.2).Nodup ∧
      calls.length ≤ (calls.flatMap fun x => (first.steps events).ledger.callsOf x.2).length
  /-- Every call of the transport is one of one task on the roll, which is there for one such call
  or for one load. -/
  calls : ((first.roll events).flatMap fun x => (first.steps events).ledger.callsOf x.2).Perm
      (first.steps events).ledger.calls ∧
    (first.steps events).ledger.calls.Nodup ∧
    ∀ duty n, (duty, n) ∈ first.roll events → (first.steps events).ledger.callsOf n ≠ [] →
      (∃ future request handler, duty = .call future request handler) ∨
        ∃ ticket, duty = .load ticket
  /-- Who asks the cache has a load started, if any, only if there is no entry to join. -/
  loads : ∀ before request after, events = before ++ .execute request :: after →
    request.isCacheEligible = true → ∃ started : Option Ticket, ∃ load,
      Hires (first.steps before) ((started.map Duty.load).toList ++
        [.deliver (first.steps before).futures.length load])
        ((first.steps before).step (.execute request)) ∧
      (started = none ↔
        (first.steps before).cache.Joins (first.steps before).ledger.elapsed request)

/-- **CALLS AROUND THE CACHE RUN ON THEIR OWN**, whatever is asked of a client that stays open. -/
theorem calls_around_the_cache {hasEngine : Bool} {parts : Parts} {present : Response → α}
    {epoch : Int} (h : ofConfig config hasEngine parts present epoch = .ok e)
    (hc : OfClient events) (hclose : .close ∉ events) : Bypass e events := by
  have hopened := client_ofConfig h
  have hearly : ∀ {before after : List (EngineEvent α)}, events = before ++ after →
      OfClient before ∧ .close ∉ before := fun heq =>
    ⟨fun ev hev => hc ev (heq ▸ List.mem_append_left _ hev),
      fun hmem => hclose (heq ▸ List.mem_append_left _ hmem)⟩
  have hopen : ∀ before after, events = before ++ after →
      (e.steps before).ledger.closed = false := fun before after heq =>
    (dutiful_of_open h (hearly heq).1 (hearly heq).2).1
  obtain ⟨-, hend⟩ := dutiful_of_open h hc hclose
  have hclient := hopened.steps hc
  have hunborn := hopened.unborn (unborn_ofConfig h) hc
  have hruns : ∀ future request handler n, (.call future request handler, n) ∈ e.roll events →
      OwnRun (e.steps events) future request handler n := by
    intro future request handler n hcall
    obtain ⟨d, hon⟩ := hend.onDuty _ (List.mem_append_right _ hcall)
    exact hon.ownRun hclient
  have hcalls : ((e.roll events).flatMap fun x => (e.steps events).ledger.callsOf x.2).Perm
      (e.steps events).ledger.calls := by
    obtain ⟨d, hon⟩ := hend.onDuty (.clean, 0) (List.mem_append_left _ List.mem_cons_self)
    have hperm := hend.perm_calls hunborn
    rwa [List.flatMap_append, List.flatMap_singleton, hon.callsOf_eq_nil rfl, List.nil_append]
      at hperm
  have hnodup := hend.sound.calls_nodup
  refine
    { around := ?around
      enrolled := ?enrolled
      everyone := ?everyone
      turns := ?turns
      asked := ?asked
      runs := hruns
      separate := ?separate
      calls := ⟨hcalls, hnodup, ?whose⟩
      loads := ?loads }
  case around =>
    intro before ev after request handler heq haround
    have hclient := hopened.steps (hearly heq).1
    exact ⟨step_of_around (hopen before _ heq) haround,
      cache_of_around hclient.standing.running (hopen before _ heq) haround⟩
  case enrolled => exact fun future request handler n => call_mem_roll hopen
  case everyone =>
    have hfirst := congrArg List.length (dutiful_ofConfig False h).numbers
    have hlast := congrArg List.length hend.numbers
    rw [List.length_map, List.length_range, List.length_singleton] at hfirst
    rw [List.length_map, List.length_range, List.length_append, List.length_singleton] at hlast
    rw [← hlast, ← hfirst]
  case turns =>
    intro before after future request handler n heq hcall
    obtain ⟨-, hbefore⟩ := dutiful_of_open h (hearly heq).1 (hearly heq).2
    have hall : [(.clean, 0)] ++ e.roll events = [(.clean, 0)] ++ e.roll before
        ++ (e.steps before).roll (.turn n :: after) := by
      rw [heq, roll_append, List.append_assoc]
    exact hbefore.cache_of_turn (hopened.steps (hearly heq).1).standing.spawned
      (hall ▸ hend.once) (hall ▸ List.mem_append_right _ hcall)
  case asked =>
    intro future waker
    exact ⟨congrArg CacheSide.cache (cacheSide_cancel _ future),
      congrArg CacheSide.cache (cacheSide_pollFuture _ future waker),
      congrArg CacheSide.cache (cacheSide_waitFuture _ future)⟩
  case separate =>
    intro calls hsub hdone
    exact separate_of_runs hend.once_later (hcalls.nodup_iff.mpr hnodup) hruns hsub hdone
  case whose =>
    intro duty n hduty hcalled
    cases duty with
    | call future request handler => exact Or.inl ⟨future, request, handler, rfl⟩
    | load ticket => exact Or.inr ⟨ticket, rfl⟩
    | deliver | clean =>
        obtain ⟨d, hon⟩ := hend.onDuty _ (List.mem_append_right _ hduty)
        exact absurd (hon.callsOf_eq_nil rfl) hcalled
  case loads =>
    intro before request after heq heligible
    have hev : (EngineEvent.execute request : EngineEvent α).isClient = true := rfl
    have hhires := (hopened.steps (hearly heq).1).hires hev rfl
    rw [hires_of_eligible (hopen before _ heq) heligible] at hhires
    exact ⟨_, _, hhires, Cache.started_eq_none_iff _ _ _⟩

/-- Two who ask the cache for a request, and three who call for it around the cache; their tasks take
turns in an order of their own. -/
def crowd : List (EngineEvent Response) :=
  [.turn 0, .execute fetch, .execute fetch, .criticalExecuteWith fetch .response,
    .execute { fetch with critical := true }, .criticalExecuteWith fetch .response] ++
    [4, 2, 6, 1, 3, 5].map .turn

/-- The two share one load, and the three have a call each. -/
theorem calls_around_the_cache_of_crowd :
    ofConfig narrow true Retry.wavering id 0 = .ok narrowEngine ∧ OfClient crowd ∧
    .close ∉ crowd ∧ Bypass narrowEngine crowd ∧
    (narrowEngine.steps crowd).cache.loads = 1 ∧
    (narrowEngine.steps crowd).ledger.calls.length = 4 ∧
    ((narrowEngine.steps crowd).ledger.callsOf 1).map Call.number = [3] ∧
    ((narrowEngine.steps crowd).ledger.callsOf 4).map Call.number = [1] ∧
    ((narrowEngine.steps crowd).ledger.callsOf 5).map Call.number = [4] ∧
    ((narrowEngine.steps crowd).ledger.callsOf 6).map Call.number = [2] := by
  have hc : OfClient crowd := by simp [OfClient, crowd, EngineEvent.isClient]
  have hclose : .close ∉ crowd := by simp [crowd]
  exact ⟨ofConfig_narrow, hc, hclose, calls_around_the_cache ofConfig_narrow hc hclose,
    by decide +kernel, by decide +kernel, by decide +kernel, by decide +kernel, by decide +kernel,
    by decide +kernel⟩

end Engine

end Courier
