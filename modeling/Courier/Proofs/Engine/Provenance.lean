import Courier.Proofs.Cache.Room
import Courier.Proofs.Engine.LoaderCalls
import Courier.Script

/-!
# Provenance — whose outcome a caller gets

Whoever asks a cache gets the number of a load.  Whatever happens before and after, this load is one
call of the loader, for the very request that was asked for.  What the caller gets in the end is what
this call came to, wrapped once if it is a failure; what the call has come to the caller gets; and
whoever shares the load gets the same (`provenance`).  The history of the cache tells which request a
load is of, and `Traced` what its loader call came to.  Both go through the run together (`Backed`).
-/

namespace Courier

variable {α : Type}

namespace Engine

/-- A run has a history, and all that it has to do with loads comes from loader calls. -/
structure Backed (first : Engine α) (config : CacheConfig) (run : List (EngineEvent α))
    (h : History) : Prop where
  proper : h.Proper config
  follows : (first.steps run).cacheSide.Follows h
  traced : Traced first run h (first.steps run)

variable {first : Engine α} {config : CacheConfig} {run : List (EngineEvent α)} {h h₀ : History}
  {f : Flight} {load : Nat} {r : Request} {outcome : Outcome Response}

theorem Backed.step (hB : Backed first config run h) (ev : EngineEvent α) :
    ∃ events, Backed first config (run ++ [ev]) (h.steps events) := by
  obtain ⟨events, hf⟩ := continues_step (first.steps run) ev h hB.proper.orderly hB.proper.sound
    hB.follows
  refine ⟨events, hB.proper.steps events, ?_, ?_⟩
  · rw [steps_append]
    exact hf
  · exact hB.traced.step hB.follows hB.proper.orderly hB.proper.sound ev events

theorem Backed.steps (hB : Backed first config run h) (later : List (EngineEvent α)) :
    ∃ events, Backed first config (run ++ later) (h.steps events) := by
  induction later generalizing run h with
  | nil => exact ⟨[], by rwa [List.append_nil]⟩
  | cons ev rest ih =>
      obtain ⟨events, hB'⟩ := hB.step ev
      obtain ⟨events', hB''⟩ := ih hB'
      exact ⟨events ++ events', by rwa [History.steps_append, List.append_cons]⟩

theorem flight?_later (ho : h.Orderly) (hf : h.flight? load = some f) (events : List CacheEvent) :
    ∃ f', (h.steps events).flight? load = some f' ∧ f'.ticket.request = f.ticket.request := by
  obtain ⟨f', hf', hticket, -⟩ := History.flown_steps ho events hf
  exact ⟨f', hf', congrArg Ticket.request hticket⟩

/-- The load that someone gets who asks is one of the request. -/
theorem Backed.lookup (hB : Backed first config run h) (r : Request) :
    ∃ events, Backed first config (run ++ [.lookup r]) (h.steps events) ∧
      ∃ f, (h.steps events).flight? ((first.steps run).lookup r).2 = some f ∧
        f.ticket.request = r := by
  have ho := hB.proper.orderly
  obtain ⟨events, hf⟩ := follows_lookup ho hB.proper.sound hB.follows r
  obtain ⟨f, hflight, hrequest⟩ := History.answered_of ho hB.proper.sound r
  obtain ⟨f', hflight', hsame⟩ := flight?_later (hB.proper.step (.get r)).orderly hflight events
  refine ⟨.get r :: events, ⟨hB.proper.steps _, ?_, ?_⟩, f', ?_, hsame.trans hrequest⟩
  · rw [steps_append]
    exact hf
  · exact hB.traced.step hB.follows ho hB.proper.sound (.lookup r) (.get r :: events)
  · rw [lookup_eq_answer hB.follows]
    exact hflight'

/-- Nothing has happened yet. -/
theorem backed_new (parts : Parts) (loader : Request → Program (Outcome Response))
    (present : Response → α) (epoch : Int) (slots : Nat) (config : CacheConfig) :
    Backed (new parts loader present (.start epoch slots) config) config [] (.start config) := by
  have hnone : ∀ {β : Type} {p : β → Prop}, ∀ x ∈ ([] : List β), p x :=
    fun _ hx => absurd hx List.not_mem_nil
  refine ⟨History.proper_start config, ?_, ?_⟩
  · exact ⟨⟨rfl, rfl, rfl, List.nodup_nil, hnone, fun _ _ ht => absurd ht List.not_mem_nil,
      fun _ _ _ _ ht => absurd ht List.not_mem_nil⟩,
      fun _ hl => absurd (List.mem_of_getElem? hl) List.not_mem_nil⟩
  · refine ⟨rfl, fun hs => absurd hs Bool.false_ne_true, hnone, fun _ _ hn => .given hn, hnone,
      fun before ev after hrun => ?_,
      fun _ _ _ hl => absurd (List.mem_of_getElem? hl) List.not_mem_nil, hnone⟩
    exact absurd hrun (by simp)

/-! ## What a load comes to -/

/-- A load that has given a result has come to an outcome. -/
theorem ended_of_loadResult? {e : Engine α} {result : Outcome Response}
    (h : e.loadResult? load = some result) : ∃ outcome, e.loads[load]? = some (.ended outcome) ∧
      result = outcome.mapError .sharedLoad := by
  rw [loadResult?] at h
  split at h
  · rename_i response hl
    cases h
    exact ⟨_, hl, rfl⟩
  · rename_i failure hl
    cases h
    exact ⟨_, hl, rfl⟩
  · cases h

/-- A load that has come to an outcome gives it as its result. -/
theorem loadResult?_of_ended {e : Engine α} (h : e.loads[load]? = some (.ended outcome)) :
    e.loadResult? load = some (outcome.mapError .sharedLoad) := by
  rw [loadResult?, h]
  cases outcome <;> rfl

/-- A load that has given no result has not ended, so there is a task that runs it. -/
theorem Backed.manned (hB : Backed first config run h) (hflight : h.flight? load = some f)
    (hnone : (first.steps run).loadResult? load = none) :
    ∃ t ∈ (first.steps run).tasks, ∃ ticket work, t.job = .load ticket work ∧
      ticket.load = load := by
  have hload := outcome?_load hB.follows load
  rw [hflight] at hload
  obtain ⟨state, hstate, -⟩ := Option.map_eq_some_iff.mp hload
  have hrunning : (first.steps run).cacheSide.loads[load]? = some none := by
    cases state with
    | running waiting =>
        show ((first.steps run).loads.map LoadState.outcome?)[load]? = _
        rw [List.getElem?_map, hstate]
        rfl
    | ended outcome => cases hnone.symm.trans (loadResult?_of_ended hstate)
  obtain ⟨n, ticket, hmem, heq⟩ := hB.follows.manned load hrunning
  obtain ⟨t, ht, hpair⟩ := List.mem_map.mp hmem
  obtain ⟨-, hticket⟩ := Prod.mk.inj hpair
  cases hj : t.job with
  | load own work =>
      rw [hj] at hticket
      cases hticket
      exact ⟨t, ht, ticket, work, hj, heq⟩
  | drive | deliver | clean =>
      rw [hj] at hticket
      cases hticket

/-- What is left to do for a task that runs a load, which no other task does. -/
theorem Backed.carrier (hB : Backed first config run h) {t : Task α}
    (ht : t ∈ (first.steps run).tasks) {ticket : Ticket}
    {work : Program (Outcome Response × Duration)} (hj : t.job = .load ticket work)
    (hflight : h.flight? ticket.load = some f) :
    ticket.request = f.ticket.request ∧ OnCall first run t.number ticket work ∧
      (first.steps run).loadResult? ticket.load = none ∧
      ∀ t' ∈ (first.steps run).tasks, ∀ ticket' work', t'.job = .load ticket' work' →
        ticket'.load = ticket.load → t' = t := by
  have hmem : ∀ {u : Task α} {ticket : Ticket} {work : Program (Outcome Response × Duration)},
      u ∈ (first.steps run).tasks → u.job = .load ticket work →
      (u.number, some ticket) ∈ (first.steps run).cacheSide.tasks := by
    intro u ticket work hu hj
    have := mem_cacheSide hu
    rwa [hj] at this
  obtain ⟨f', hf', rfl, hlanding⟩ := hB.follows.running t.number ticket (hmem ht hj)
  cases hf'.symm.trans hflight
  refine ⟨rfl, (hB.traced.running t ht _ work hj).2, ?_, fun t' ht' ticket' work' hj' hload => ?_⟩
  · rw [loadResult?_eq_result? hB.follows, History.result?, hflight]
    obtain ⟨ticket, started, landing⟩ := f
    cases hlanding
    rfl
  · have hsame := hB.follows.alone _ _ _ _ (hmem ht' hj') (hmem ht hj) hload
    exact List.inj_on_of_nodup_map (numbers_nodup hB.follows) ht' ht hsame

/-- What the callers of a load get they get whenever they ask for it. -/
theorem result?_later (ho : h.Orderly) {result : Outcome Response}
    (hr : h.result? load = some result) (events : List CacheEvent) :
    (h.steps events).result? load = some result := by
  cases hf : h.flight? load with
  | none =>
      rw [History.result?, hf] at hr
      cases hr
  | some f =>
      obtain ⟨ticket, started, landing⟩ := f
      cases landing with
      | none =>
          rw [History.result?, hf] at hr
          cases hr
      | some l =>
          rw [← hr, History.result?, History.result?, hf,
            History.landed_steps ho events hf (by simp)]

/-- A load keeps the result it has given. -/
theorem Backed.stays (hB : Backed first config run h) (later : List (EngineEvent α))
    {result : Outcome Response} (hr : (first.steps run).loadResult? load = some result) :
    (first.steps (run ++ later)).loadResult? load = some result := by
  obtain ⟨events, hB'⟩ := hB.steps later
  rw [loadResult?_eq_result? hB.follows] at hr
  rw [loadResult?_eq_result? hB'.follows]
  exact result?_later hB.proper.orderly hr events

/-- **A TASK WHOSE LOADER CALL STOPS ENDS ITS LOAD**, with the outcome of the call. -/
theorem Backed.last (hB : Backed first config run h) {t : Task α}
    {p : Program (Outcome Response)} {stopped : Stopped (Outcome Response)}
    (hlast : LastTurn first run load r t p stopped)
    (hstopped : stopped = .done outcome ∨ ∃ text, stopped = .panicked text ∧
      outcome = .error (.taskFailed (.panickedWith text))) :
    ((first.steps run).turn t.number).loads[load]? = some (.ended outcome) := by
  obtain ⟨ticket, work, hj, rfl, -, -, htimed⟩ := hlast.job
  have ha := (hB.traced.running t hlast.task ticket work hj).1
  have hstops := (htimed.run (first.steps run).parts t.number ((first.steps run).begunLedger t)).2
  rw [hlast.stops] at hstops
  have hnumbers := numbers_nodup hB.follows
  rcases (turn_step hnumbers t.number).own hnumbers hlast.task hlast.queued with
    ⟨-, l, job, loads, hs, -⟩ | ⟨l, remains, he, hrests⟩
  · -- the task does not go on where the call has stopped for good
    have hproceeds := hs.proceeds
    rw [Proceeds, hj] at hproceeds
    obtain ⟨timed, next, hrun, hnext, -⟩ := hproceeds
    rw [hrun] at hstops
    obtain ⟨q, hq, -⟩ := hstops.of_rest hnext
    rcases hstopped with rfl | ⟨text, rfl, -⟩ <;> cases hq
  · have hlt : ticket.load < (first.steps run).loads.length := by
      have hmem := mem_cacheSide hlast.task
      rw [hj] at hmem
      obtain ⟨f, hflight, -, -⟩ := hB.follows.running t.number ticket hmem
      rw [length_loads hB.follows]
      exact (List.getElem?_eq_some_iff.mp hflight).1
    have hfinishes := he.finishes ha
    rw [Finishes, hj] at hfinishes
    obtain ⟨timed, hrun, hcases⟩ := hfinishes
    rw [hrun] at hstops
    rw [hrests.loads]
    rcases hstopped with rfl | ⟨text, rfl, rfl⟩
    · obtain ⟨length, rfl⟩ := hstops.timed_done
      obtain ⟨v, heq, rfl⟩ | ⟨text, heq, -⟩ := hcases
      · cases heq
        exact List.getElem?_set_self hlt
      · cases heq
    · cases hstops.timed_panicked
      obtain ⟨v, heq, -⟩ | ⟨text, heq, rfl⟩ := hcases
      · cases heq
      · cases heq
        exact List.getElem?_set_self hlt

/-- What a loader call has come to is given to all who have asked for the load. -/
theorem Backed.given (hfirst : Backed first config [] h₀)
    (hc : CallCameTo first run load r outcome) :
    (first.steps run).loadResult? load = some (outcome.mapError .sharedLoad) := by
  have hlast : ∀ {before after : List (EngineEvent α)} {t : Task α}
      {p : Program (Outcome Response)} {stopped : Stopped (Outcome Response)},
      LastTurn first before load r t p stopped →
      (stopped = .done outcome ∨ ∃ text, stopped = .panicked text ∧
        outcome = .error (.taskFailed (.panickedWith text))) →
      (first.steps (before ++ .turn t.number :: after)).loadResult? load
        = some (outcome.mapError .sharedLoad) := by
    intro before after t p stopped hlast hstopped
    obtain ⟨events, hB⟩ := hfirst.steps before
    obtain ⟨events', hB'⟩ := hB.step (.turn t.number)
    have hended := hB.last hlast hstopped
    rw [List.append_cons]
    refine hB'.stays after (loadResult?_of_ended ?_)
    rw [steps_append]
    exact hended
  cases hc with
  | gave hrun ht => exact hrun ▸ hlast ht (Or.inl rfl)
  | panicked hrun ht => exact hrun ▸ hlast ht (Or.inr ⟨_, rfl, rfl⟩)

/-- **WHOSE OUTCOME SOMEONE GETS WHO HAS ASKED FOR A REQUEST**, when the load that is the answer has
    this number. -/
structure Provenance (first : Engine α) (run : List (EngineEvent α)) (r : Request) (load : Nat) :
    Prop where
  /-- No more than one task runs the load, and has since the load was started; as long as it does
      there is no result.  What is left for it to do is what is left of what the loader gave for the
      request. -/
  call : ∀ t ∈ (first.steps run).tasks, ∀ ticket work, t.job = .load ticket work →
    ticket.load = load → ticket.request = r ∧ OnCall first run t.number ticket work ∧
      (first.steps run).loadResult? load = none ∧
      ∀ t' ∈ (first.steps run).tasks, ∀ ticket' work', t'.job = .load ticket' work' →
        ticket'.load = load → t' = t
  /-- As long as there is no result there is a task that runs the load. -/
  manned : (first.steps run).loadResult? load = none →
    ∃ t ∈ (first.steps run).tasks, ∃ ticket work, t.job = .load ticket work ∧ ticket.load = load
  /-- What that call has come to is the result: a response as it is, a failure wrapped once. -/
  given : ∀ outcome, CallCameTo first run load r outcome →
    (first.steps run).loadResult? load = some (outcome.mapError .sharedLoad)
  /-- A response is the response of that call. -/
  response : ∀ response, (first.steps run).loadResult? load = some (.ok response) →
    CameTo first run load r (.ok response)
  /-- A failure is the failure of that call, wrapped once, and looks like it. -/
  failure : ∀ failure, (first.steps run).loadResult? load = some (.error failure) →
    ∃ cause, failure = .sharedLoad cause ∧ CameTo first run load r (.error cause) ∧
      failure.kind = cause.kind ∧ failure.status? = cause.status? ∧ failure.raw? = cause.raw?
  /-- Whatever is a result once is the result for everyone who comes later. -/
  stays : ∀ later result, (first.steps run).loadResult? load = some result →
    (first.steps (run ++ later)).loadResult? load = some result
  /-- Nobody gets the load who asks for another request. -/
  shared : ∀ r', ((first.steps run).lookup r').2 = load → r' = r

/-- What is to be known of a load is known by its flight. -/
theorem Backed.origin (hfirst : Backed first config [] h₀) (hB : Backed first config run h)
    (hflight : h.flight? load = some f) :
    Provenance first run f.ticket.request load := by
  have hcame : ∀ {outcome : Outcome Response},
      (first.steps run).loads[load]? = some (.ended outcome) →
      CameTo first run load f.ticket.request outcome :=
    fun hl => hB.traced.ended load _ f hl hflight
  refine
    { call := ?call
      manned := hB.manned hflight
      given := fun outcome hc => hfirst.given hc
      response := ?response
      failure := ?failure
      stays := fun later result hr => hB.stays later hr
      shared := ?shared }
  case call =>
    rintro t ht ticket work hj rfl
    exact hB.carrier ht hj hflight
  case response =>
    intro response hr
    obtain ⟨outcome, hl, heq⟩ := ended_of_loadResult? hr
    cases outcome with
    | error cause => cases heq
    | ok response' =>
        cases heq
        exact hcame hl
  case failure =>
    intro failure hr
    obtain ⟨outcome, hl, heq⟩ := ended_of_loadResult? hr
    cases outcome with
    | ok response => cases heq
    | error cause =>
        cases heq
        exact ⟨cause, rfl, hcame hl, rfl, rfl, rfl⟩
  case shared =>
    intro r' hload
    obtain ⟨events, -, f', hflight', hrequest⟩ := hB.lookup r'
    obtain ⟨f'', hflight'', hsame⟩ := flight?_later hB.proper.orderly hflight events
    rw [hload] at hflight'
    cases hflight'.symm.trans hflight''
    exact hrequest.symm.trans hsame

/-- **EVERY GET IS ANSWERED WITH THE OUTCOME OF ONE LOADER CALL FOR ITS REQUEST**, whatever happens
    before and after, whatever the loader does, and whoever shares the load. -/
theorem provenance (parts : Parts) (loader : Request → Program (Outcome Response))
    (present : Response → α) (epoch : Int) (slots : Nat) (config : CacheConfig)
    (before after : List (EngineEvent α)) (r : Request) :
    Provenance (new parts loader present (.start epoch slots) config)
      (before ++ .lookup r :: after) r
      (((new parts loader present (.start epoch slots) config).steps before).lookup r).2 := by
  have hnew := backed_new parts loader present epoch slots config
  obtain ⟨_, hbefore⟩ := hnew.steps before
  rw [List.nil_append] at hbefore
  obtain ⟨_, hasked, f, hflight, hrequest⟩ := hbefore.lookup r
  obtain ⟨events, hB⟩ := hasked.steps after
  rw [← List.append_cons] at hB
  -- the load is still one of the request when the run has gone on
  obtain ⟨f', hflight', hsame⟩ := flight?_later hasked.proper.orderly hflight events
  have horigin := hnew.origin hB hflight'
  rwa [hsame, hrequest] at horigin

/-- An engine whose loader fails after a while. -/
def weary : Engine Response :=
  new ⟨Script.lenient, .silent, fun _ _ => ⟨0⟩, fun _ => false⟩
    (fun _ => .sleep ⟨1⟩ (.done (.error .timeout))) id (.start 0 1) ⟨10, none, 2, true, 60000⟩

/-- Someone asks it, another asks while the load runs, and the load ends. -/
def sharing : List (EngineEvent Response) :=
  [.lookup default, .turn 0, .lookup default, .tick, .turn 0]

/-- Both share the load and get what its loader call came to, wrapped once; whoever comes later has
the loader called again. -/
theorem provenance_of_weary :
    ((weary.steps [.lookup default, .turn 0]).lookup default).2 = 0 ∧
    (weary.steps [.lookup default, .turn 0]).loadResult? 0 = none ∧
    Provenance weary sharing default 0 ∧ CallCameTo weary sharing 0 default (.error .timeout) ∧
    (weary.steps sharing).loadResult? 0 = some (.error (.sharedLoad .timeout)) ∧
    ((weary.steps sharing).lookup default).2 = 1 := by
  have horigin : Provenance weary sharing default 0 :=
    provenance _ _ _ _ _ _ [.lookup default, .turn 0] [.tick, .turn 0] default
  have hresult : (weary.steps sharing).loadResult? 0 = some (.error (.sharedLoad .timeout)) := rfl
  obtain ⟨cause, hcause, hcame, -⟩ := horigin.failure _ hresult
  cases hcause
  cases hcame with
  | call h => exact ⟨rfl, rfl, horigin, h, hresult, rfl⟩

end Engine

end Courier
