import Courier.Proofs.Engine.Duties

/-!
# Rolls — who was spawned, and for what

Between turns tasks are spawned, with the next numbers and for duties that the event has
(`Engine.hires`); the `roll` of a run has all of them, so every task is there for one duty.  Each is
on duty from the start.  So are they all, whatever happens to a client, and its books are in order
(`Client.dutiful`).
-/

namespace Courier

variable {α : Type}

namespace Engine

/-- The duties that an event spawns tasks for, in the order of the tasks. -/
def hires (e : Engine α) : EngineEvent α → List (Duty α)
  | .startCleaner => [.clean]
  | .criticalExecuteWith request handler =>
    if e.isClosed then [] else [.call e.futures.length request handler]
  | .execute request =>
    if e.isClosed then []
    else if !request.isCacheEligible then
      [.call e.futures.length request (Handler.response.map e.present)]
    else
      let found := (e.cache.get e.ledger.elapsed request).2
      (found.started.map .load).toList ++ [.deliver e.futures.length found.load]
  | .lookup request => ((e.cache.get e.ledger.elapsed request).2.started.map .load).toList
  | _ => []

/-- **THE ROLL OF A RUN**: the duties of the tasks that are spawned in it, each with the number of
its task. -/
def roll (e : Engine α) : List (EngineEvent α) → List (Duty α × Nat)
  | [] => []
  | ev :: rest => (e.hires ev).zipIdx e.spawned ++ (e.step ev).roll rest

/-- The tasks that have not ended, by number and job. -/
def roster (e : Engine α) : List (Nat × Job α) :=
  e.tasks.map fun t => (t.number, t.job)

/-- Tasks are spawned for these duties, and nothing else changes who is there. -/
structure Hires (e : Engine α) (duties : List (Duty α)) (e' : Engine α) : Prop where
  roster : e'.roster = e.roster ++ (duties.zipIdx e.spawned).map fun x => (x.2, x.1.job)
  spawned : e'.spawned = e.spawned + duties.length

variable {e e' e'' : Engine α} {config : Config} {requests : List (Nat × Request)}
  {ev : EngineEvent α} {events : List (EngineEvent α)} {mayRefuse : Prop} {duty : Duty α}
  {duties duties' : List (Duty α)} {n : Nat}

namespace Hires

/-- Nobody is hired where the roster is the same. -/
theorem of_same (hroster : e'.roster = e.roster) (hspawned : e'.spawned = e.spawned) :
    Hires e [] e' :=
  ⟨hroster.trans (List.append_nil _).symm, hspawned⟩

/-- What leaves the tasks alone hires nobody. -/
theorem of_rests (h : Rests e e') : Hires e [] e' :=
  .of_same (congrArg (List.map fun t : Task α => (t.number, t.job)) h.tasks) h.spawned

/-- Whoever is hired first comes first. -/
theorem trans (h : Hires e duties e') (h' : Hires e' duties' e'') :
    Hires e (duties ++ duties') e'' := by
  refine ⟨?_, ?_⟩
  · rw [h'.roster, h.roster, h.spawned, List.zipIdx_append, List.map_append, List.append_assoc]
  · rw [h'.spawned, h.spawned, List.length_append, Nat.add_assoc]

/-- A task that is spawned is hired for its duty. -/
theorem spawn (hs : e.stopped = false) (duty : Duty α) : Hires e [duty] (e.spawn duty.job) := by
  rw [e.spawn_eq hs]
  exact ⟨List.map_append, rfl⟩

/-- So is a task whose future is handed out. -/
theorem spawnFuture (hs : e.stopped = false) {job : Nat → Job α} {duty : Duty α}
    (hduty : duty.job = job e.futures.length) : Hires e [duty] (e.spawnFuture job).1 := by
  rw [e.spawnFuture_eq hs, ← hduty]
  exact ⟨List.map_append, rfl⟩

end Hires

/-- A cancelled task keeps its place in the roster until its next turn. -/
theorem hires_cancel (e : Engine α) (future : Nat) : Hires e [] (e.cancel future).1 := by
  by_cases h : ∃ c, e.futures[future]? = some c ∧ c.state = .pending
  · obtain ⟨c, hf, hc⟩ := h
    obtain ⟨-, hrests, -⟩ := e.rests_cancel hf hc
    refine .of_same ?_ hrests.spawned
    rw [roster, hrests.tasks, List.map_map]
    refine List.map_congr_left fun t _ => ?_
    dsimp only [Function.comp]
    split <;> rfl
  · rw [e.cancel_of_done fun c hf hc => h ⟨c, hf, hc⟩]
    exact .of_same rfl rfl

/-- Closing the client hires nobody. -/
theorem hires_close (e : Engine α) : Hires e [] e.close := by
  cases ho : e.ledger.closed with
  | false => exact ⟨(Hires.of_rests (e.rests_close ho).1).roster, (e.rests_close ho).1.spawned⟩
  | true =>
      rw [e.close_of_closed ho]
      exact .of_same rfl rfl

section Calls

variable (hs : e.stopped = false) (hloader : e.loader = fun request => dispatch request .response)

include hs

/-- A critical call hires someone to dispatch its request, unless it is refused at once. -/
theorem hires_criticalExecuteWith (request : Request) (handler : Handler α) :
    Hires e (e.hires (.criticalExecuteWith request handler))
      (e.criticalExecuteWith request handler).1 := by
  rw [criticalExecuteWith, hires]
  split
  · exact .of_same rfl rfl
  · exact .spawnFuture hs rfl

include hloader

/-- A lookup in the cache hires whoever is to carry out a load it starts. -/
theorem hires_lookup (request : Request) :
    Hires e (e.hires (.lookup request)) (e.lookup request).1 := by
  rw [lookup, hires]
  dsimp only
  cases hstarted : (e.cache.get e.ledger.elapsed request).2.started with
  | none => exact .of_same rfl rfl
  | some ticket =>
      let x : Engine α := { e with
        cache := (e.cache.get e.ledger.elapsed request).1
        ledger := e.ledger.tellAll none (e.cache.get e.ledger.elapsed request).2.told
        loads := e.loads ++ [LoadState.running []] }
      have hjob : (Duty.load ticket : Duty α).job
          = .load ticket (e.loader request).timed := by
        rw [hloader, ← Cache.request_started hstarted]
        rfl
      have hspawn : Hires x [.load ticket] (x.spawn (.load ticket (e.loader request).timed)) := by
        rw [← hjob]
        exact .spawn (e := x) hs _
      exact ⟨hspawn.roster, hspawn.spawned⟩

/-- A call hires for the cache or for the transport, as the client is configured. -/
theorem hires_execute (request : Request) :
    Hires e (e.hires (.execute request)) (e.execute request).1 := by
  rw [execute, hires]
  split
  · exact .of_same rfl rfl
  · rename_i hopen
    split
    · have hcall := hires_criticalExecuteWith hs request (Handler.response.map e.present)
      rwa [hires, if_neg hopen] at hcall
    · have htold : Hires e [] (e.tell none (.throughCache request.urlText)) := .of_same rfl rfl
      have hlookup := hires_lookup (e := e.tell none (.throughCache request.urlText)) hs hloader
        request
      have hstopped :=
        (acts_lookup (e.tell none (.throughCache request.urlText)) hs request).stopped.trans hs
      have hfutures := futures_lookup (e.tell none (.throughCache request.urlText)) hs request
      have hload : ((e.tell none (.throughCache request.urlText)).lookup request).2
          = (e.cache.get e.ledger.elapsed request).2.load := by
        rw [lookup]
        dsimp only
        split <;> rfl
      have hdeliver : Hires _
          [.deliver e.futures.length (e.cache.get e.ledger.elapsed request).2.load]
          (((e.tell none (.throughCache request.urlText)).lookup request).1.spawnFuture
            fun future => .deliver future
              ((e.tell none (.throughCache request.urlText)).lookup request).2).1 :=
        .spawnFuture hstopped (by rw [hfutures, hload]; rfl)
      exact htold.trans (hlookup.trans hdeliver)

end Calls

/-- **WHO IS HIRED BETWEEN TURNS.** -/
theorem Client.hires (h : Client config requests e) (hc : ev.isClient = true)
    (ht : ev.isTurn = false) : Hires e (e.hires ev) (e.step ev) := by
  have hs := h.standing.running
  have hloader := h.standing.loader
  cases ev with
  | turn => cases ht
  | tick => exact .of_rests e.rests_tick
  | startCleaner => exact .spawn hs .clean
  | stopCleaner => exact .of_rests e.rests_stopCleaner
  | execute request => exact hires_execute hs hloader request
  | criticalExecuteWith request handler => exact hires_criticalExecuteWith hs request handler
  | drive work => cases hc
  | decide result => exact .of_same rfl rfl
  | lookup request => exact hires_lookup hs hloader request
  | cancel future => exact e.hires_cancel future
  | pollFuture future waker =>
      rw [Engine.step, pollFuture]
      split <;> exact .of_same rfl rfl
  | waitFuture future =>
      rw [Engine.step, waitFuture]
      split <;> exact .of_same rfl rfl
  | invalidate request => exact .of_same rfl rfl
  | invalidateAll => exact .of_same rfl rfl
  | cleanup => exact .of_same rfl rfl
  | close => exact e.hires_close
  | shutdown => cases hc

/-- Nobody is spawned in a turn. -/
theorem Turn.spawned (h : Turn e n e') : e'.spawned = e.spawned := by
  cases h with
  | idle hr => rfl
  | skip hr hn hrests => exact hrests.spawned
  | stay hn hr ht ha hs hrests => exact hrests.spawned
  | leave hn hr ht he hrests hwoken => exact hrests.spawned

/-- A step counts whom it hires. -/
theorem Client.spawned_step (h : Client config requests e) (hc : ev.isClient = true) :
    (e.step ev).spawned = e.spawned + (e.hires ev).length := by
  cases ht : ev.isTurn with
  | false => exact (h.hires hc ht).spawned
  | true =>
      cases ev with
      | turn n => exact (turn_step h.standing.numbers n).spawned
      | _ => cases ht

/-- Whoever calls around the cache gets a future for that. -/
theorem known_of_hired (hs : e.stopped = false) (hduty : duty ∈ e.hires ev) :
    duty.Known (e.step ev).futures := by
  have hcritical : ∀ (request : Request) (handler : Handler α),
      (Duty.call e.futures.length request handler).Known
        (e.driveFuture (dispatch request handler)).1.futures := by
    intro request handler
    rw [driveFuture, e.spawnFuture_eq hs]
    exact ⟨[.attach e.spawned], List.getElem?_concat_length⟩
  cases ev with
  | criticalExecuteWith request handler =>
      rw [Engine.hires] at hduty
      rw [Engine.step, criticalExecuteWith]
      split at hduty
      · cases hduty
      · rw [if_neg ‹_›, List.mem_singleton.mp hduty]
        exact hcritical request handler
  | execute request =>
      rw [Engine.hires] at hduty
      rw [Engine.step, execute]
      split at hduty
      · cases hduty
      · rw [if_neg ‹_›]
        split at hduty
        · rw [if_pos ‹_›, criticalExecute, criticalExecuteWith, if_neg ‹_›,
            List.mem_singleton.mp hduty]
          exact hcritical request _
        · rcases List.mem_append.mp hduty with hload | hdeliver
          · obtain ⟨ticket, -, rfl⟩ := Option.map_eq_some_iff.mp (Option.mem_toList.mp hload)
            exact trivial
          · rw [List.mem_singleton.mp hdeliver]
            exact trivial
  | lookup request =>
      obtain ⟨ticket, -, rfl⟩ := Option.map_eq_some_iff.mp (Option.mem_toList.mp hduty)
      exact trivial
  | startCleaner =>
      rw [List.mem_singleton.mp hduty]
      exact trivial
  | _ => cases hduty

/-! ## All on duty -/

/-- **EVERYONE IS ON DUTY, AND THE BOOKS ARE IN ORDER**: the roll has one duty for each task that
was spawned, and the task is on duty. -/
structure Dutiful (mayRefuse : Prop) (roll : List (Duty α × Nat)) (e : Engine α) : Prop where
  sound : e.ledger.Sound 0
  refuses : e.ledger.closed = true → mayRefuse
  numbers : roll.map Prod.snd = List.range e.spawned
  onDuty : ∀ x ∈ roll, ∃ d, OnDuty mayRefuse x.1 x.2 e d

variable {roll : List (Duty α × Nat)}

/-- Everybody in the roll has been spawned. -/
theorem Dutiful.lt (h : Dutiful mayRefuse roll e) {x : Duty α × Nat} (hx : x ∈ roll) :
    x.2 < e.spawned := by
  have hmem := List.mem_map_of_mem (f := Prod.snd) hx
  rw [h.numbers] at hmem
  exact List.mem_range.mp hmem

/-- Every task that was spawned is on the roll. -/
theorem Dutiful.enrolled (h : Dutiful mayRefuse roll e) (hn : n < e.spawned) :
    ∃ duty, (duty, n) ∈ roll := by
  have hmem := List.mem_range.mpr hn
  rw [← h.numbers] at hmem
  obtain ⟨⟨duty, m⟩, hx, rfl⟩ := List.mem_map.mp hmem
  exact ⟨duty, hx⟩

/-- A task is on duty when it is spawned. -/
theorem Client.onDuty_hired (h : Client config requests e) (hu : Unborn e)
    (hc : ev.isClient = true) (ht : ev.isTurn = false)
    (hx : (duty, n) ∈ (e.hires ev).zipIdx e.spawned) :
    OnDuty mayRefuse duty n (e.step ev) (.between []) := by
  obtain ⟨hle, hlt, hduty⟩ := List.mem_zipIdx hx
  have hmem : duty ∈ e.hires ev := hduty ▸ List.getElem_mem _
  obtain ⟨t, ht', hpair⟩ : ∃ t ∈ (e.step ev).tasks, (t.number, t.job) = (n, duty.job) := by
    have hroster : (n, duty.job) ∈ (e.step ev).roster := by
      rw [(h.hires hc ht).roster]
      exact List.mem_append_right _ (List.mem_map.mpr ⟨_, hx, rfl⟩)
    exact List.mem_map.mp hroster
  obtain ⟨hnumber, hjob⟩ := Prod.mk.inj hpair
  have hlives : (e.step ev).Lives n := ⟨t, ht', hnumber⟩
  obtain ⟨hnotes, hinside⟩ := hu n hle
  refine
    { waits := rfl
      noted := ?noted
      known := known_of_hired h.standing.running hmem
      serves := ?serves
      ended := fun hgone => absurd hlives hgone }
  case noted =>
    have hunborn : (Docket.between []).Noted (e.step ev).parts.transport duty.errand n e.ledger
        True :=
      Docket.noted_unborn (by rw [Ledger.stepsOf, hnotes]; rfl) hinside
        (by rw [Ledger.cutsOf, hnotes]; rfl)
    exact (hunborn.jots (jots_step h.standing.running hc ht).ledger).of_iff (iff_true_intro hlives)
  case serves =>
    intro u hu' hnumber'
    have hsame : u = t := List.inj_on_of_nodup_map (h.step hc).standing.numbers hu' ht'
      (hnumber'.trans hnumber.symm)
    rw [hsame, hjob]
    exact duty.serves_job _ mayRefuse

/-- **WHATEVER HAPPENS, EVERYONE STAYS ON DUTY.** -/
theorem Client.dutiful_step (h : Client config requests e) (hu : Unborn e)
    (hd : Dutiful mayRefuse roll e) (hc : ev.isClient = true)
    (hopen : (e.step ev).ledger.closed = true → mayRefuse) :
    Dutiful mayRefuse (roll ++ (e.hires ev).zipIdx e.spawned) (e.step ev) := by
  have hnumbers : (roll ++ (e.hires ev).zipIdx e.spawned).map Prod.snd
      = List.range (e.step ev).spawned := by
    rw [List.map_append, hd.numbers, List.zipIdx_map_snd, h.spawned_step hc, List.range_eq_range',
      List.range_eq_range', ← List.range'_append_1, Nat.zero_add]
  cases ht : ev.isTurn with
  | false =>
      have hjots := jots_step h.standing.running hc ht
      refine ⟨hjots.ledger.sound hd.sound, hopen, hnumbers, fun x hx => ?_⟩
      rcases List.mem_append.mp hx with hold | hnew
      · obtain ⟨d, hon⟩ := hd.onDuty x hold
        exact ⟨d, hon.others h hc (hd.lt hold) fun hturn => nomatch hturn ▸ ht⟩
      · exact ⟨_, h.onDuty_hired hu hc ht hnew⟩
  | true =>
      cases ev with
      | turn m =>
          have hroll : roll ++ (e.hires (.turn m)).zipIdx e.spawned = roll := List.append_nil roll
          rw [hroll] at hnumbers ⊢
          rcases e.turn_cases m with ⟨t, hmem, rfl, hr⟩ | hgone
          · -- the task that has its turn works on its duty, and the others are left alone
            obtain ⟨own, hown⟩ := hd.enrolled (h.standing.spawned t hmem)
            obtain ⟨d, hon⟩ := hd.onDuty _ hown
            obtain ⟨-, -, hsound⟩ := hon.own_turn h hmem hr hd.sound hd.refuses
            refine ⟨hsound, hopen, hnumbers, fun x hx => ?_⟩
            obtain ⟨d, hon⟩ := hd.onDuty x hx
            by_cases hn : x.2 = t.number
            · rw [hn] at hon ⊢
              obtain ⟨d', hon', -⟩ := hon.own_turn h hmem hr hd.sound hd.refuses
              exact ⟨d', hon'⟩
            · exact ⟨d, hon.others h hc (hd.lt hx) fun hev =>
                absurd (EngineEvent.turn.inj hev).symm hn⟩
          · have hjots := jots_turn_of_gone hgone
            refine ⟨hjots.ledger.sound hd.sound, hopen, hnumbers, fun x hx => ?_⟩
            obtain ⟨d, hon⟩ := hd.onDuty x hx
            refine ⟨d, hon.others h hc (hd.lt hx) fun hev hlives hready => ?_⟩
            cases hev
            exact hgone hready hlives
      | _ => cases ht

/-- **WHATEVER HAPPENS TO A CLIENT, EVERYONE IS ON DUTY.** -/
theorem Client.dutiful (h : Client config requests e) (hu : Unborn e)
    (hd : Dutiful mayRefuse roll e) (hc : OfClient events)
    (hopen : ∀ before after, events = before ++ after →
      (e.steps before).ledger.closed = true → mayRefuse) :
    Dutiful mayRefuse (roll ++ e.roll events) (e.steps events) := by
  induction events generalizing e requests roll with
  | nil => exact (List.append_nil roll).symm ▸ hd
  | cons ev rest ih =>
      obtain ⟨hev, hrest⟩ := List.forall_mem_cons.mp hc
      have hstep := h.dutiful_step hu hd hev (hopen [ev] rest rfl)
      have hlater := ih (h.step hev) (h.unborn_step hu hev) hstep hrest
        fun before after heq => hopen (ev :: before) after (congrArg (ev :: ·) heq)
      rwa [List.append_assoc] at hlater

/-- A client is built with one task, which is to clean up. -/
theorem dutiful_ofConfig {hasEngine : Bool} {parts : Parts} {present : Response → α} {epoch : Int}
    (mayRefuse : Prop) (h : ofConfig config hasEngine parts present epoch = .ok e) :
    Dutiful mayRefuse [(.clean, 0)] e := by
  rw [ofConfig] at h
  cases hv : config.check hasEngine with
  | error cause =>
      rw [hv] at h
      cases h
  | ok _ =>
      rw [hv] at h
      cases h
      refine ⟨⟨rfl, rfl, ?_, ?_, List.nodup_nil, rfl⟩, (fun h => by cases h), rfl,
        fun x hx => ⟨.between [], ?_⟩⟩
      · intro x hx hentry
        rw [List.mem_singleton.mp hx] at hentry
        cases hentry
      · exact fun later call earlier heq => absurd heq.symm
          (List.append_ne_nil_of_right_ne_nil later (List.cons_ne_nil call earlier))
      · rw [List.mem_singleton.mp hx]
        refine
          { waits := rfl
            noted := (Docket.noted_unborn rfl rfl rfl).of_iff (iff_true_intro ?lives)
            known := trivial
            serves := fun t ht _ => ?serves
            ended := fun _ => rfl }
        case lives => exact ⟨_, List.mem_cons_self, rfl⟩
        case serves =>
          rw [List.mem_singleton.mp ht]
          exact .clean

end Engine

end Courier
