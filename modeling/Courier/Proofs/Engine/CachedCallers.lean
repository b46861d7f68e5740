import Courier.Proofs.Engine.Beside
import Courier.Proofs.Engine.Cancelling

/-!
# CachedCallers — who cancels a call through the cache is alone with that

A call through the cache has a task of its own, which does nothing but wait for a load and give its
outcome to a future.  Some of the events of a run concern nobody but such callers: the cancels of
their futures, the questions for their results, and the turns of their tasks (`Engine.concerns`).
Two runs that differ in these events alone are abreast all the time: the same for everyone else
(`Abreast.steps`).  And the run without the cancels differs in no others (`Abreast.uncancelled`).  So
whoever cancels, and when, and how many of those who share a load, changes nothing for others
(`cached_callers_isolated`).
-/

namespace Courier

variable {α : Type}

/-- Whether a task is to decide one of these futures. -/
def Task.serves (F : List Nat) (t : Task α) : Bool :=
  t.job.future?.any F.contains

/-- Whether an event cancels one of these futures. -/
def EngineEvent.cancels (F : List Nat) : EngineEvent α → Bool
  | .cancel f => F.contains f
  | _ => false

theorem EngineEvent.handles_of_cancels {F : List Nat} (ev : EngineEvent α)
    (h : ev.cancels F = true) : ev.handles F = true := by
  cases ev with
  | cancel f => exact h
  | _ => cases h

theorem EngineEvent.isTurn_of_cancels {F : List Nat} (ev : EngineEvent α)
    (h : ev.cancels F = true) : ev.isTurn = false := by
  cases ev with
  | cancel f => rfl
  | _ => cases h

namespace Engine

/-- Whether the turn of a task concerns nobody but the callers of these futures: it is the task of one
    of them, or there is no such task in the queue. -/
def turnConcerns (F : List Nat) (e : Engine α) (n : Nat) : Bool :=
  !e.ready.contains n || (e.task? n).all (Task.serves F)

/-- Whether an event concerns nobody but the callers of these futures: it cancels one of them, asks
    for its result, or is the turn of its task. -/
def concerns (F : List Nat) (e : Engine α) : EngineEvent α → Bool
  | .turn n => e.turnConcerns F n
  | ev => ev.handles F

/-- What is left of the events of a run apart from those that concern nobody but the callers of
    these futures. -/
def apart (F : List Nat) : Engine α → List (EngineEvent α) → List (EngineEvent α)
  | _, [] => []
  | e, ev :: rest =>
    if e.concerns F ev then (e.step ev).apart F rest else ev :: (e.step ev).apart F rest

/-- The future that an event returns, if it is a call through the cache. -/
def cachedBy (e : Engine α) : EngineEvent α → List Nat
  | .execute request => if request.isCacheEligible then [(e.execute request).2] else []
  | _ => []

/-- The futures that were returned by calls through the cache. -/
def cachedFutures : Engine α → List (EngineEvent α) → List Nat
  | _, [] => []
  | e, ev :: rest => e.cachedBy ev ++ (e.step ev).cachedFutures rest

/-- What makes one of these futures is a call through the cache. -/
def MakesCached (F : List Nat) (e : Engine α) (ev : EngineEvent α) : Prop :=
  ∀ f ∈ F, f < e.futures.length ∨ f ∈ e.cachedBy ev ∨ (e.step ev).futures.length ≤ f

/-- Two engines are the same for everyone but the callers of these futures: in the calls of the
    transport and the records, in the cache with its counters, in the loads and their outcomes, in
    the futures of all others, and in the tasks that serve them. -/
structure Unaffected (F : List Nat) (e e' : Engine α) : Prop where
  calls : e'.ledger.calls = e.ledger.calls
  records : e'.ledger.records = e.ledger.records
  cache : e'.cache = e.cache
  loads : e'.loads.map LoadState.outcome? = e.loads.map LoadState.outcome?
  length : e'.futures.length = e.futures.length
  futures : ∀ f ∉ F, e'.futures[f]? = e.futures[f]?
  tasks : e'.tasks.filter (fun t => !t.serves F) = e.tasks.filter fun t => !t.serves F

theorem Unaffected.symm {F : List Nat} {e e' : Engine α} (h : Unaffected F e e') :
    Unaffected F e' e where
  calls := h.calls.symm
  records := h.records.symm
  cache := h.cache.symm
  loads := h.loads.symm
  length := h.length.symm
  futures f hf := (h.futures f hf).symm
  tasks := h.tasks.symm

/-- The tasks with these numbers are those that give the outcome of a load to one of these
    futures. -/
structure Serving (F N : List Nat) (e : Engine α) : Prop where
  delivers : ∀ t ∈ e.tasks, t.number ∈ N → ∃ f ∈ F, ∃ load, t.job = .deliver f load
  served : ∀ t ∈ e.tasks, ∀ f ∈ F, t.job.future? = some f → t.number ∈ N
  spawned : ∀ n ∈ N, n < e.spawned

/-- Two clients are abreast: the same beside these futures and the tasks that serve them. -/
structure Abreast (config : Config) (F N : List Nat) (e e' : Engine α) : Prop where
  beside : Beside F N e e'
  client : ∃ requests, Client config requests e
  client' : ∃ requests, Client config requests e'
  serving : Serving F N e
  serving' : Serving F N e'

variable {F N : List Nat} {e e' e'' : Engine α} {t : Task α} {n f : Nat} {config : Config}
  {requests : List (Nat × Request)} {asked : Option Request} {ev : EngineEvent α}
  {events events' : List (EngineEvent α)}

/-! ## Whom tasks serve -/

theorem serves_eq_true : t.serves F = true ↔ ∃ f ∈ F, t.job.future? = some f := by
  rw [Task.serves]
  cases t.job.future? with
  | none => simp
  | some f => simp

theorem Serving.serves_iff (h : Serving F N e) (ht : t ∈ e.tasks) :
    t.serves F = true ↔ t.number ∈ N := by
  rw [serves_eq_true]
  constructor
  · rintro ⟨f, hf, hj⟩
    exact h.served t ht f hf hj
  · intro hn
    obtain ⟨f, hf, load, hj⟩ := h.delivers t ht hn
    exact ⟨f, hf, by rw [hj]; rfl⟩

/-- Whom tasks serve is kept where every task comes from one with the same number and job. -/
theorem Serving.of_tasks (h : Serving F N e) (hspawned : e.spawned ≤ e'.spawned)
    (htasks : ∀ t' ∈ e'.tasks, ∃ t ∈ e.tasks, t'.number = t.number ∧ t'.job = t.job) :
    Serving F N e' where
  delivers t' ht' hn := by
    obtain ⟨t, ht, hnumber, hjob⟩ := htasks t' ht'
    rw [hjob]
    exact h.delivers t ht (hnumber ▸ hn)
  served t' ht' f hf hj := by
    obtain ⟨t, ht, hnumber, hjob⟩ := htasks t' ht'
    rw [hnumber]
    exact h.served t ht f hf (hjob ▸ hj)
  spawned n hn := Nat.lt_of_lt_of_le (h.spawned n hn) hspawned

theorem Serving.of_same (h : Serving F N e) (hspawned : e'.spawned = e.spawned)
    (htasks : e'.tasks = e.tasks) : Serving F N e' :=
  h.of_tasks (Nat.le_of_eq hspawned.symm) fun t ht => ⟨t, htasks ▸ ht, rfl, rfl⟩

/-- A task that gives the outcome of a load to a future has that to do until it ends. -/
theorem job_of_stays {l : Ledger} {job : Job α} {loads : List LoadState} {load : Nat}
    (hs : Stays e t l job loads) (hj : t.job = .deliver f load) : job = .deliver f load := by
  have hproceeds := hs.proceeds
  rw [Proceeds, hj] at hproceeds
  exact hproceeds.2

theorem Serving.turn (h : Serving F N e) (hturn : Turn e n e') : Serving F N e' := by
  cases hturn with
  | idle hr => exact h
  | skip hr hn hrests => exact h.of_same hrests.spawned hrests.tasks
  | @stay t l job loads _ hn hr ht ha hs hrests =>
      have hmem : ∀ u ∈ e'.tasks, u = { t with job := job, begun := true } ∨ u ∈ e.tasks := by
        intro u hu
        rw [hrests.tasks] at hu
        exact (mem_goneOn hu).imp id And.left
      refine
        { delivers := fun u hu hn => ?delivers
          served := fun u hu f hf hj => ?served
          spawned := fun n hn => Nat.lt_of_lt_of_eq (h.spawned n hn) hrests.spawned.symm }
      case delivers =>
        rcases hmem u hu with rfl | hu
        · obtain ⟨f, hf, load, hj⟩ := h.delivers t ht hn
          exact ⟨f, hf, load, job_of_stays hs hj⟩
        · exact h.delivers u hu hn
      case served =>
        rcases hmem u hu with rfl | hu
        · exact h.served t ht f hf ((future?_of_stays hs).symm.trans hj)
        · exact h.served u hu f hf hj
  | leave hn hr ht he hrests hwoken =>
      refine h.of_tasks (Nat.le_of_eq hrests.spawned.symm) fun u hu => ?_
      rw [hrests.tasks] at hu
      exact ⟨u, (mem_left.mp hu).1, rfl, rfl⟩

/-- A task that is spawned and serves none of these futures. -/
theorem Serving.spawn (h : Serving F N e) {job : Job α} (hjob : ∀ f ∈ F, job.future? ≠ some f)
    (htasks : e'.tasks = e.tasks ++ [⟨e.spawned, job, false, false⟩])
    (hspawned : e'.spawned = e.spawned + 1) : Serving F N e' where
  delivers t ht hn := by
    rw [htasks] at ht
    rcases List.mem_append.mp ht with ht | ht
    · exact h.delivers t ht hn
    · cases List.mem_singleton.mp ht
      exact absurd (h.spawned _ hn) (Nat.lt_irrefl _)
  served t ht f hf hj := by
    rw [htasks] at ht
    rcases List.mem_append.mp ht with ht | ht
    · exact h.served t ht f hf hj
    · cases List.mem_singleton.mp ht
      exact absurd hj (hjob f hf)
  spawned n hn := by
    rw [hspawned]
    exact Nat.lt_succ_of_lt (h.spawned n hn)

/-- Futures are only added. -/
theorem Act.length_futures (h : Act e asked e') : e.futures.length ≤ e'.futures.length := by
  cases h with
  | rest hr => exact Nat.le_of_eq (congrArg List.length hr.futures).symm
  | spawn hs hr =>
      rw [hr.futures, List.length_append]
      exact Nat.le_add_right _ _
  | cancel hf hc hr hwoken => exact Nat.le_of_eq (by rw [hr.futures, List.length_set])
  | ask hf hev hr => exact Nat.le_of_eq (by rw [hr.futures, List.length_set])
  | decide hr =>
      rw [hr.futures, List.length_append]
      exact Nat.le_add_right _ _
  | close ho hr hwoken => exact Nat.le_of_eq (congrArg List.length hr.futures).symm

theorem Acts.length_futures (h : Acts e requests e') : e.futures.length ≤ e'.futures.length := by
  induction h with
  | refl e => exact Nat.le_refl _
  | step h hs ih => exact Nat.le_trans h.length_futures ih

/-- Whom tasks serve is kept where none of these futures is made. -/
theorem Serving.act (h : Serving F N e) (ha : Act e asked e')
    (hnew : ∀ f ∈ F, f < e.futures.length ∨ e'.futures.length ≤ f) : Serving F N e' := by
  cases ha with
  | rest hr => exact h.of_same hr.spawned hr.tasks
  | @spawn job _ futures _ _ hs hr =>
      -- a task that is spawned for a future comes with it, and it is the next
      have hlength : e'.futures.length = e.futures.length + futures.length := by
        rw [hr.futures, List.length_append]
      have hmade : futures.length = 1 → e.futures.length ∉ F := by
        intro hone hf
        have hlast := hnew _ hf
        omega
      refine h.spawn (fun f hf heq => ?_) hr.tasks hr.spawned
      cases hs with
      | dispatch request handler => exact hmade rfl (Option.some.inj heq ▸ hf)
      | deliver hl => exact hmade rfl (Option.some.inj heq ▸ hf)
      | load ticket => cases heq
      | clean => cases heq
  | cancel hf hc hr hwoken =>
      refine h.of_tasks (Nat.le_of_eq hr.spawned.symm) fun u hu => ?_
      rw [hr.tasks] at hu
      obtain ⟨v, hv, hnumber, hjob, -⟩ := mem_cancelled hu
      exact ⟨v, hv, hnumber, hjob⟩
  | ask hf hev hr => exact h.of_same hr.spawned hr.tasks
  | decide hr => exact h.of_same hr.spawned hr.tasks
  | close ho hr hwoken => exact h.of_same hr.spawned hr.tasks

theorem Serving.acts (h : Serving F N e) (ha : Acts e requests e')
    (hnew : ∀ f ∈ F, f < e.futures.length ∨ e'.futures.length ≤ f) : Serving F N e' := by
  induction ha with
  | refl e => exact h
  | step ha hs ih =>
      have hfirst := ha.length_futures
      have hrest := hs.length_futures
      refine ih (h.act ha fun f hf => ?_) fun f hf => ?_
      · exact (hnew f hf).imp id (Nat.le_trans hrest)
      · exact (hnew f hf).imp (fun hlt => Nat.lt_of_lt_of_le hlt hfirst) id

theorem Client.serving_step (h : Client config requests e) (hs : Serving F N e)
    (hc : ev.isClient = true)
    (hnew : ∀ f ∈ F, f < e.futures.length ∨ (e.step ev).futures.length ≤ f) :
    Serving F N (e.step ev) := by
  rcases h.cases hc with ⟨n, -, hturn, -⟩ | ⟨-, hacts⟩
  · exact hs.turn hturn
  · exact hs.acts hacts hnew

/-- A call through the cache: a load is asked for, and a task of its own waits for that. -/
theorem execute_cached (ho : e.isClosed = false) {request : Request}
    (hr : request.isCacheEligible = true) :
    e.execute request = ((e.tell none (.throughCache request.urlText)).lookup request).1.spawnFuture
      fun future =>
        .deliver future ((e.tell none (.throughCache request.urlText)).lookup request).2 := by
  rw [execute, if_neg (by simp [ho]), if_neg (by simp [hr])]

/-- A call through a closed cache makes a future that is decided. -/
theorem execute_closed (ho : e.isClosed = true) (request : Request) :
    e.execute request = e.decidedFuture (.error .closed) :=
  if_pos ho

/-- The future of a call through the cache, and the task that serves it. -/
theorem Client.made_by_execute (h : Client config requests e) (ho : e.isClosed = false)
    {request : Request} (hr : request.isCacheEligible = true) :
    (e.execute request).2 = e.futures.length ∧
      (∃ k, (e.execute request).1.spawned = k + 1) ∧
      e.futures.length < (e.execute request).1.futures.length := by
  have hfutures := futures_lookup (e.tell none (.throughCache request.urlText))
    h.standing.running request
  have hlookup :=
    acts_lookup (e.tell none (.throughCache request.urlText)) h.standing.running request
  have hstopped := hlookup.stopped.trans h.standing.running
  rw [execute_cached ho hr]
  refine ⟨congrArg List.length hfutures,
    ⟨((e.tell none (.throughCache request.urlText)).lookup request).1.spawned, ?_⟩, ?_⟩
  · rw [spawnFuture_eq _ hstopped]
  · rw [spawnFuture_eq _ hstopped]
    dsimp only
    rw [hfutures, List.length_append]
    exact Nat.lt_succ_self _

/-- The task of a call through the cache serves the future of that call. -/
theorem Client.serving_execute (h : Client config requests e) (hs : Serving F N e)
    (ho : e.isClosed = false) {request : Request} (hr : request.isCacheEligible = true)
    (hf : e.futures.length ∈ F) {k : Nat} (hk : (e.execute request).1.spawned = k + 1) :
    Serving F (k :: N) (e.execute request).1 := by
  have hev : (EngineEvent.execute request : EngineEvent α).isClient = true := rfl
  have hnumbers : ((e.execute request).1.tasks.map Task.number).Nodup :=
    (h.step hev).standing.numbers
  have hlookup :=
    acts_lookup (e.tell none (.throughCache request.urlText)) h.standing.running request
  have hfutures := futures_lookup (e.tell none (.throughCache request.urlText))
    h.standing.running request
  have hx : Serving F N ((e.tell none (.throughCache request.urlText)).lookup request).1 := by
    have htold : Serving F N (e.tell none (.throughCache request.urlText)) := hs.of_same rfl rfl
    exact htold.acts hlookup fun f _ => hfutures ▸ Nat.lt_or_ge _ _
  have hstopped := hlookup.stopped.trans h.standing.running
  rw [execute_cached ho hr, spawnFuture_eq _ hstopped] at hnumbers hk ⊢
  generalize ((e.tell none (.throughCache request.urlText)).lookup request).2 = load at *
  generalize ((e.tell none (.throughCache request.urlText)).lookup request).1 = x at *
  have hlast : x.spawned = k := Nat.succ.inj hk
  have hown : x.futures.length ∈ F := by
    rw [hfutures]
    exact hf
  -- the number is new, and so no other task has it
  have hold : ∀ t ∈ x.tasks, t.number ∈ k :: N → t.number ∈ N := by
    intro t ht hn
    refine (List.mem_cons.mp hn).resolve_left fun heq => ?_
    rw [List.map_append] at hnumbers
    refine List.disjoint_of_nodup_append hnumbers (List.mem_map_of_mem ht) ?_
    rw [heq, ← hlast]
    exact List.mem_singleton_self _
  refine
    { delivers := fun t ht hn => ?delivers
      served := fun t ht f hf hj => ?served
      spawned := ?spawned }
  case delivers =>
    rcases List.mem_append.mp ht with ht | ht
    · exact hx.delivers t ht (hold t ht hn)
    · cases List.mem_singleton.mp ht
      exact ⟨_, hown, load, rfl⟩
  case served =>
    rcases List.mem_append.mp ht with ht | ht
    · exact List.mem_cons_of_mem _ (hx.served t ht f hf hj)
    · cases List.mem_singleton.mp ht
      exact hlast ▸ List.mem_cons_self
  case spawned =>
    intro n hn
    rcases List.mem_cons.mp hn with rfl | hn
    · exact Nat.lt_succ_of_le (Nat.le_of_eq hlast.symm)
    · exact Nat.lt_succ_of_lt (hx.spawned n hn)

/-! ## Events that concern nobody else -/

/-- Between turns it does not depend on the engine whether an event concerns nobody else. -/
theorem concerns_of_not_turn (h : ev.isTurn = false) : e.concerns F ev = ev.handles F := by
  cases ev with
  | turn => cases h
  | _ => rfl

/-! ## Two clients abreast -/

namespace Abreast

theorem symm (h : Abreast config F N e e') : Abreast config F N e' e :=
  ⟨h.beside.symm, h.client', h.client, h.serving', h.serving⟩

/-- The turn of a task concerns nobody else where that is not in the queue, or is left out. -/
theorem turnConcerns_iff (h : Abreast config F N e e') :
    e.turnConcerns F n = true ↔ n ∉ e.ready ∨ n ∈ N := by
  obtain ⟨requests, hclient⟩ := h.client
  rw [turnConcerns, Bool.or_eq_true, Bool.not_eq_true', ← Bool.not_eq_true,
    List.contains_iff_mem]
  by_cases hr : n ∈ e.ready
  · -- whoever is in the queue has not ended
    obtain ⟨t, ht, rfl⟩ := h.beside.queued n hr
    rw [task?_eq hclient.standing.numbers ht, Option.all_some, h.serving.serves_iff ht]
  · simp [hr]

/-- **WHAT CONCERNS NOBODY ELSE DOES SO IN BOTH.** -/
theorem concerns_eq (h : Abreast config F N e e') : e'.concerns F ev = e.concerns F ev := by
  cases ev with
  | turn n =>
      show e'.turnConcerns F n = e.turnConcerns F n
      rw [Bool.eq_iff_iff, h.turnConcerns_iff, h.symm.turnConcerns_iff]
      by_cases hn : n ∈ N
      · simp [hn]
      · have hcontains := h.beside.contains hn
        rw [Bool.eq_iff_iff, List.contains_iff_mem, List.contains_iff_mem] at hcontains
        rw [hcontains]
  | _ => rfl

/-- A task that serves one of these futures does nothing but wait for a load. -/
theorem waits (h : Abreast config F N e e') (ht : t ∈ e'.tasks) (hn : t.number ∈ N) :
    e'.ledger.pool.place t.number = .away ∧ ∃ f ∈ F, ∃ load, t.job = .deliver f load := by
  obtain ⟨requests, hclient⟩ := h.client'
  obtain ⟨f, hf, load, hj⟩ := h.serving'.delivers t ht hn
  have hstaged := hclient.standing.staged t ht
  rw [Staged, hj] at hstaged
  exact ⟨hstaged.2, f, hf, load, hj⟩

/-- **WHAT CONCERNS NOBODY ELSE MAKES NO DIFFERENCE** to anybody else. -/
theorem concerned (h : Abreast config F N e e') (hc : ev.isClient = true)
    (hev : e'.concerns F ev = true) : Abreast config F N e (e'.step ev) := by
  obtain ⟨requests, hclient⟩ := h.client'
  have hhandles : ev.isTurn = false → ev.handles F = true :=
    fun hturn => (concerns_of_not_turn hturn).symm.trans hev
  have hbeside : Beside F N e (e'.step ev) := by
    cases ev with
    | turn n =>
        by_cases hr : n ∈ e'.ready
        · have hn : n ∈ N := (h.symm.turnConcerns_iff.mp hev).resolve_left (not_not_intro hr)
          obtain ⟨t, ht, rfl⟩ := h.beside.queued' n hr
          obtain ⟨haway, f, hf, load, hj⟩ := h.waits ht hn
          exact h.beside.turn_of_mem hclient.standing.numbers hr ht hn hj hf haway
        · rw [Engine.step, turn_of_not_ready hr]
          exact h.beside
    | cancel f =>
        have hf : f ∈ F := List.contains_iff_mem.mp (hhandles rfl)
        refine h.beside.cancel_of_mem hf fun c hc hpending n hn hl => ?_
        obtain ⟨t, ht, rfl⟩ := hl
        exact h.serving'.served t ht f hf
          ((hclient.standing.driven f c hc hpending t.number hn).2 t ht rfl)
    | pollFuture f waker =>
        exact h.beside.pollFuture_of_mem (List.contains_iff_mem.mp (hhandles rfl)) waker
    | waitFuture f => exact h.beside.waitFuture_of_mem (List.contains_iff_mem.mp (hhandles rfl))
    | _ => cases hev
  refine
    { beside := hbeside
      client := h.client
      client' := ⟨_, hclient.step hc⟩
      serving := h.serving
      serving' := hclient.serving_step h.serving' hc fun f _ => ?_ }
  rw [hbeside.length, ← h.beside.length]
  exact Nat.lt_or_ge _ _

/-- **WHAT CONCERNS OTHERS IS THE SAME FOR THEM** in two clients abreast. -/
theorem step (h : Abreast config F N e e') (hc : ev.isClient = true)
    (hev : e.concerns F ev = false) (hnew : MakesCached F e ev) :
    ∃ N', Abreast config F N' (e.step ev) (e'.step ev) := by
  obtain ⟨requests, hclient⟩ := h.client
  obtain ⟨requests', hclient'⟩ := h.client'
  have hbeside : Beside F N (e.step ev) (e'.step ev) := by
    have hhandles : ev.handles F = false := by
      cases ev with
      | turn => rfl
      | _ => exact hev
    refine h.beside.step hclient.standing.running hc hhandles fun n hturn => ?_
    subst hturn
    -- the turn of a task that serves none of these futures
    refine ⟨fun hn => ?_, fun t ht hn f hj hf => hn (h.serving.served t ht f hf hj)⟩
    cases hev.symm.trans (h.turnConcerns_iff.mpr (Or.inr hn))
  have hstep : ∀ {N'}, (∀ n ∈ N, n ∈ N') → Serving F N' (e.step ev) → Serving F N' (e'.step ev) →
      Abreast config F N' (e.step ev) (e'.step ev) :=
    fun hN hs hs' => ⟨hbeside.mono hN, ⟨_, hclient.step hc⟩, ⟨_, hclient'.step hc⟩, hs, hs'⟩
  by_cases hkept : ∀ f ∈ F, f < e.futures.length ∨ (e.step ev).futures.length ≤ f
  · refine ⟨N, hstep (fun _ => id) (hclient.serving_step h.serving hc hkept) ?_⟩
    refine hclient'.serving_step h.serving' hc ?_
    rw [h.beside.length, hbeside.length]
    exact hkept
  · -- one of these futures is made, and that by a call through the cache
    simp only [not_forall, not_or, Nat.not_lt, Nat.not_le] at hkept
    obtain ⟨f, hf, hold, hmade⟩ := hkept
    have hcached := (hnew f hf).resolve_left (Nat.not_lt.mpr hold)
      |>.resolve_right (Nat.not_le.mpr hmade)
    cases ev with
    | execute request =>
        by_cases hr : request.isCacheEligible = true
        · rw [cachedBy, if_pos hr, List.mem_singleton] at hcached
          have hsame : e'.isClosed = e.isClosed := h.beside.ledger.closed
          cases ho : e.isClosed with
          | true =>
              refine ⟨N, hstep (fun _ => id) ?_ ?_⟩
              · have hdecided := execute_closed ho request
                exact h.serving.of_same (congrArg (·.1.spawned) hdecided)
                  (congrArg (·.1.tasks) hdecided)
              · have hdecided := execute_closed (hsame.trans ho) request
                exact h.serving'.of_same (congrArg (·.1.spawned) hdecided)
                  (congrArg (·.1.tasks) hdecided)
          | false =>
              obtain ⟨hlast, ⟨k, hk⟩, -⟩ := hclient.made_by_execute ho hr
              have hk' : (e'.execute request).1.spawned = k + 1 := hbeside.spawned.trans hk
              rw [hlast] at hcached
              subst hcached
              refine ⟨k :: N, hstep (fun _ => List.mem_cons_of_mem k) ?_ ?_⟩
              · exact hclient.serving_execute h.serving ho hr hf hk
              · exact hclient'.serving_execute h.serving' (hsame.trans ho) hr
                  (h.beside.length.symm ▸ hf) hk'
        · rw [cachedBy, if_neg hr] at hcached
          cases hcached
    | _ => cases hcached

end Abreast

/-! ## Runs -/

/-- Futures are only added, whatever happens to a client. -/
theorem Client.length_futures (h : Client config requests e) (hc : OfClient events) :
    e.futures.length ≤ (e.steps events).futures.length := by
  refine Nat.le_of_not_lt fun hlt => ?_
  obtain ⟨more, hmore⟩ := (h.matures hc).old _ _ (List.getElem?_eq_getElem hlt)
  exact absurd (List.getElem?_eq_some_iff.mp hmore).1 (Nat.lt_irrefl _)

/-- A call through the cache makes one future. -/
theorem Client.cachedBy (h : Client config requests e) (hf : f ∈ e.cachedBy ev) :
    f = e.futures.length ∧ f < (e.step ev).futures.length := by
  cases ev with
  | execute request =>
      by_cases hr : request.isCacheEligible = true
      · rw [Engine.cachedBy, if_pos hr, List.mem_singleton] at hf
        subst hf
        cases ho : e.isClosed with
        | true =>
            have hlength : (e.futures ++ [Completion.decided (.error .closed)]).length
                = e.futures.length + 1 := List.length_append
            rw [Engine.step, execute_closed ho]
            exact ⟨rfl, Nat.lt_of_lt_of_eq (Nat.lt_succ_self _) hlength.symm⟩
        | false =>
            obtain ⟨hlast, -, hlt⟩ := h.made_by_execute ho hr
            exact ⟨hlast, hlast ▸ hlt⟩
      · rw [Engine.cachedBy, if_neg hr] at hf
        cases hf
  | _ => cases hf

theorem Client.cachedFutures_ge (h : Client config requests e) (hc : OfClient events) :
    ∀ f ∈ e.cachedFutures events, e.futures.length ≤ f := by
  induction events generalizing e requests with
  | nil => exact fun f hf => by cases hf
  | cons ev rest ih =>
      obtain ⟨hev, hrest⟩ := List.forall_mem_cons.mp hc
      intro f hf
      rcases List.mem_append.mp hf with hf | hf
      · exact Nat.le_of_eq (h.cachedBy hf).1.symm
      · have honward : e.futures.length ≤ (e.step ev).futures.length :=
          h.length_futures (List.forall_mem_singleton.mpr hev)
        exact Nat.le_trans honward (ih (h.step hev) hrest f hf)

/-- Each of these futures is there, or is made by a call through the cache. -/
def Cached (F : List Nat) (e : Engine α) (events : List (EngineEvent α)) : Prop :=
  ∀ f ∈ F, f < e.futures.length ∨ f ∈ e.cachedFutures events

theorem Client.cached_cons (h : Client config requests e) (hc : OfClient (ev :: events))
    (hcached : Cached F e (ev :: events)) :
    MakesCached F e ev ∧ Cached F (e.step ev) events := by
  obtain ⟨hev, hrest⟩ := List.forall_mem_cons.mp hc
  have honward : e.futures.length ≤ (e.step ev).futures.length :=
    h.length_futures (List.forall_mem_singleton.mpr hev)
  refine ⟨fun f hf => (hcached f hf).imp id fun hmade => ?_, fun f hf => ?_⟩
  · exact (List.mem_append.mp hmade).imp id fun hlater =>
      (h.step hev).cachedFutures_ge hrest f hlater
  · rcases hcached f hf with hlt | hmade
    · exact Or.inl (Nat.lt_of_lt_of_le hlt honward)
    · exact (List.mem_append.mp hmade).imp (fun hnow => (h.cachedBy hnow).2) id

section Apart

theorem apart_of_concerns (h : e.concerns F ev = true) (rest : List (EngineEvent α)) :
    e.apart F (ev :: rest) = (e.step ev).apart F rest := by
  rw [apart, if_pos h]

theorem apart_of_not_concerns (h : e.concerns F ev = false) (rest : List (EngineEvent α)) :
    e.apart F (ev :: rest) = ev :: (e.step ev).apart F rest := by
  rw [apart, if_neg (by simp [h])]

theorem apart_append (e : Engine α) (before after : List (EngineEvent α)) :
    e.apart F (before ++ after) = e.apart F before ++ (e.steps before).apart F after := by
  induction before generalizing e with
  | nil => rfl
  | cons ev rest ih =>
      rw [List.cons_append]
      cases hev : e.concerns F ev with
      | true =>
          rw [apart_of_concerns hev, apart_of_concerns hev, ih]
          rfl
      | false =>
          rw [apart_of_not_concerns hev, apart_of_not_concerns hev, ih]
          rfl

/-- What is left of a run begins with the first event that concerns others. -/
theorem apart_eq_cons {more : List (EngineEvent α)} (h : e.apart F events = ev :: more) :
    ∃ before after, events = before ++ ev :: after ∧ e.apart F before = [] ∧
      (e.steps before).concerns F ev = false ∧
      ((e.steps before).step ev).apart F after = more := by
  induction events generalizing e with
  | nil => cases h
  | cons first rest ih =>
      cases hev : e.concerns F first with
      | true =>
          rw [apart_of_concerns hev] at h
          obtain ⟨before, after, rfl, hnone, hfirst, hmore⟩ := ih h
          exact ⟨first :: before, after, rfl, (apart_of_concerns hev before).trans hnone, hfirst,
            hmore⟩
      | false =>
          rw [apart_of_not_concerns hev] at h
          obtain ⟨rfl, rfl⟩ := List.cons.inj h
          exact ⟨[], rest, rfl, rfl, hev, rfl⟩

end Apart

namespace Abreast

/-- Events that concern nobody else leave two clients abreast. -/
theorem idle (h : Abreast config F N e e') (hc : OfClient events)
    (hnone : e'.apart F events = []) : Abreast config F N e (e'.steps events) := by
  induction events generalizing e' with
  | nil => exact h
  | cons ev rest ih =>
      obtain ⟨hev, hrest⟩ := List.forall_mem_cons.mp hc
      cases hconcerns : e'.concerns F ev with
      | true =>
          rw [apart_of_concerns hconcerns] at hnone
          exact ih (h.concerned hev hconcerns) hrest hnone
      | false =>
          rw [apart_of_not_concerns hconcerns] at hnone
          cases hnone

/-- **TWO RUNS THAT ARE THE SAME APART FROM WHAT CONCERNS NOBODY ELSE** end abreast, if they began
    so. -/
theorem steps (h : Abreast config F N e e') (hc : OfClient events) (hc' : OfClient events')
    {more : List (EngineEvent α)} (hmore : OfClient more) (hcached : Cached F e (events ++ more))
    (hsame : e'.apart F events' = e.apart F events) :
    ∃ N', Abreast config F N' (e.steps events) (e'.steps events') := by
  induction events generalizing e e' N events' with
  | nil => exact ⟨N, h.idle hc' hsame⟩
  | cons ev rest ih =>
      obtain ⟨requests, hclient⟩ := h.client
      obtain ⟨hev, hrest⟩ := List.forall_mem_cons.mp hc
      have hall : OfClient (ev :: (rest ++ more)) :=
        List.forall_mem_cons.mpr ⟨hev, List.forall_mem_append.mpr ⟨hrest, hmore⟩⟩
      obtain ⟨hmakes, hcached⟩ := hclient.cached_cons hall hcached
      cases hconcerns : e.concerns F ev with
      | true =>
          rw [apart_of_concerns hconcerns] at hsame
          exact ih (h.symm.concerned hev hconcerns).symm hrest hc' hcached hsame
      | false =>
          -- the other run gets to the same event, by events that concern nobody else
          rw [apart_of_not_concerns hconcerns] at hsame
          obtain ⟨before, after, rfl, hnone, hconcerns', hafter⟩ := apart_eq_cons hsame
          obtain ⟨hbefore, hafter'⟩ := List.forall_mem_append.mp hc'
          obtain ⟨N', hstep⟩ := (h.idle hbefore hnone).step hev hconcerns hmakes
          rw [steps_append]
          show ∃ N', Abreast config F N' _ (((e'.steps before).step ev).steps after)
          exact ih hstep hrest (List.forall_mem_cons.mp hafter').2 hcached hafter

/-- What happens in both leaves them abreast, whomever it concerns. -/
theorem both (h : Abreast config F N e e') (hc : ev.isClient = true) (hnew : MakesCached F e ev) :
    ∃ N', Abreast config F N' (e.step ev) (e'.step ev) := by
  cases hconcerns : e.concerns F ev with
  | true =>
      have hleft := (h.symm.concerned hc hconcerns).symm
      exact ⟨N, hleft.concerned hc (h.concerns_eq.trans hconcerns)⟩
  | false => exact h.step hc hconcerns hnew

/-- **A RUN WITHOUT THE CANCELS** of these futures is the same run apart from what concerns nobody
    else. -/
theorem uncancelled (h : Abreast config F N e e') (hc : OfClient events)
    {more : List (EngineEvent α)} (hmore : OfClient more) (hcached : Cached F e (events ++ more)) :
    e'.apart F (events.filter fun ev => !ev.cancels F) = e.apart F events := by
  induction events generalizing e e' N with
  | nil => rfl
  | cons ev rest ih =>
      obtain ⟨requests, hclient⟩ := h.client
      obtain ⟨hev, hrest⟩ := List.forall_mem_cons.mp hc
      have hall : OfClient (ev :: (rest ++ more)) :=
        List.forall_mem_cons.mpr ⟨hev, List.forall_mem_append.mpr ⟨hrest, hmore⟩⟩
      obtain ⟨hmakes, hcached⟩ := hclient.cached_cons hall hcached
      cases hcancels : ev.cancels F with
      | true =>
          -- a cancel, which the other run does not have
          have hconcerns : e.concerns F ev = true := by
            rw [concerns_of_not_turn (ev.isTurn_of_cancels hcancels)]
            exact ev.handles_of_cancels hcancels
          rw [apart_of_concerns hconcerns, List.filter_cons_of_neg (by simp [hcancels])]
          exact ih (h.symm.concerned hev hconcerns).symm hrest hcached
      | false =>
          obtain ⟨N', hboth⟩ := h.both hev hmakes
          rw [List.filter_cons_of_pos (by simp [hcancels]), apart, apart, h.concerns_eq,
            ih hboth hrest hcached]

/-- Nobody else sees a difference between two clients abreast. -/
theorem unaffected (h : Abreast config F N e e') : Unaffected F e e' := by
  have houtcome : ∀ load : LoadState, (load.besides N).outcome? = load.outcome? := by
    intro load
    cases load <;> rfl
  have hloads := congrArg (List.map LoadState.outcome?) h.beside.loads
  rw [List.map_map, List.map_map] at hloads
  have hserves : ∀ {x : Engine α}, Serving F N x →
      x.tasks.filter (fun t => !t.serves F) = x.tasks.filter fun t => t.number ∉ N := by
    intro x hx
    refine List.filter_congr fun t ht => ?_
    rw [Bool.eq_iff_iff]
    simp [← hx.serves_iff ht]
  refine
    { calls := h.beside.ledger.calls
      records := h.beside.ledger.records
      cache := h.beside.cache
      loads := ?loads
      length := h.beside.length
      futures := h.beside.futures
      tasks := ?tasks }
  case loads => simpa [Function.comp_def, houtcome] using hloads
  case tasks => rw [hserves h.serving, hserves h.serving', h.beside.tasks]

end Abreast

/-- The client that is built is abreast of itself: its one task cleans up. -/
theorem abreast_ofConfig {hasEngine : Bool} {parts : Parts} {present : Response → α} {epoch : Int}
    (h : ofConfig config hasEngine parts present epoch = .ok e) (F : List Nat) :
    Abreast config F [] e e := by
  have hclient := client_ofConfig h
  rw [ofConfig] at h
  cases hv : config.check hasEngine with
  | error cause =>
      rw [hv] at h
      cases h
  | ok _ =>
      rw [hv] at h
      cases h
      have hserving : Serving F [] ((new parts (fun request => dispatch request .response) present
          (.start epoch config.retryPoolSize) config.cache).startCleaner.tell none
            config.toldOfBuilding) := by
        refine ⟨fun t _ hn => ?_, fun t ht f _ hj => ?_, List.forall_mem_nil _⟩
        · cases hn
        · cases List.mem_singleton.mp ht
          cases hj
      refine ⟨.refl fun n hn => ?_, ⟨_, hclient⟩, ⟨_, hclient⟩, hserving, hserving⟩
      exact ⟨_, List.mem_singleton_self _, (List.mem_singleton.mp hn).symm⟩

/-- What is left of a run is left of its parts. -/
theorem apart_eq_append {first more : List (EngineEvent α)} (h : e.apart F events = first ++ more) :
    ∃ before after, events = before ++ after ∧ e.apart F before = first := by
  induction first generalizing e events with
  | nil => exact ⟨[], events, rfl, rfl⟩
  | cons ev first ih =>
      obtain ⟨idle, rest, rfl, hidle, hconcerns, hrest⟩ := apart_eq_cons h
      obtain ⟨before, after, rfl, hbefore⟩ := ih hrest
      refine ⟨idle ++ ev :: before, after, by simp, ?_⟩
      rw [apart_append, hidle, List.nil_append, apart_of_not_concerns hconcerns, hbefore]

/-- At every point of one run there is a point of the other at which nobody but the callers of these
    futures is affected. -/
def AllAlong (F : List Nat) (e : Engine α) (events events' : List (EngineEvent α)) : Prop :=
  ∀ before after, events = before ++ after → ∃ before' after', events' = before' ++ after' ∧
    Unaffected F (e.steps before) (e.steps before')

/-- **WHO CANCELS A CALL THROUGH THE CACHE IS ALONE WITH THAT.**  Take any of the futures that calls
    through the cache returned in a run of a client, whose tasks take turns in any order.  In the run
    without the cancels of these futures everything is all along the same for everyone else: the
    calls of the transport and the records, the cache with its counters, the loads and their
    outcomes, the futures of all others, and the tasks that serve them.  It is so in all runs that
    are the same apart from the cancels of these futures, the questions for their results (who drops
    a future asks no more) and the turns of their tasks; the run without the cancels is one of them.
    Each of these futures that is cancelled tells so from then on. -/
theorem cached_callers_isolated {hasEngine : Bool} {parts : Parts} {present : Response → α}
    {epoch : Int} (h : ofConfig config hasEngine parts present epoch = .ok e)
    (hc : OfClient events) (hF : ∀ f ∈ F, f ∈ e.cachedFutures events) :
    (∀ before after, events = before ++ after →
      e.apart F (before.filter fun ev => !ev.cancels F) = e.apart F before ∧
      Unaffected F (e.steps before) (e.steps (before.filter fun ev => !ev.cancels F))) ∧
    (∀ other, OfClient other → e.apart F other = e.apart F events →
      AllAlong F e events other ∧ AllAlong F e other events) ∧
    ∀ before f after, events = before ++ .cancel f :: after → f ∈ F →
      ((e.steps before).cancel f).2 = true →
      (∀ waker, ((e.steps events).pollFuture f waker).2 = some (.error .cancelled)) ∧
        ((e.steps events).waitFuture f).2 = .error .cancelled := by
  have hopened := abreast_ofConfig h F
  have hcached : Cached F e events := fun f hf => Or.inr (hF f hf)
  -- two parts of runs with the same left of them end abreast
  have hparts : ∀ {before after before' : List (EngineEvent α)}, events = before ++ after →
      OfClient before' → e.apart F before' = e.apart F before →
      Unaffected F (e.steps before) (e.steps before') := by
    intro before after before' heq hc' hsame
    rw [heq] at hc hcached
    obtain ⟨hbefore, hafter⟩ := List.forall_mem_append.mp hc
    obtain ⟨N, hlast⟩ := hopened.steps hbefore hc' hafter hcached hsame
    exact hlast.unaffected
  refine ⟨fun before after heq => ?_, fun other hother hsame => ⟨?_, ?_⟩, ?_⟩
  · obtain ⟨hbefore, hafter⟩ := List.forall_mem_append.mp (heq ▸ hc)
    have hsame := hopened.uncancelled hbefore hafter (heq ▸ hcached)
    exact ⟨hsame, hparts heq (fun ev hev => hbefore ev (List.mem_filter.mp hev).1) hsame⟩
  · intro before after heq
    have hsplit : e.apart F other = e.apart F before ++ (e.steps before).apart F after := by
      rw [hsame, heq, apart_append]
    obtain ⟨before', after', heq', hbefore'⟩ := apart_eq_append hsplit
    have hc' : OfClient before' := fun ev hev => hother ev (heq' ▸ List.mem_append_left _ hev)
    exact ⟨before', after', heq', hparts heq hc' hbefore'⟩
  · intro before after heq
    have hsplit : e.apart F events = e.apart F before ++ (e.steps before).apart F after := by
      rw [← hsame, heq, apart_append]
    obtain ⟨before', after', heq', hbefore'⟩ := apart_eq_append hsplit
    have hc' : OfClient before := fun ev hev => hother ev (heq ▸ List.mem_append_left _ hev)
    exact ⟨before', after', heq', (hparts heq' hc' hbefore'.symm).symm⟩
  · intro before f after heq hf hcancel
    rw [heq] at hc ⊢
    obtain ⟨hbefore, hafter⟩ := List.forall_mem_append.mp hc
    have hclient := (client_ofConfig h).steps hbefore
    rw [steps_append]
    exact hclient.told_for_good hcancel (List.forall_mem_cons.mp hafter).2

/-- A request that goes through the cache, and is repeated after a 503. -/
def shared : Request :=
  { Retry.stubborn with method := "GET" }

/-- Two callers share a load, which sleeps before its first retry, and both cancel; the second has its
turn before the first. -/
def sharers : List (EngineEvent Response) :=
  [.turn 0, .execute shared, .execute shared, .turn 1, .turn 2, .turn 3, .cancel 0, .cancel 1,
    .turn 3, .turn 2, .tick, .turn 1]

/-- The events of the two without their cancels. -/
def patient : List (EngineEvent Response) :=
  [.turn 0, .execute shared, .execute shared, .turn 1, .turn 2, .turn 3, .turn 3, .turn 2, .tick,
    .turn 1]

/-- Both callers of a load cancel, and are told so; the load is repeated all the same. -/
theorem cached_callers_isolated_of_sharers :
    ofConfig narrow true Retry.wavering id 0 = .ok narrowEngine ∧ OfClient sharers ∧
    (∀ f ∈ [0, 1], f ∈ narrowEngine.cachedFutures sharers) ∧
    Unaffected [0, 1] (narrowEngine.steps sharers) (narrowEngine.steps patient) ∧
    AllAlong [0, 1] narrowEngine sharers patient ∧
    ((narrowEngine.steps sharers).waitFuture 0).2 = .error .cancelled ∧
    (narrowEngine.steps sharers).ledger.calls.length = 2 := by
  have hc : OfClient sharers := by simp [OfClient, sharers, EngineEvent.isClient]
  have hpatient : OfClient patient := by simp [OfClient, patient, EngineEvent.isClient]
  have hF : ∀ f ∈ [0, 1], f ∈ narrowEngine.cachedFutures sharers := by decide +kernel
  obtain ⟨halong, hruns, htold⟩ := cached_callers_isolated ofConfig_narrow hc hF
  obtain ⟨hsame, hunaffected⟩ := halong sharers [] (List.append_nil _).symm
  refine ⟨ofConfig_narrow, hc, hF, hunaffected, (hruns patient hpatient hsame).1, ?_,
    by decide +kernel⟩
  exact (htold [.turn 0, .execute shared, .execute shared, .turn 1, .turn 2, .turn 3] 0
    [.cancel 1, .turn 3, .turn 2, .tick, .turn 1] rfl (by decide) (by decide +kernel)).2

end Engine

end Courier
