import Courier.Proofs.Engine.Standing

/-!
# Standing kept — every turn and every act keep where tasks stand

Where the tasks of a client stand is kept when a task goes on or ends in its turn, when one is
spawned, when a future is cancelled, asked or added, and when the client is closed.  In each case
what is said of the futures and of the calls is a lemma of its own, and what is left is about the
pool.  Together they say that every turn and every act keep it (`Standing.turn`, `Standing.act`).
-/

namespace Courier

open Program SlotPool

variable {α : Type}

namespace Engine

variable {e e' : Engine α} {t u : Task α} {l : Ledger} {size : Nat}
  {requests : List (Nat × Request)} {remains : Remains α} {job : Job α} {loads : List LoadState}
  {ready : List Nat} {future : Nat} {c : Completion α}

theorem Standing.rests (h : Standing size requests e) (hr : Rests e e') :
    Standing size requests e' := by
  refine
    { pool := ?pool
      total := ?total
      closed := ?closed
      running := hr.stopped.trans h.running
      loader := hr.loader.trans h.loader
      numbers := ?numbers
      spawned := ?spawned
      asked := ?asked
      live := ?live
      staged := ?staged
      prompt := ?prompt
      drives := ?drives
      driven := ?driven
      calls := ?calls
      shut := ?shut }
  case pool =>
    rw [hr.pool]
    exact h.pool
  case total =>
    rw [hr.pool]
    exact h.total
  case closed =>
    rw [hr.pool, hr.closed]
    exact h.closed
  case numbers =>
    rw [hr.tasks]
    exact h.numbers
  case spawned =>
    rw [hr.tasks, hr.spawned]
    exact h.spawned
  case asked =>
    rw [hr.spawned]
    exact h.asked
  case live =>
    rw [hr.pool]
    exact fun n hn => hr.lives.mpr (h.live n hn)
  case staged =>
    rw [hr.tasks, hr.pool, hr.closed]
    exact h.staged
  case prompt =>
    rw [hr.tasks, hr.pool]
    exact fun t ht hdue => hr.mem_ready (h.prompt t ht hdue)
  case drives =>
    rw [hr.tasks, hr.futures]
    exact h.drives
  case driven =>
    rw [hr.tasks, hr.futures, hr.spawned]
    exact h.driven
  case calls =>
    rw [hr.tasks, hr.pool, hr.spawned]
    exact fun x hx hcall => h.calls x ((hr.notes.mem hx hcall).resolve_right id) hcall
  case shut =>
    rw [hr.notes.countP, hr.closed]
    exact h.shut

/-! ## Turns -/

/-- The turn of a task that has ended. -/
theorem Standing.skip (h : Standing size requests e) {n : Nat} (hn : ¬ e.Lives n) :
    Standing size requests (e.called n) := by
  refine { h with prompt := fun t ht hdue => mem_called.mpr ⟨h.prompt t ht hdue, ?_⟩ }
  rintro rfl
  exact hn ⟨t, ht, rfl⟩

/-- A task dispatches one request at most. -/
theorem Standing.request_unique (h : Standing size requests e) (ht : t ∈ e.tasks)
    {r r' : Request} (hr : (t.number, r) ∈ requests) (hr' : (t.number, r') ∈ requests) : r = r' := by
  have hunique : ∀ {request : Option Request}, Asked requests t.number request → r = r' :=
    fun ha => Option.some.inj (((ha r).mp hr).symm.trans ((ha r').mp hr'))
  have hs := h.staged t ht
  rw [Staged] at hs
  cases hj : t.job with
  | drive future work =>
      rw [hj] at hs
      exact hunique hs.choose_spec.1
  | load ticket work =>
      rw [hj] at hs
      exact hunique hs.1
  | deliver future load =>
      rw [hj] at hs
      exact hunique hs.1
  | clean due =>
      rw [hj] at hs
      exact hunique hs.1

/-- Who may have called the transport, after the turn of a task. -/
theorem Standing.calls_of_worked (h : Standing size requests e) (hw : Worked requests e t l)
    (ht : t ∈ e.tasks) {x : Note} (hx : x ∈ l.notes) (hcall : x.what.isCall = true) :
    ∃ n, x.task = some n ∧ n < e.spawned ∧
      (∀ u ∈ e.tasks, u.number ≠ t.number → u.number = n → Called requests (e.ledger.pool.place n) u) ∧
      (n = t.number → ∀ r, (t.number, r) ∈ requests → r.hasRetryPolicy = true →
        l.pool.place n = .holding) := by
  rcases hw.notes.mem hx hcall with hx | ⟨hn, hplace⟩
  · obtain ⟨n, hn, hlt, hcalled⟩ := h.calls x hx hcall
    refine ⟨n, hn, hlt, fun u hu _ heq => hcalled u hu heq, ?_⟩
    rintro rfl r hr hretries
    have hholding := (hcalled t ht rfl).holds r hr hretries
    rw [hw.same hholding]
    exact hholding
  · refine ⟨t.number, hn, h.spawned t ht, fun u _ hne heq => absurd heq hne, fun _ r hr hretries => ?_⟩
    rcases hplace with hplace | ⟨-, -, r', hr', hplain⟩
    · exact hplace
    · rw [h.request_unique ht hr hr', hplain] at hretries
      cases hretries

/-- A task goes on after its turn. -/
theorem Standing.stay (h : Standing size requests e) (ht : t ∈ e.tasks) (ha : t.aborted = false)
    (hs : Stays e t l job loads) : Standing size requests (e.goneOn t l job loads) := by
  obtain ⟨hw, hstaged, hdue⟩ := h.stays ht ha hs
  have hfuture := future?_of_stays hs
  refine
    { pool := hw.pool.sound
      total := hw.pool.total.trans h.total
      closed := (hw.pool.closed.trans h.closed).trans hw.closed.symm
      running := h.running
      loader := h.loader
      numbers := numbers_goneOn.symm ▸ h.numbers
      spawned := ?spawned
      asked := h.asked
      live := ?live
      staged := ?staged
      prompt := ?prompt
      drives := ?drives
      driven := ?driven
      calls := ?calls
      shut := ?shut }
  case spawned =>
    intro u hu
    rcases mem_goneOn hu with rfl | ⟨hu, -⟩
    · exact h.spawned t ht
    · exact h.spawned u hu
  case live =>
    intro n hn
    rw [lives_goneOn]
    by_cases hnt : n = t.number
    · exact ⟨t, ht, hnt.symm⟩
    · exact h.live n fun haway => hn ((hw.others hnt).trans haway)
  case staged =>
    intro u hu
    rcases mem_goneOn hu with rfl | ⟨hu, hne⟩
    · exact hstaged
    · exact (h.staged u hu).moved (fun _ => Iff.rfl) (fun hc => hw.closed.trans hc)
        (Or.inl (hw.others hne))
  case prompt =>
    intro u hu hdue'
    rcases mem_goneOn hu with rfl | ⟨hu, hne⟩
    · exact absurd hdue' hdue
    -- the others are where they were, so what is due now was due before
    · have hplace : (e.goneOn t l job loads).ledger.pool.place u.number
          = e.ledger.pool.place u.number := hw.others hne
      rw [hplace] at hdue'
      exact mem_called.mpr ⟨h.prompt u hu hdue', hne⟩
  case drives =>
    intro u hu
    rcases mem_goneOn hu with rfl | ⟨hu, -⟩
    · exact (h.drives t ht).goneOn hfuture
    · exact h.drives u hu
  case driven =>
    intro future c hc hpending n hn
    obtain ⟨hlt, hdriven⟩ := h.driven future c hc hpending n hn
    refine ⟨hlt, fun u hu hnu => ?_⟩
    rcases mem_goneOn hu with rfl | ⟨hu, -⟩
    · exact hfuture.trans (hdriven t ht hnu)
    · exact hdriven u hu hnu
  case calls =>
    intro x hx hcall
    obtain ⟨n, hn, hlt, hcalled, hown⟩ := h.calls_of_worked hw ht hx hcall
    refine ⟨n, hn, hlt, fun u hu hnu => ?_⟩
    rcases mem_goneOn hu with rfl | ⟨hu, hne⟩
    · exact ⟨rfl, hown hnu.symm⟩
    · subst hnu
      show Called requests (l.pool.place u.number) u
      rw [hw.others hne]
      exact hcalled u hu hne rfl
  case shut =>
    show l.notes.countP _ = if l.closed then 1 else 0
    rw [hw.notes.countP, hw.closed]
    exact h.shut

/-- What a task leaves behind changes no future but one that knew that task. -/
theorem Standing.futures_of_ends (h : Standing size requests e) (ht : t ∈ e.tasks)
    (he : Ends e t l remains) (hc : e.futures[future]? = some c)
    (hn : c.state = .pending → c.task ≠ some t.number) :
    (remains.futures e.futures)[future]? = some c := by
  cases remains with
  | load load outcome => exact hc
  | nothing => exact hc
  | future own result =>
      show (e.futures.modify own fun c => (c.complete result).1)[future]? = some c
      rw [List.getElem?_modify, hc]
      by_cases heq : own = future
      · subst heq
        have hd := h.drives t ht
        rw [Drives, future?_of_ends he] at hd
        obtain ⟨c', hc', hd⟩ := hd
        cases hc.symm.trans hc'
        rcases hd with ⟨hpending, htask, -⟩ | ⟨hcancelled, -⟩
        · exact absurd htask (hn hpending)
        · obtain ⟨state, waker, task⟩ := c
          cases hcancelled
          simp [Completion.complete]
      · simp [heq]

/-- The others drive their futures on when a task ends. -/
theorem Standing.drives_of_ends (h : Standing size requests e) (ht : t ∈ e.tasks)
    (he : Ends e t l remains) (hu : u ∈ e.tasks) (hne : u.number ≠ t.number) :
    Drives (remains.futures e.futures) u := by
  refine (h.drives u hu).mono fun future c _ hc hcase =>
    ⟨c, h.futures_of_ends ht he hc fun hpending htask => ?_, rfl, rfl⟩
  rcases hcase with ⟨-, hown⟩ | hcancelled
  · exact hne (Option.some.inj (hown.symm.trans htask))
  · cases hpending.symm.trans hcancelled

/-- A task ends in its turn, and whoever gets its slot is woken. -/
theorem Standing.leave (h : Standing size requests e) (ht : t ∈ e.tasks) (he : Ends e t l remains)
    (hrest : ∀ n ∈ e.ready, n ≠ t.number → n ∈ ready)
    (hwoken : ∀ u ∈ e.tasks, u.number ≠ t.number →
      (l.pool.leave t.number).2 = some u.number → u.number ∈ ready) :
    Standing size requests { e with
      ready := ready
      ledger := { l with pool := (l.pool.leave t.number).1 }
      tasks := e.tasks.filter (·.number != t.number)
      futures := remains.futures e.futures
      loads := remains.loads e.loads } := by
  have hw := h.ends ht he
  obtain ⟨hleave, haway⟩ := hw.pool.sound.leave t.number
  refine
    { pool := hleave.sound
      total := hleave.total.trans (hw.pool.total.trans h.total)
      closed := hleave.closed.trans ((hw.pool.closed.trans h.closed).trans hw.closed.symm)
      running := h.running
      loader := h.loader
      numbers := (List.filter_sublist.map Task.number).nodup h.numbers
      spawned := fun u hu => h.spawned u (mem_left.mp hu).1
      asked := h.asked
      live := ?live
      staged := ?staged
      prompt := ?prompt
      drives := ?drives
      driven := ?driven
      calls := ?calls
      shut := ?shut }
  case live =>
    intro n hn
    have hne : n ≠ t.number := by
      rintro rfl
      exact hn haway
    obtain ⟨u, hu, rfl⟩ : e.Lives n := by
      refine h.live n fun h' => ?_
      rcases hw.others_left hne with hsame | ⟨-, hwaiting, -⟩
      · exact hn (hsame.trans h')
      · cases hwaiting.symm.trans h'
    exact ⟨u, mem_left.mpr ⟨hu, hne⟩, rfl⟩
  case staged =>
    intro u hu
    obtain ⟨hu, hne⟩ := mem_left.mp hu
    refine (h.staged u hu).moved (fun _ => Iff.rfl) (fun hc => hw.closed.trans hc) ?_
    exact (hw.others_left hne).imp id fun hg => ⟨hg.2.1, Or.inl hg.2.2⟩
  case prompt =>
    intro u hu hdue
    obtain ⟨hu, hne⟩ := mem_left.mp hu
    -- the one that gets the slot has something to do now, and is woken for that
    rcases hw.others_left hne with hsame | ⟨hgiven, -, -⟩
    · rw [hsame] at hdue
      exact hrest u.number (h.prompt u hu hdue) hne
    · exact hwoken u hu hne hgiven
  case drives =>
    intro u hu
    obtain ⟨hu, hne⟩ := mem_left.mp hu
    exact h.drives_of_ends ht he hu hne
  case driven =>
    intro future c hc hpending n hn
    obtain ⟨hlt, hdriven⟩ := h.driven future c (Remains.pending hc hpending) hpending n hn
    exact ⟨hlt, fun u hu => hdriven u (mem_left.mp hu).1⟩
  case calls =>
    intro x hx hcall
    obtain ⟨n, hn, hlt, hcalled, -⟩ := h.calls_of_worked hw ht hx hcall
    refine ⟨n, hn, hlt, fun u hu hnu => ?_⟩
    obtain ⟨hu, hne⟩ := mem_left.mp hu
    have hc := hcalled u hu hne hnu
    refine ⟨hc.begun, fun r hr hretries => ?_⟩
    subst hnu
    rcases hw.others_left hne with hsame | ⟨-, hwaiting, -⟩
    · exact hsame.trans (hc.holds r hr hretries)
    · cases hwaiting.symm.trans (hc.holds r hr hretries)
  case shut =>
    show l.notes.countP _ = if l.closed then 1 else 0
    rw [hw.notes.countP, hw.closed]
    exact h.shut

/-! ## A task is spawned -/

/-- The task that is spawned next is away from the pool. -/
theorem Standing.away_of_spawned (h : Standing size requests e) :
    e.ledger.pool.place e.spawned = .away := by
  by_contra haway
  obtain ⟨t, ht, hnumber⟩ := h.live e.spawned haway
  exact absurd (h.spawned t ht) (Nat.not_lt.mpr (Nat.le_of_eq hnumber.symm))

/-- The tasks are those from before and the one that is spawned. -/
theorem Standing.mem_spawned (h : Standing size requests e)
    (hu : u ∈ e.tasks ++ [⟨e.spawned, job, false, false⟩]) :
    (u ∈ e.tasks ∧ u.number < e.spawned) ∨ u = ⟨e.spawned, job, false, false⟩ :=
  (List.mem_append.mp hu).imp (fun hu => ⟨hu, h.spawned u hu⟩) List.mem_singleton.mp

/-- A request for a task that is spawned is none for the others. -/
theorem mem_requests_spawned {n m : Nat} (hn : n ≠ m) (asked : Option Request) (r : Request) :
    (n, r) ∈ requests ++ (asked.map (m, ·)).toList ↔ (n, r) ∈ requests := by
  cases asked with
  | none => simp
  | some request => simp [hn]

theorem Standing.asked_spawned (h : Standing size requests e) (asked : Option Request) :
    Asked (requests ++ (asked.map (e.spawned, ·)).toList) e.spawned asked := by
  intro r
  have hold : (e.spawned, r) ∉ requests := fun hr => Nat.lt_irrefl _ (h.asked _ hr)
  cases asked <;> simp [hold, eq_comm]

/-- A future comes with the task that is to decide it, or none comes. -/
theorem Spawns.futures_eq {asked : Option Request} {futures : List (Completion α)}
    (hs : Spawns e job asked futures loads) :
    (futures = [⟨.pending, none, some e.spawned⟩] ∧ job.future? = some e.futures.length) ∨
      (futures = [] ∧ job.future? = none) := by
  cases hs with
  | dispatch => exact Or.inl ⟨rfl, rfl⟩
  | deliver => exact Or.inl ⟨rfl, rfl⟩
  | load => exact Or.inr ⟨rfl, rfl⟩
  | clean => exact Or.inr ⟨rfl, rfl⟩

/-- A task that is spawned is at the first stage. -/
theorem Standing.staged_spawned (h : Standing size requests e) {asked : Option Request}
    {futures : List (Completion α)} (hs : Spawns e job asked futures loads) :
    Staged (requests ++ (asked.map (e.spawned, ·)).toList) e.ledger.closed
      (e.ledger.pool.place e.spawned) ⟨e.spawned, job, false, false⟩ := by
  have hnew := h.asked_spawned asked
  rw [Staged, h.away_of_spawned]
  cases hs with
  | dispatch request handler => exact ⟨request, hnew, .fresh (fresh_dispatch request handler)⟩
  | deliver hl => exact ⟨hnew, rfl⟩
  | load ticket =>
      refine ⟨hnew, .fresh ?_⟩
      rw [h.loader]
      exact fresh_timed ticket.request .response
  | clean => exact ⟨hnew, rfl⟩

/-- Futures from before are driven on, and a new one by its task. -/
theorem Standing.drives_spawned (h : Standing size requests e) {asked : Option Request}
    {futures : List (Completion α)} (hs : Spawns e job asked futures loads)
    (hu : u ∈ e.tasks ++ [⟨e.spawned, job, false, false⟩]) : Drives (e.futures ++ futures) u := by
  rcases h.mem_spawned hu with ⟨hu, -⟩ | rfl
  · refine (h.drives u hu).mono fun future c _ hc _ => ⟨c, ?_, rfl, rfl⟩
    rw [List.getElem?_append_left (List.getElem?_eq_some_iff.mp hc).1]
    exact hc
  · rw [Drives]
    rcases hs.futures_eq with ⟨rfl, hjob⟩ | ⟨-, hjob⟩
    · rw [hjob]
      exact ⟨_, List.getElem?_concat_length, Or.inl ⟨rfl, rfl, rfl⟩⟩
    · rw [hjob]

theorem Standing.driven_spawned (h : Standing size requests e) {asked : Option Request}
    {futures : List (Completion α)} (hs : Spawns e job asked futures loads)
    (hc : (e.futures ++ futures)[future]? = some c) (hpending : c.state = .pending) {n : Nat}
    (hn : c.task = some n) : n < e.spawned + 1 ∧
      ∀ u ∈ e.tasks ++ [⟨e.spawned, job, false, false⟩], u.number = n →
        u.job.future? = some future := by
  by_cases hlt : future < e.futures.length
  · rw [List.getElem?_append_left hlt] at hc
    obtain ⟨hnlt, hdriven⟩ := h.driven future c hc hpending n hn
    refine ⟨Nat.lt_succ_of_lt hnlt, fun u hu hnu => ?_⟩
    rcases h.mem_spawned hu with ⟨hu, -⟩ | rfl
    · exact hdriven u hu hnu
    · exact absurd hnu (Nat.ne_of_gt hnlt)
  · -- a future that was not there before is the one of the new task
    rw [List.getElem?_append_right (Nat.le_of_not_lt hlt)] at hc
    rcases hs.futures_eq with ⟨rfl, hjob⟩ | ⟨rfl, -⟩
    · obtain ⟨hzero, hget⟩ := List.getElem?_eq_some_iff.mp hc
      have hfuture : future = e.futures.length := by
        have hzero' : future - e.futures.length = 0 := by simpa using hzero
        omega
      subst hfuture
      have hc' : c = ⟨.pending, none, some e.spawned⟩ := by simpa using hget.symm
      rw [hc'] at hn
      cases hn
      refine ⟨Nat.lt_succ_self _, fun u hu hnu => ?_⟩
      rcases h.mem_spawned hu with ⟨-, hlt'⟩ | rfl
      · exact absurd hnu (Nat.ne_of_lt hlt')
      · exact hjob
    · simp at hc

/-- A task is spawned. -/
theorem Standing.spawn (h : Standing size requests e) {asked : Option Request}
    {futures : List (Completion α)} (hs : Spawns e job asked futures loads) :
    Standing size (requests ++ (asked.map (e.spawned, ·)).toList) { e with
      tasks := e.tasks ++ [⟨e.spawned, job, false, false⟩]
      spawned := e.spawned + 1
      ready := e.ready ++ [e.spawned]
      futures := e.futures ++ futures
      loads := e.loads ++ loads } := by
  have hothers : ∀ {n : Nat}, n < e.spawned → ∀ r,
      (n, r) ∈ requests ++ (asked.map (e.spawned, ·)).toList ↔ (n, r) ∈ requests :=
    fun hn => mem_requests_spawned (Nat.ne_of_lt hn) asked
  refine
    { pool := h.pool
      total := h.total
      closed := h.closed
      running := h.running
      loader := h.loader
      numbers := ?numbers
      spawned := ?spawned
      asked := ?asked
      live := ?live
      staged := ?staged
      prompt := ?prompt
      drives := fun u hu => h.drives_spawned hs hu
      driven := fun f c hc hpending n hn => h.driven_spawned hs hc hpending hn
      calls := ?calls
      shut := h.shut }
  case numbers =>
    show ((e.tasks ++ [(⟨e.spawned, job, false, false⟩ : Task α)]).map Task.number).Nodup
    rw [List.map_append]
    refine List.nodup_append.mpr ⟨h.numbers, List.nodup_singleton _, ?_⟩
    rintro a ha b hb rfl
    obtain ⟨u, hu, hnumber⟩ := List.mem_map.mp ha
    exact absurd (hnumber.trans (List.mem_singleton.mp hb)) (Nat.ne_of_lt (h.spawned u hu))
  case spawned =>
    intro u hu
    rcases h.mem_spawned hu with ⟨-, hlt⟩ | rfl
    · exact Nat.lt_succ_of_lt hlt
    · exact Nat.lt_succ_self _
  case asked =>
    intro x hx
    rcases List.mem_append.mp hx with hx | hx
    · exact Nat.lt_succ_of_lt (h.asked x hx)
    · obtain ⟨request, -, rfl⟩ := Option.map_eq_some_iff.mp (Option.mem_toList.mp hx)
      exact Nat.lt_succ_self _
  case live =>
    intro n hn
    obtain ⟨u, hu, rfl⟩ := h.live n hn
    exact ⟨u, List.mem_append_left _ hu, rfl⟩
  case staged =>
    intro u hu
    rcases h.mem_spawned hu with ⟨hu, hlt⟩ | rfl
    · exact (h.staged u hu).moved (hothers hlt) id (Or.inl rfl)
    · exact h.staged_spawned hs
  case prompt =>
    intro u hu hdue
    rcases h.mem_spawned hu with ⟨hu, hlt⟩ | rfl
    · refine List.mem_append_left _ (h.prompt u hu (hdue.imp id (.imp id (.imp id ?_))))
      exact fun hd => ⟨hd.1, hd.2.imp fun r hr => ⟨(hothers hlt r).mp hr.1, hr.2⟩⟩
    · exact List.mem_append_right _ List.mem_cons_self
  case calls =>
    intro x hx hcall
    obtain ⟨n, hn, hlt, hcalled⟩ := h.calls x hx hcall
    refine ⟨n, hn, Nat.lt_succ_of_lt hlt, fun u hu hnu => ?_⟩
    rcases h.mem_spawned hu with ⟨hu, hlt'⟩ | rfl
    · have hc := hcalled u hu hnu
      exact ⟨hc.begun, fun r hr => hc.holds r ((hothers hlt' r).mp hr)⟩
    · exact absurd hnu (Nat.ne_of_gt hlt)

/-! ## What happens to futures -/

/-- Whoever drove the future is to be dropped, and the others drive theirs on. -/
theorem Standing.drives_cancel (h : Standing size requests e) (hf : e.futures[future]? = some c)
    (hc : c.state = .pending) (hu : u ∈ e.tasks.map fun u =>
      if c.task = some u.number then { u with aborted := true } else u) :
    Drives (e.futures.set future ⟨.cancelled, none, none⟩) u := by
  obtain ⟨v, hv, -, hj, -, ⟨htask, ha⟩ | ⟨htask, rfl⟩⟩ := mem_cancelled hu
  · have hlt := (List.getElem?_eq_some_iff.mp hf).1
    rw [Drives, hj, (h.driven future c hf hc v.number htask).2 v hv rfl]
    exact ⟨_, List.getElem?_set_self hlt, Or.inr ⟨rfl, ha⟩⟩
  · refine (h.drives u hv).mono fun f c' _ hc' hcase =>
      ⟨c', (List.getElem?_set_ne ?_).trans hc', rfl, rfl⟩
    rintro rfl
    cases hf.symm.trans hc'
    rcases hcase with ⟨-, hown⟩ | hcancelled
    · exact htask hown
    · cases hc.symm.trans hcancelled

/-- A future is cancelled, and its task is to be dropped. -/
theorem Standing.cancel (h : Standing size requests e) (hf : e.futures[future]? = some c)
    (hc : c.state = .pending) (hrest : e.ready ⊆ ready)
    (hwoken : ∀ u ∈ e.tasks, c.task = some u.number → u.number ∈ ready) :
    Standing size requests { e with
      ready := ready
      futures := e.futures.set future ⟨.cancelled, none, none⟩
      tasks := e.tasks.map fun u =>
        if c.task = some u.number then { u with aborted := true } else u } := by
  have hlt := (List.getElem?_eq_some_iff.mp hf).1
  have hnumbers : (e.tasks.map fun u =>
      if c.task = some u.number then { u with aborted := true } else u).map Task.number
      = e.tasks.map Task.number := by
    rw [List.map_map]
    refine List.map_congr_left fun u _ => ?_
    by_cases htask : c.task = some u.number <;> simp [htask]
  refine
    { pool := h.pool
      total := h.total
      closed := h.closed
      running := h.running
      loader := h.loader
      numbers := hnumbers.symm ▸ h.numbers
      spawned := ?spawned
      asked := h.asked
      live := ?live
      staged := ?staged
      prompt := ?prompt
      drives := fun u hu => h.drives_cancel hf hc hu
      driven := ?driven
      calls := ?calls
      shut := h.shut }
  case spawned =>
    intro u hu
    obtain ⟨v, hv, hn, -⟩ := mem_cancelled hu
    rw [hn]
    exact h.spawned v hv
  case live =>
    intro n hn
    have hlives : n ∈ (e.tasks.map fun u =>
        if c.task = some u.number then { u with aborted := true } else u).map Task.number := by
      rw [hnumbers]
      exact List.mem_map.mpr (h.live n hn)
    exact List.mem_map.mp hlives
  case staged =>
    intro u hu
    obtain ⟨v, hv, hn, hj, hb, -⟩ := mem_cancelled hu
    have hs := h.staged v hv
    rw [Staged] at hs ⊢
    rw [hj, hn, hb]
    exact hs
  case prompt =>
    intro u hu hdue
    obtain ⟨v, hv, hn, -, -, ⟨htask, -⟩ | ⟨-, rfl⟩⟩ := mem_cancelled hu
    · rw [hn]
      exact hwoken v hv htask
    · exact hrest (h.prompt u hv hdue)
  case driven =>
    intro f c' hc' hpending n hn
    -- the cancelled future is pending no longer, so another one is meant
    have hne : future ≠ f := by
      rintro rfl
      cases (List.getElem?_set_self hlt).symm.trans hc'
      cases hpending
    obtain ⟨hlt, hdriven⟩ :=
      h.driven f c' ((List.getElem?_set_ne hne).symm.trans hc') hpending n hn
    refine ⟨hlt, fun u hu hnu => ?_⟩
    obtain ⟨v, hv, hnumber, hj, -⟩ := mem_cancelled hu
    rw [hj]
    exact hdriven v hv (hnumber.symm.trans hnu)
  case calls =>
    intro x hx hcall
    obtain ⟨n, hn, hlt, hcalled⟩ := h.calls x hx hcall
    refine ⟨n, hn, hlt, fun u hu hnu => ?_⟩
    obtain ⟨v, hv, hnumber, -, hb, -⟩ := mem_cancelled hu
    have hc := hcalled v hv (hnumber.symm.trans hnu)
    exact ⟨hb.trans hc.begun, hnumber ▸ hc.holds⟩

/-- Someone asks a future for its result. -/
theorem Standing.ask (h : Standing size requests e) {c' : Completion α}
    (hf : e.futures[future]? = some c) (htask : c'.task = c.task)
    (hc : c'.state = c.state ∨ ∃ result, c.state = .ready result ∧ c'.state = .taken) :
    Standing size requests { e with futures := e.futures.set future c' } := by
  have hlt := (List.getElem?_eq_some_iff.mp hf).1
  have hown : (e.futures.set future c')[future]? = some c' := List.getElem?_set_self hlt
  refine { h with
    drives := fun u hu => (h.drives u hu).mono fun f d _ hd hcase => ?_
    driven := fun f d hd hpending n hn => ?_ }
  · by_cases hne : future = f
    · subst hne
      cases hf.symm.trans hd
      refine ⟨c', hown, hc.resolve_right ?_, htask⟩
      rintro ⟨result, hready, -⟩
      rw [hready] at hcase
      simp at hcase
    · exact ⟨d, (List.getElem?_set_ne hne).trans hd, rfl, rfl⟩
  · by_cases hne : future = f
    · subst hne
      cases hown.symm.trans hd
      refine h.driven future c hf ?_ n (htask ▸ hn)
      rcases hc with hsame | ⟨result, -, htaken⟩
      · exact hsame.symm.trans hpending
      · cases htaken.symm.trans hpending
    · exact h.driven f d ((List.getElem?_set_ne hne).symm.trans hd) hpending n hn

/-- A future is added that is decided. -/
theorem Standing.decide (h : Standing size requests e) (result : Outcome α) :
    Standing size requests { e with futures := e.futures ++ [.decided result] } := by
  refine { h with
    drives := fun u hu => (h.drives u hu).mono fun f c _ hc _ => ⟨c, ?_, rfl, rfl⟩
    driven := fun f c hc hpending => ?_ }
  · rw [List.getElem?_append_left (List.getElem?_eq_some_iff.mp hc).1]
    exact hc
  · by_cases hlt : f < e.futures.length
    · rw [List.getElem?_append_left hlt] at hc
      exact h.driven f c hc hpending
    · rw [List.getElem?_append_right (Nat.le_of_not_lt hlt)] at hc
      cases List.mem_singleton.mp (List.mem_of_getElem? hc)
      cases hpending

/-! ## The client is closed -/

/-- The client is closed, and whoever waits for a slot is woken. -/
theorem Standing.close (h : Standing size requests e) (ho : e.ledger.closed = false)
    (hrest : e.ready ⊆ ready)
    (hwoken : ∀ u ∈ e.tasks, u.number ∈ e.ledger.pool.close.2 → u.number ∈ ready) :
    Standing size requests { e with
      ready := ready
      ledger := Ledger.mark { e.ledger with closed := true, pool := e.ledger.pool.close.1 }
        none .transportClosed } := by
  obtain ⟨hsound, htotal, hclosed, hplaces⟩ := h.pool.close
  refine
    { pool := hsound
      total := htotal.trans h.total
      closed := hclosed
      running := h.running
      loader := h.loader
      numbers := h.numbers
      spawned := h.spawned
      asked := h.asked
      live := ?live
      staged := ?staged
      prompt := ?prompt
      drives := h.drives
      driven := h.driven
      calls := ?calls
      shut := ?shut }
  case live =>
    intro n hn
    refine h.live n fun haway => ?_
    rcases hplaces n with hsame | ⟨hwaiting, -⟩
    · exact hn (hsame.trans haway)
    · cases hwaiting.symm.trans haway
  case staged =>
    intro u hu
    refine (h.staged u hu).moved (fun _ => Iff.rfl) (fun _ => rfl) ?_
    exact (hplaces u.number).imp id fun hp => ⟨hp.1, Or.inr ⟨hp.2.1, rfl⟩⟩
  case prompt =>
    intro u hu hdue
    -- whoever waited is away from the pool now, which is something to act on
    rcases hplaces u.number with hsame | ⟨-, -, hwaited⟩
    · change Due requests (e.ledger.pool.close.1.place u.number) u at hdue
      rw [hsame] at hdue
      exact hrest (h.prompt u hu hdue)
    · exact hwoken u hu hwaited
  case calls =>
    intro x hx hcall
    rcases List.mem_cons.mp hx with rfl | hx
    · cases hcall
    · obtain ⟨n, hn, hlt, hcalled⟩ := h.calls x hx hcall
      refine ⟨n, hn, hlt, fun u hu hnu => ?_⟩
      have hc := hcalled u hu hnu
      refine ⟨hc.begun, fun r hr hretries => ?_⟩
      have hholding := hc.holds r hr hretries
      rcases hplaces n with hsame | ⟨hwaiting, -⟩
      · exact hsame.trans hholding
      · cases hwaiting.symm.trans hholding
  case shut =>
    have hnone := h.shut
    rw [ho] at hnone
    show (⟨_, none, .transportClosed⟩ :: e.ledger.notes).countP _ = _
    rw [List.countP_cons, hnone]
    rfl

/-! ## Turns and acts -/

/-- **EVERY TURN KEEPS WHERE TASKS STAND.** -/
theorem Standing.turn (h : Standing size requests e) {n : Nat} (ht : Turn e n e') :
    Standing size requests e' := by
  cases ht with
  | idle hr => exact h
  | skip hr hn hrests => exact (h.skip hn).rests hrests
  | stay hn hr ht ha hs hrests => exact (h.stay ht ha hs).rests hrests
  | leave hn hr ht he hrests hwoken =>
      refine (h.leave ht he (fun m hm hne => ?_) fun u hu hne hm => ?_).rests hrests.withReady
      · exact hrests.mem_ready (mem_called.mpr ⟨hm, hne⟩)
      · exact hwoken _ (Or.inl hm) (hrests.lives.mpr ⟨u, mem_left.mpr ⟨hu, hne⟩, rfl⟩)

/-- **EVERY ACT KEEPS WHERE TASKS STAND.** -/
theorem Standing.act (h : Standing size requests e) {asked : Option Request}
    (ha : Act e asked e') :
    Standing size (requests ++ (asked.map (e.spawned, ·)).toList) e' := by
  cases ha with
  | rest hr => simpa using h.rests hr
  | spawn hs hrests => exact (h.spawn hs).rests hrests
  | cancel hf hc hrests hwoken =>
      rw [Option.map_none, Option.toList_none, List.append_nil]
      refine (h.cancel hf hc (fun n hn => hrests.mem_ready hn) fun u hu htask => ?_).rests
        hrests.withReady
      refine hwoken u.number htask (hrests.lives.mpr ⟨_, List.mem_map_of_mem hu, ?_⟩)
      rw [if_pos htask]
  | ask hf hev hrests =>
      obtain ⟨htask, hstate⟩ := Completion.step_of_asks _ hev
      simpa using (h.ask hf htask hstate).rests hrests
  | decide hrests => simpa using (h.decide _).rests hrests
  | close ho hrests hwoken =>
      rw [Option.map_none, Option.toList_none, List.append_nil]
      refine (h.close ho (fun n hn => hrests.mem_ready hn) fun u hu hwaited => ?_).rests
        hrests.withReady
      exact hwoken u.number hwaited (hrests.lives.mpr ⟨u, hu, rfl⟩)

theorem Standing.acts (h : Standing size requests e) {more : List (Nat × Request)}
    (ha : Acts e more e') : Standing size (requests ++ more) e' := by
  induction ha generalizing requests with
  | refl e => simpa using h
  | step ha hs ih =>
      rw [← List.append_assoc]
      exact ih (h.act ha)

/-- Nobody stands anywhere in a new engine. -/
theorem standing_new (parts : Parts) (present : Response → α) (epoch : Int) (slots : Nat)
    (config : CacheConfig) :
    Standing slots [] (new parts (fun request => dispatch request .response) present
      (.start epoch slots) config) where
  pool := sound_new slots
  total := rfl
  closed := rfl
  running := rfl
  loader := rfl
  numbers := List.nodup_nil
  spawned := List.forall_mem_nil _
  asked := List.forall_mem_nil _
  live _ hn := absurd rfl hn
  staged := List.forall_mem_nil _
  prompt := List.forall_mem_nil _
  drives := List.forall_mem_nil _
  driven _ _ hc := by cases hc
  calls := List.forall_mem_nil _
  shut := rfl

theorem standing_ofConfig {config : Config} {hasEngine : Bool} {parts : Parts}
    {present : Response → α} {epoch : Int}
    (h : ofConfig config hasEngine parts present epoch = .ok e) :
    Standing config.retryPoolSize [] e := by
  rw [ofConfig] at h
  cases hv : config.check hasEngine with
  | error cause =>
      rw [hv] at h
      cases h
  | ok _ =>
      rw [hv] at h
      cases h
      have hnew := standing_new parts present epoch config.retryPoolSize config.cache
      exact (hnew.act (act_startCleaner _ rfl)).rests (rests_tell _ _ _)

end Engine

end Courier
