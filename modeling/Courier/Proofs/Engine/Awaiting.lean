import Courier.Proofs.Engine.Acts

/-!
# Awaiting — nobody waits for a load in vain

A task that gives the outcome of a load to a future is in the queue, or the load knows that it waits
(`Awaited`).  A load wakes all whom it knows when it ends, so every turn and every act keep this
(`Awaited.turn`, `Awaited.act`).  While a task runs a load, the load has not ended
(`Recorded.running`), and a load that has ended keeps its outcome (`Recorded.ended`).
-/

namespace Courier

variable {α : Type}

namespace Engine

/-- Whoever gives the outcome of a load to a future is in the queue, or is known to the load. -/
def Awaited (e : Engine α) : Prop :=
  ∀ t ∈ e.tasks, ∀ future load, t.job = .deliver future load →
    load < e.loads.length ∧ (t.number ∈ e.ready ∨ t.number ∈ waiters e.loads load)

section Waiters

variable {loads : List LoadState} {load n : Nat}

theorem mem_waiters : n ∈ waiters loads load ↔
    ∃ waiting, loads[load]? = some (.running waiting) ∧ n ∈ waiting := by
  rw [waiters]
  cases loads[load]? with
  | none => simp
  | some state => cases state <;> simp

theorem waiters_append (h : load < loads.length) (more : List LoadState) :
    waiters (loads ++ more) load = waiters loads load := by
  rw [waiters, waiters, List.getElem?_append_left h]

theorem waiters_set_of_ne {other : Nat} (h : other ≠ load) (state : LoadState) :
    waiters (loads.set other state) load = waiters loads load := by
  rw [waiters, waiters, List.getElem?_set_ne h]

/-- A load that gets to know of someone still knows all the others. -/
theorem mem_waiters_set {waiting : List Nat} {other m : Nat}
    (hl : loads[other]? = some (.running waiting)) (h : n ∈ waiters loads load) :
    n ∈ waiters (loads.set other (.running (waiting ++ [m]))) load := by
  by_cases heq : other = load
  · subst heq
    obtain ⟨waiting', hl', hn⟩ := mem_waiters.mp h
    cases hl.symm.trans hl'
    refine mem_waiters.mpr ⟨_, List.getElem?_set_self ?_, List.mem_append_left _ hn⟩
    exact (List.getElem?_eq_some_iff.mp hl).1
  · rw [waiters_set_of_ne heq]
    exact h

end Waiters

variable {e e' : Engine α} {t : Task α}

theorem Awaited.rests (h : Awaited e) (hr : Rests e e') : Awaited e' := by
  intro t ht future load hj
  rw [hr.tasks] at ht
  rw [hr.loads]
  exact (h t ht future load hj).imp id fun hw => hw.imp hr.mem_ready id

/-- A task goes on after its turn. -/
theorem Awaited.stay (h : Awaited e) {l : Ledger} {job : Job α} {loads : List LoadState}
    (ht : t ∈ e.tasks) (hs : Stays e t l job loads) : Awaited (e.goneOn t l job loads) := by
  intro u hu future load hj
  rcases mem_goneOn hu with rfl | ⟨hu, hne⟩
  · -- the task itself goes on to wait, for a load that there is
    cases hs with
    | @deliver future load waiting hjob hl =>
        cases hj
        have hlt := (List.getElem?_eq_some_iff.mp hl).1
        refine ⟨by rwa [goneOn, List.length_set], Or.inr (mem_waiters.mpr ?_)⟩
        exact ⟨_, List.getElem?_set_self hlt, List.mem_append_right _ List.mem_cons_self⟩
    | lost hjob hl =>
        cases hj
        exact absurd (h t ht _ _ hjob).1 (Nat.not_lt.mpr (List.getElem?_eq_none_iff.mp hl))
    | drive hjob => cases hj
    | load hjob => cases hj
    | clean hjob => cases hj
  · obtain ⟨hl, hw⟩ := h u hu future load hj
    have hrest : u.number ∈ e.ready → u.number ∈ (e.called t.number).ready :=
      fun hready => mem_called.mpr ⟨hready, hne⟩
    cases hs with
    | deliver hjob hload =>
        exact ⟨by rwa [goneOn, List.length_set], hw.imp hrest (mem_waiters_set hload)⟩
    | lost hjob => exact ⟨hl, hw.imp hrest id⟩
    | drive hjob => exact ⟨hl, hw.imp hrest id⟩
    | load hjob => exact ⟨hl, hw.imp hrest id⟩
    | clean hjob => exact ⟨hl, hw.imp hrest id⟩

/-- A task ends in its turn, and whoever waits for its load is woken. -/
theorem Awaited.leave (h : Awaited e) {remains : Remains α}
    (hrest : ∀ n ∈ e.ready, n ≠ t.number → n ∈ e'.ready)
    (htasks : e'.tasks = e.tasks.filter (·.number != t.number))
    (hloads : e'.loads = remains.loads e.loads)
    (hwoken : ∀ n ∈ remains.waiters e.loads, e'.Lives n → n ∈ e'.ready) : Awaited e' := by
  intro u hu future load hj
  have hmem := hu
  rw [htasks] at hmem
  obtain ⟨hold, hne⟩ := mem_left.mp hmem
  obtain ⟨hl, hw⟩ := h u hold future load hj
  have hready : u.number ∈ e.ready → u.number ∈ e'.ready :=
    fun hqueued => hrest u.number hqueued hne
  rw [hloads]
  cases remains with
  | future n result => exact ⟨hl, hw.imp hready id⟩
  | nothing => exact ⟨hl, hw.imp hready id⟩
  | load n outcome =>
      -- a load that ends wakes all whom it knows
      refine ⟨(List.length_set).symm ▸ hl, ?_⟩
      rcases hw with hqueued | hwaits
      · exact Or.inl (hready hqueued)
      · by_cases heq : n = load
        · subst heq
          exact Or.inl (hwoken u.number hwaits ⟨u, hu, rfl⟩)
        · refine Or.inr ?_
          show u.number ∈ waiters (e.loads.set n (.ended outcome)) load
          rw [waiters_set_of_ne heq]
          exact hwaits

/-- **EVERY TURN KEEPS IT** that nobody waits in vain. -/
theorem Awaited.turn (h : Awaited e) {n : Nat} (ht : Turn e n e') : Awaited e' := by
  cases ht with
  | idle hr => exact h
  | skip hr hn hrests =>
      refine Awaited.rests (fun u hu future load hj => ?_) hrests
      obtain ⟨hl, hw⟩ := h u hu future load hj
      refine ⟨hl, hw.imp (fun hready => mem_called.mpr ⟨hready, ?_⟩) id⟩
      rintro rfl
      exact hn ⟨u, hu, rfl⟩
  | stay hn hr ht ha hs hrests => exact (h.stay ht hs).rests hrests
  | leave hn hr ht he hrests hwoken =>
      refine h.leave (fun m hm hne => ?_) hrests.tasks hrests.loads fun m hm =>
        hwoken m (Or.inr hm)
      exact hrests.mem_ready (mem_called.mpr ⟨hm, hne⟩)

/-- Every act keeps it. -/
theorem Awaited.act (h : Awaited e) {asked : Option Request} (ha : Act e asked e') :
    Awaited e' := by
  cases ha with
  | rest hr => exact h.rests hr
  | spawn hs hrests =>
      refine Awaited.rests (fun u hu future load hj => ?_) hrests
      -- whoever waited for a load does so still, and a new task is ready for its first turn
      rcases List.mem_append.mp hu with hu | hu
      · obtain ⟨hl, hw⟩ := h u hu future load hj
        refine ⟨?_, hw.imp (List.mem_append_left _) ?_⟩
        · rw [List.length_append]
          exact Nat.lt_add_right _ hl
        · show _ → u.number ∈ waiters (e.loads ++ _) load
          rw [waiters_append hl]
          exact id
      · rw [List.mem_singleton.mp hu] at hj ⊢
        refine ⟨?_, Or.inl (List.mem_append_right _ List.mem_cons_self)⟩
        cases hs with
        | deliver hl =>
            cases hj
            rwa [List.append_nil]
        | dispatch request handler => cases hj
        | load ticket => cases hj
        | clean => cases hj
  | cancel hf hc hrests hwoken =>
      refine Awaited.rests (fun u hu future load hj => ?_) hrests
      obtain ⟨v, hv, hn, hjob, -⟩ := mem_cancelled hu
      rw [hn]
      exact h v hv future load (hjob.symm.trans hj)
  | ask hf hev hrests =>
      refine Awaited.rests ?_ hrests
      exact h
  | decide hrests =>
      refine Awaited.rests ?_ hrests
      exact h
  | close ho hrests hwoken =>
      refine Awaited.rests ?_ hrests
      exact h

/-! ## Loads that run -/

section Recorded

variable {config : CacheConfig} {ticket : Ticket} {work : Program (Outcome Response × Duration)}

/-- While a task runs a load, the load has not ended. -/
theorem Recorded.running (hr : e.Recorded config) (ht : t ∈ e.tasks) (hj : t.job = .load ticket work) :
    ∃ waiting, e.loads[ticket.load]? = some (.running waiting) := by
  obtain ⟨events, hf⟩ := hr
  have hmem := mem_cacheSide ht
  rw [hj] at hmem
  obtain ⟨f, hflight, -, hlanding⟩ := hf.running t.number ticket hmem
  have hload := outcome?_load hf ticket.load
  rw [hflight] at hload
  obtain ⟨state, hstate, houtcome⟩ := Option.map_eq_some_iff.mp hload
  rw [Flight.outcome?, hlanding] at houtcome
  cases state with
  | running waiting => exact ⟨waiting, hstate⟩
  | ended outcome => cases houtcome

/-- A load that has ended keeps its outcome. -/
theorem Recorded.ended (hr : e.Recorded config) {n : Nat} (ht : Turn e n e') {load : Nat}
    {outcome : Outcome Response} (hl : e.loads[load]? = some (.ended outcome)) :
    e'.loads[load]? = some (.ended outcome) := by
  -- a turn writes only to a load that runs, and this one has ended
  have hset : ∀ {other : Nat} {state : LoadState} {waiting : List Nat},
      e.loads[other]? = some (.running waiting) →
      (e.loads.set other state)[load]? = some (.ended outcome) := by
    intro other state waiting hother
    rw [List.getElem?_set_ne]
    · exact hl
    · rintro rfl
      cases hother.symm.trans hl
  cases ht with
  | idle hready => exact hl
  | skip hready hn hrests => exact hrests.loads ▸ hl
  | stay hn hready ht ha hs hrests =>
      rw [hrests.loads]
      cases hs with
      | deliver hj hother => exact hset hother
      | drive hj hrun hnext => exact hl
      | load hj hrun hnext => exact hl
      | lost hj hnone => exact hl
      | clean hj => exact hl
  | @leave t l remains e' hn hready ht he hrests hwoken =>
      rw [hrests.loads]
      cases remains with
      | future future result => exact hl
      | nothing => exact hl
      | load other outcome' =>
          obtain ⟨ticket, work, hj, rfl⟩ := load_of_ends he
          obtain ⟨waiting, hrunning⟩ := hr.running ht hj
          exact hset hrunning

end Recorded

end Engine

end Courier
