import Courier.Proofs.Engine.Acts

/-!
# Standing — where the tasks of a client stand

Every task of a client that dispatches a request is at a stage of its dispatch, and stands with the
pool as that stage says; every other task keeps away from the pool.  Whoever has something to do is
in the queue, and whoever drives a future drives it alone.  `Standing` says all this of an engine.
In such an engine the turn of a task does little to the ledger (`Worked`), whether the task goes on
(`Standing.stays`) or ends (`Standing.ends`).
-/

namespace Courier

open Program SlotPool

variable {α β : Type}

/-- What a task was spawned to dispatch, if anything. -/
def Asked (requests : List (Nat × Request)) (n : Nat) (request : Option Request) : Prop :=
  ∀ r, (n, r) ∈ requests ↔ request = some r

/-- A task is at a stage of the dispatch it was spawned for, or was spawned for none and keeps away
    from the pool. -/
def Staged (requests : List (Nat × Request)) (closed : Bool) (place : Place) (t : Task α) : Prop :=
  match t.job with
  | .drive _ work => ∃ request, Asked requests t.number (some request) ∧
      Stage (fun v => v = .error .closed) request closed t.begun place work
  | .load ticket work => Asked requests t.number (some ticket.request) ∧
      Stage (fun v => v.1 = .error .closed) ticket.request closed t.begun place work
  | .deliver _ _ | .clean _ => Asked requests t.number none ∧ place = .away

/-- A task that nothing happens to but that it is given a slot, or is sent away. -/
theorem Staged.moved {requests requests' : List (Nat × Request)} {closed closed' : Bool}
    {place place' : Place} {t : Task α} (h : Staged requests closed place t)
    (hd : ∀ r, (t.number, r) ∈ requests' ↔ (t.number, r) ∈ requests)
    (hc : closed = true → closed' = true)
    (hp : place' = place ∨
      (place = .waiting ∧ (place' = .given ∨ (place' = .away ∧ closed' = true)))) :
    Staged requests' closed' place' t := by
  have hasked : ∀ {request : Option Request}, Asked requests t.number request →
      Asked requests' t.number request := fun ha r => (hd r).trans (ha r)
  have hplace : place = .away → place' = .away := by
    rintro rfl
    exact hp.resolve_right fun h => nomatch h.1
  rw [Staged] at h ⊢
  cases hj : t.job with
  | drive future work =>
      rw [hj] at h
      obtain ⟨request, ha, hs⟩ := h
      exact ⟨request, hasked ha, hs.moved hc hp⟩
  | load ticket work =>
      rw [hj] at h
      exact ⟨hasked h.1, h.2.moved hc hp⟩
  | deliver future load =>
      rw [hj] at h
      exact ⟨hasked h.1, hplace h.2⟩
  | clean due =>
      rw [hj] at h
      exact ⟨hasked h.1, hplace h.2⟩

/-- Whether a task has something to do: to begin, to be dropped, to take a slot, or to be turned
    down. -/
def Due (requests : List (Nat × Request)) (place : Place) (t : Task α) : Prop :=
  t.begun = false ∨ t.aborted = true ∨ place = .given ∨
    (place = .away ∧ ∃ r, (t.number, r) ∈ requests ∧ r.hasRetryPolicy = true)

/-- A task drives its future, which is pending and knows it; or the future was cancelled, and the
    task is to be dropped. -/
def Drives (futures : List (Completion α)) (t : Task α) : Prop :=
  match t.job.future? with
  | none => t.aborted = false
  | some future => ∃ c, futures[future]? = some c ∧
      ((c.state = .pending ∧ c.task = some t.number ∧ t.aborted = false) ∨
        (c.state = .cancelled ∧ t.aborted = true))

/-- A task drives its future on if nothing has happened to that. -/
theorem Drives.mono {futures futures' : List (Completion α)} {t : Task α} (h : Drives futures t)
    (hkept : ∀ future c, t.job.future? = some future → futures[future]? = some c →
      (c.state = .pending ∧ c.task = some t.number) ∨ c.state = .cancelled →
      ∃ c', futures'[future]? = some c' ∧ c'.state = c.state ∧ c'.task = c.task) :
    Drives futures' t := by
  rw [Drives] at h ⊢
  cases hfuture : t.job.future? with
  | none =>
      rw [hfuture] at h
      exact h
  | some future =>
      rw [hfuture] at h
      obtain ⟨c, hc, hcase⟩ := h
      have hstate : (c.state = .pending ∧ c.task = some t.number) ∨ c.state = .cancelled :=
        hcase.imp (fun hp => ⟨hp.1, hp.2.1⟩) And.left
      obtain ⟨c', hc', hs, ht⟩ := hkept future c hfuture hc hstate
      refine ⟨c', hc', ?_⟩
      rw [hs, ht]
      exact hcase

/-- A task that goes on drives the future it drove. -/
theorem Drives.goneOn {futures : List (Completion α)} {t : Task α} {job : Job α}
    (h : Drives futures t) (hj : job.future? = t.job.future?) :
    Drives futures { t with job := job, begun := true } := by
  rw [Drives] at h ⊢
  dsimp only
  rw [hj]
  exact h

/-- A task that has called the transport, and still may: if its request wants retries, it holds a
    slot. -/
structure Called (requests : List (Nat × Request)) (place : Place) (t : Task α) : Prop where
  begun : t.begun = true
  holds : ∀ r, (t.number, r) ∈ requests → r.hasRetryPolicy = true → place = .holding

/-- **WHERE THE TASKS OF A CLIENT STAND**, given how many slots there are and the requests that tasks
    were spawned for. -/
structure Engine.Standing (size : Nat) (requests : List (Nat × Request)) (e : Engine α) : Prop where
  pool : e.ledger.pool.Sound
  total : e.ledger.pool.total = size
  closed : e.ledger.pool.closed = e.ledger.closed
  running : e.stopped = false
  loader : e.loader = fun request => dispatch request .response
  numbers : (e.tasks.map Task.number).Nodup
  spawned : ∀ t ∈ e.tasks, t.number < e.spawned
  asked : ∀ x ∈ requests, x.1 < e.spawned
  live : ∀ n, e.ledger.pool.place n ≠ .away → e.Lives n
  staged : ∀ t ∈ e.tasks, Staged requests e.ledger.closed (e.ledger.pool.place t.number) t
  prompt : ∀ t ∈ e.tasks, Due requests (e.ledger.pool.place t.number) t → t.number ∈ e.ready
  drives : ∀ t ∈ e.tasks, Drives e.futures t
  driven : ∀ future c, e.futures[future]? = some c → c.state = .pending → ∀ n, c.task = some n →
    n < e.spawned ∧ ∀ t ∈ e.tasks, t.number = n → t.job.future? = some future
  calls : ∀ x ∈ e.ledger.notes, x.what.isCall = true → ∃ n, x.task = some n ∧ n < e.spawned ∧
    ∀ t ∈ e.tasks, t.number = n → Called requests (e.ledger.pool.place n) t
  shut : e.ledger.notes.countP (fun x => decide (x.what = .transportClosed))
    = if e.ledger.closed then 1 else 0

namespace Engine

variable {e e' : Engine α} {t : Task α} {l : Ledger} {size : Nat}
  {requests : List (Nat × Request)} {remains : Remains α} {job : Job α} {loads : List LoadState}

/-! ## What a turn does to the ledger -/

/-- What the turn of a task does to the ledger, before the task leaves the pool if it ends. -/
structure Worked (requests : List (Nat × Request)) (e : Engine α) (t : Task α) (l : Ledger) :
    Prop where
  closed : l.closed = e.ledger.closed
  pool : e.ledger.pool.Passes l.pool t.number none
  notes : Adds (fun x => x = some t.number ∧ (l.pool.place t.number = .holding ∨
      (t.begun = false ∧ e.ledger.closed = false ∧
        ∃ r, (t.number, r) ∈ requests ∧ r.hasRetryPolicy = false))) e.ledger.notes l.notes
  untaken : t.aborted = false → l.pool.place t.number ≠ .given
  /-- Whoever holds a slot leaves the pool alone. -/
  same : e.ledger.pool.place t.number = .holding → l.pool = e.ledger.pool
  holds : l.pool.place t.number = .holding → e.ledger.pool.place t.number = .holding ∨
    (e.ledger.closed = false ∧ t.aborted = false)
  waits : l.pool.place t.number = .waiting → e.ledger.pool.place t.number = .waiting ∨
    t.begun = false

/-- The turn of a task leaves the others where they are. -/
theorem Worked.others (hw : Worked requests e t l) {n : Nat} (hn : n ≠ t.number) :
    l.pool.place n = e.ledger.pool.place n :=
  (hw.pool.others n hn).resolve_right fun h => by cases h.1

/-- When it leaves the pool, others stay where they are, but for one who waits and is given its
    slot. -/
theorem Worked.others_left (hw : Worked requests e t l) {n : Nat} (hn : n ≠ t.number) :
    (l.pool.leave t.number).1.place n = e.ledger.pool.place n ∨
      ((l.pool.leave t.number).2 = some n ∧ e.ledger.pool.place n = .waiting ∧
        (l.pool.leave t.number).1.place n = .given) := by
  rw [← hw.others hn]
  exact (hw.pool.sound.leave t.number).1.others n hn

theorem adds_begunLedger (e : Engine α) (t : Task α) :
    Adds (fun _ => False) e.ledger.notes (e.begunLedger t).notes := by
  rw [begunLedger]
  split
  · exact .refl _ _
  · exact .one _ (by simp) (by simp [Happening.isCall])

theorem pool_begunLedger (e : Engine α) (t : Task α) :
    (e.begunLedger t).pool = e.ledger.pool ∧ (e.begunLedger t).closed = e.ledger.closed := by
  rw [begunLedger]
  split <;> exact ⟨rfl, rfl⟩

/-- The turn of a task that has nothing to do with the pool, or is dropped. -/
theorem Standing.worked_of_same (h : Standing size requests e) (hpool : l.pool = e.ledger.pool)
    (hclosed : l.closed = e.ledger.closed) (hnotes : Adds (fun _ => False) e.ledger.notes l.notes)
    (hplace : t.aborted = false → e.ledger.pool.place t.number = .away) : Worked requests e t l := by
  refine
    { closed := hclosed
      pool := ?pool
      notes := hnotes.mono fun _ => False.elim
      untaken := ?untaken
      same := fun _ => hpool
      holds := ?holds
      waits := ?waits }
  case pool =>
    rw [hpool]
    exact .refl h.pool t.number none
  case untaken =>
    intro ha hgiven
    rw [hpool, hplace ha] at hgiven
    cases hgiven
  case holds =>
    rw [hpool]
    exact Or.inl
  case waits =>
    rw [hpool]
    exact Or.inl

/-- The turn of a task that runs its dispatch. -/
theorem worked_of_ran {down : β → Prop} {request : Request} {stopped : Stopped β}
    (hr : Ran down request t.begun t.number (e.begunLedger t) (l, stopped))
    (hd : Asked requests t.number (some request)) (ha : t.aborted = false) :
    Worked requests e t l := by
  obtain ⟨hpool, hclosed⟩ := e.pool_begunLedger t
  have hpass := hr.pool
  have hnotes := hr.notes
  have hsame := hr.same
  have hholds := hr.holds
  have hwaits := hr.waits
  rw [hpool] at hpass hsame hholds hwaits
  rw [hclosed] at hnotes hholds
  refine
    { closed := hr.closed.trans hclosed
      pool := hpass
      notes := ?notes
      untaken := fun _ => hr.untaken
      same := hsame
      holds := ?holds
      waits := hwaits }
  case notes =>
    refine ((e.adds_begunLedger t).mono fun _ => False.elim).trans (hnotes.mono fun x hx => ?_)
    refine ⟨hx.1, hx.2.imp id fun hplain => ?_⟩
    exact ⟨hplain.2.1, hplain.2.2, request, (hd request).mpr rfl, hplain.1⟩
  case holds =>
    exact fun hplace => (hholds hplace).imp id fun hopen => ⟨hopen, ha⟩

/-- The stage of a task in the ledger in which it runs. -/
theorem Standing.run (h : Standing size requests e) {down : β → Prop} {request : Request}
    {work : Program β}
    (hs : Stage down request e.ledger.closed t.begun (e.ledger.pool.place t.number) work)
    {stopped : Stopped β}
    (hrun : work.run e.parts t.number (e.begunLedger t) = (l, stopped)) :
    Ran down request t.begun t.number (e.begunLedger t) (l, stopped) := by
  obtain ⟨hpool, hclosed⟩ := e.pool_begunLedger t
  rw [← hrun]
  refine Stage.run ?_ e.parts ?_ ?_
  · rw [hpool, hclosed]
    exact hs
  · rw [hpool]
    exact h.pool
  · rw [hpool, hclosed]
    exact h.closed

/-- A task whose dispatch goes on is at a stage again, and has nothing to do. -/
theorem stage_of_ran {down : β → Prop} {request : Request} {stopped : Stopped β}
    {next : Program β}
    (hr : Ran down request t.begun t.number (e.begunLedger t) (l, stopped))
    (hd : Asked requests t.number (some request)) (ha : t.aborted = false)
    (hnext : stopped.rest? = some next) (job : Job α) :
    Stage down request l.closed true (l.pool.place t.number) next ∧
      ¬ Due requests (l.pool.place t.number) { t with job := job, begun := true } := by
  obtain ⟨hstage, haway⟩ := hr.stops next hnext
  refine ⟨?_, ?_⟩
  · rw [hr.closed]
    exact hstage
  · rintro (hb | hb | hb | ⟨hb, r, hmem, hretries⟩)
    · cases hb
    · cases ha.symm.trans hb
    · exact hr.untaken hb
    · cases (hd r).mp hmem
      exact haway hretries hb

/-- A task that keeps away from the pool has nothing to do once it has begun. -/
theorem not_due_of_away {place : Place} (hd : Asked requests t.number none)
    (hp : place = .away) (ha : t.aborted = false) (job : Job α) :
    ¬ Due requests place { t with job := job, begun := true } := by
  rintro (hb | hb | hb | ⟨-, r, hmem, -⟩)
  · cases hb
  · cases ha.symm.trans hb
  · cases hp.symm.trans hb
  · exact nomatch (hd r).mp hmem

/-- The turn of a task that goes on. -/
theorem Standing.stays (h : Standing size requests e) (ht : t ∈ e.tasks) (ha : t.aborted = false)
    (hs : Stays e t l job loads) : Worked requests e t l ∧
      Staged requests l.closed (l.pool.place t.number) { t with job := job, begun := true } ∧
      ¬ Due requests (l.pool.place t.number) { t with job := job, begun := true } := by
  obtain ⟨hpool, hclosed⟩ := e.pool_begunLedger t
  have haway : ∀ job : Job α, Asked requests t.number none →
      e.ledger.pool.place t.number = .away → Worked requests e t (e.begunLedger t) ∧
      (Asked requests t.number none ∧ (e.begunLedger t).pool.place t.number = .away) ∧
      ¬ Due requests ((e.begunLedger t).pool.place t.number)
        { t with job := job, begun := true } := by
    intro job hd hp
    have hp' : (e.begunLedger t).pool.place t.number = .away := by
      rw [hpool]
      exact hp
    exact ⟨h.worked_of_same hpool hclosed (e.adds_begunLedger t) fun _ => hp, ⟨hd, hp'⟩,
      not_due_of_away hd hp' ha job⟩
  have hstaged := h.staged t ht
  rw [Staged] at hstaged
  cases hs with
  | drive hj hrun hnext =>
      rw [hj] at hstaged
      obtain ⟨request, hd, hs⟩ := hstaged
      have hran := h.run hs hrun
      obtain ⟨hstage, hdue⟩ := stage_of_ran hran hd ha hnext _
      exact ⟨worked_of_ran hran hd ha, ⟨request, hd, hstage⟩, hdue⟩
  | load hj hrun hnext =>
      rw [hj] at hstaged
      obtain ⟨hd, hs⟩ := hstaged
      have hran := h.run hs hrun
      obtain ⟨hstage, hdue⟩ := stage_of_ran hran hd ha hnext _
      exact ⟨worked_of_ran hran hd ha, ⟨hd, hstage⟩, hdue⟩
  | deliver hj hl =>
      rw [hj] at hstaged
      exact haway _ hstaged.1 hstaged.2
  | lost hj hl =>
      rw [hj] at hstaged
      exact haway _ hstaged.1 hstaged.2
  | clean hj =>
      rw [hj] at hstaged
      exact haway _ hstaged.1 hstaged.2

/-- The turn in which a task ends. -/
theorem Standing.ends (h : Standing size requests e) (ht : t ∈ e.tasks) (he : Ends e t l remains) :
    Worked requests e t l := by
  cases ha : t.aborted with
  | true =>
      -- nothing of it runs any more, so it may even have been given a slot that it never takes
      rw [he.ledger_eq ha]
      exact h.worked_of_same rfl rfl (.refl _ _) fun ha' => by cases ha.symm.trans ha'
  | false =>
      have hfinishes := he.finishes ha
      have hstaged := h.staged t ht
      obtain ⟨hpool, hclosed⟩ := e.pool_begunLedger t
      have haway : e.ledger.pool.place t.number = .away → Worked requests e t (e.begunLedger t) :=
        fun hp => h.worked_of_same hpool hclosed (e.adds_begunLedger t) fun _ => hp
      rw [Finishes] at hfinishes
      rw [Staged] at hstaged
      cases hj : t.job with
      | drive future work =>
          rw [hj] at hstaged hfinishes
          obtain ⟨request, hd, hs⟩ := hstaged
          obtain ⟨stopped, hrun, -⟩ := hfinishes
          exact worked_of_ran (h.run hs hrun) hd ha
      | load ticket work =>
          rw [hj] at hstaged hfinishes
          obtain ⟨stopped, hrun, -⟩ := hfinishes
          exact worked_of_ran (h.run hstaged.2 hrun) hstaged.1 ha
      | deliver future load =>
          rw [hj] at hstaged hfinishes
          rw [hfinishes.1]
          exact haway hstaged.2
      | clean due =>
          rw [hj] at hstaged hfinishes
          rw [hfinishes.1]
          exact haway hstaged.2

end Engine

end Courier
