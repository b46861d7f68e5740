import Courier.Proofs.Engine.Slots

/-!
# Shutdown — what comes after a client was closed

A client that is closed refuses every call (`refuses_of_closed`).  Of the dispatches under way it
lets go on only those that need no slot or hold one: every other is doomed (`Doomed`), and ends with
the failure that says so when its turn comes, without a call of the transport
(`Client.turned_down`); and whoever waits for a load that is doomed is told of it
(`Client.load_told`).  Nobody gets a slot any more, and the transport is closed once.  All this
together is `closed_for_good`.
-/

namespace Courier

open SlotPool Program

variable {α : Type}

namespace Engine

/-- **A DISPATCH THAT A CLOSED CLIENT STOPS**: it has not begun, or its request wants retries and it
    holds no slot. -/
structure Doomed (requests : List (Nat × Request)) (e : Engine α) (t : Task α) : Prop where
  mem : t ∈ e.tasks
  closed : e.ledger.closed = true
  stopped : ∃ r, (t.number, r) ∈ requests ∧ (t.begun = false ∨ r.hasRetryPolicy = true)
  slotless : t.number ∉ e.ledger.pool.holders

/-- A task ends, and its future gets this result, unless it was cancelled before. -/
def Settles (n future : Nat) (result : Outcome α) (e e' : Engine α) : Prop :=
  ¬ e'.Lives n ∧ ∃ c c', e.futures[future]? = some c ∧ e'.futures[future]? = some c' ∧
    ((c.state = .pending ∧ c'.state = .ready result) ∨ (c.state = .cancelled ∧ c' = c))

/-- A task ends, and the load it runs with this outcome. -/
def Lands (n load : Nat) (outcome : Outcome Response) (_ e' : Engine α) : Prop :=
  ¬ e'.Lives n ∧ e'.loads[load]? = some (.ended outcome)

/-- A dispatch ends because the client is closed. -/
def TurnedDown (t : Task α) (e e' : Engine α) : Prop :=
  match t.job with
  | .drive future _ => Settles t.number future (.error .closed) e e'
  | .load ticket _ => Lands t.number ticket.load (.error .closed) e e'
  | .deliver _ _ | .clean _ => False

/-- **A CLIENT REFUSES ALL CALLS**: whatever is asked, it gives a future that has failed already, and
    does nothing else. -/
def Refuses (e : Engine α) : Prop :=
  ∀ (request : Request) (handler : Handler α) (call : Engine α × Nat),
    call = e.execute request ∨ call = e.criticalExecute request ∨
      call = e.criticalExecuteWith request handler →
    call = ({ e with futures := e.futures ++ [.decided (.error .closed)] }, e.futures.length)

variable {e e' : Engine α} {t u : Task α} {l : Ledger} {remains : Remains α}
  {config : Config} {requests : List (Nat × Request)} {first second later : List (EngineEvent α)}
  {n future load : Nat}

theorem refuses_of_closed (hc : e.ledger.closed = true) : Refuses e := by
  have hcritical : ∀ request handler, e.criticalExecuteWith request handler
      = e.decidedFuture (.error .closed) := fun _ _ => if_pos hc
  rintro request handler call (rfl | rfl | rfl)
  · exact if_pos hc
  · exact hcritical request _
  · exact hcritical request handler

/-- **WHAT A CLIENT DOES AFTER IT WAS CLOSED**, from one state to a later one. -/
structure Shutdown (requests : List (Nat × Request)) (e e' : Engine α) : Prop where
  refuses : Refuses e'
  /-- Closing it again is nothing. -/
  again : e'.close = e'
  /-- The transport is closed once. -/
  transport : e'.ledger.notes.countP (fun x => decide (x.what = .transportClosed)) = 1
  line : e'.ledger.pool.waiting = []
  /-- Nobody takes a slot, and nobody is given one. -/
  slots : ∀ n, (n ∈ e'.ledger.pool.holders → n ∈ e.ledger.pool.holders) ∧
    (n ∈ e'.ledger.pool.granted → n ∈ e.ledger.pool.granted)
  /-- Only those call the transport that held a slot for their retries. -/
  calls : ∃ new, e'.ledger.notes = new ++ e.ledger.notes ∧ ∀ x ∈ new, x.what.isCall = true →
    ∃ n r, x.task = some n ∧ n ∈ e.ledger.pool.holders ∧ (n, r) ∈ requests ∧
      r.hasRetryPolicy = true
  /-- Those that are stopped call it never, before or after. -/
  silent : ∀ t, Doomed requests e t → ∀ x ∈ e'.ledger.notes, x.what.isCall = true →
    x.task ≠ some t.number

/-! ## The turn of a task that is stopped -/

/-- The future of a task that ends is decided by what the task leaves behind, or was cancelled. -/
theorem Standing.settles {size : Nat} (h : Standing size requests e) (ht : t ∈ e.tasks)
    (hj : t.job.future? = some future) {result : Outcome α} (he : Ends e t l remains)
    (hresult : t.aborted = false → remains = .future future result)
    (htasks : e'.tasks = e.tasks.filter (·.number != t.number))
    (hfutures : e'.futures = remains.futures e.futures) :
    Settles t.number future result e e' := by
  refine ⟨not_lives_of_left htasks, ?_⟩
  have hdrives := h.drives t ht
  rw [Drives, hj] at hdrives
  obtain ⟨c, hc, hcase⟩ := hdrives
  rw [hfutures]
  rcases hcase with ⟨hpending, -, ha⟩ | ⟨hcancelled, -⟩
  · rw [hresult ha]
    refine ⟨c, (c.complete result).1, hc, ?_, Or.inl ⟨hpending, ?_⟩⟩
    · show (e.futures.modify future fun c => (c.complete result).1)[future]? = _
      rw [List.getElem?_modify_eq, hc]
      rfl
    · rw [Completion.complete, hpending]
  · refine ⟨c, c, hc, h.futures_of_ends ht he hc fun hpending => ?_, Or.inr ⟨hcancelled, rfl⟩⟩
    cases hcancelled.symm.trans hpending

namespace Doomed

/-- Whoever is stopped is in the queue. -/
theorem ready {size : Nat} (hd : Doomed requests e t) (h : Standing size requests e) :
    t.number ∈ e.ready := by
  obtain ⟨r, hr, hstopped⟩ := hd.stopped
  refine h.prompt t hd.mem ?_
  rcases hstopped with hbegun | hretries
  · exact Or.inl hbegun
  · refine Or.inr (Or.inr ?_)
    cases hplace : e.ledger.pool.place t.number with
    | away => exact Or.inr ⟨rfl, r, hr, hretries⟩
    | waiting => exact absurd hplace (h.not_waiting hd.closed t.number)
    | given => exact Or.inl rfl
    | holding => exact absurd (place_eq_holding.mp hplace) hd.slotless

/-- A dispatch that is stopped comes to its end at once when it runs. -/
theorem declines {β : Type} {down : β → Prop} {request : Request} {stopped : Stopped β}
    (hd : Doomed requests e t) (ha : Asked requests t.number (some request))
    (hr : Ran down request t.begun t.number (e.begunLedger t) (l, stopped)) :
    ∃ v, stopped = .done v ∧ down v := by
  obtain ⟨r, hmem, hstopped⟩ := hd.stopped
  cases (ha r).mp hmem
  obtain ⟨hpool, hclosed⟩ := e.pool_begunLedger t
  obtain ⟨v, hv, hdown, -⟩ := hr.declines (hclosed.trans hd.closed) hstopped fun hholding => by
    rw [hpool] at hholding
    exact hd.slotless (place_eq_holding.mp hholding)
  exact ⟨v, hv, hdown⟩

/-- It does not go on. -/
theorem not_stays {size : Nat} {job : Job α} {loads : List LoadState} (hd : Doomed requests e t)
    (h : Standing size requests e) (hs : Stays e t l job loads) : False := by
  have hstaged := h.staged t hd.mem
  obtain ⟨r, hmem, -⟩ := hd.stopped
  rw [Staged] at hstaged
  -- it has a request, so it neither waits for a load nor cleans the cache
  cases hs with
  | drive hj hrun hnext =>
      rw [hj] at hstaged
      obtain ⟨request, ha, hstage⟩ := hstaged
      obtain ⟨v, rfl, -⟩ := hd.declines ha (h.run hstage hrun)
      cases hnext
  | load hj hrun hnext =>
      rw [hj] at hstaged
      obtain ⟨v, rfl, -⟩ := hd.declines hstaged.1 (h.run hstaged.2 hrun)
      cases hnext
  | deliver hj hl =>
      rw [hj] at hstaged
      cases (hstaged.1 r).mp hmem
  | lost hj hl =>
      rw [hj] at hstaged
      cases (hstaged.1 r).mp hmem
  | clean hj =>
      rw [hj] at hstaged
      cases (hstaged.1 r).mp hmem

/-- It ends with the failure that says that the client is closed. -/
theorem turnedDown {size : Nat} (hd : Doomed requests e t) (h : Standing size requests e)
    (he : Ends e t l remains) (htasks : e'.tasks = e.tasks.filter (·.number != t.number))
    (hfutures : e'.futures = remains.futures e.futures)
    (hloads : e'.loads = remains.loads e.loads) (hlt : ∀ ticket work, t.job = .load ticket work →
      ticket.load < e.loads.length) : TurnedDown t e e' := by
  have hstaged := h.staged t hd.mem
  obtain ⟨r, hmem, -⟩ := hd.stopped
  rw [Staged] at hstaged
  rw [TurnedDown]
  cases hj : t.job with
  | drive future work =>
      rw [hj] at hstaged
      obtain ⟨request, hasked, hstage⟩ := hstaged
      refine h.settles hd.mem (by rw [hj]; rfl) he (fun ha => ?_) htasks hfutures
      have hfinishes := he.finishes ha
      rw [Finishes, hj] at hfinishes
      obtain ⟨stopped, hrun, hend⟩ := hfinishes
      obtain ⟨v, rfl, hdown⟩ := hd.declines hasked (h.run hstage hrun)
      rcases hend with ⟨v', hv, hremains⟩ | ⟨text, hpanic, -⟩
      · cases hv
        rw [hremains, hdown]
      · cases hpanic
  | load ticket work =>
      rw [hj] at hstaged
      have ha := h.drives t hd.mem
      rw [Drives, hj] at ha
      have hfinishes := he.finishes ha
      rw [Finishes, hj] at hfinishes
      obtain ⟨stopped, hrun, hend⟩ := hfinishes
      obtain ⟨v, rfl, hdown⟩ := hd.declines hstaged.1 (h.run hstaged.2 hrun)
      refine ⟨not_lives_of_left htasks, ?_⟩
      rcases hend with ⟨v', hv, hremains⟩ | ⟨text, hpanic, -⟩
      · cases hv
        rw [hloads, hremains, hdown]
        exact List.getElem?_set_self (hlt ticket work hj)
      · cases hpanic
  | deliver future load =>
      rw [hj] at hstaged
      cases (hstaged.1 r).mp hmem
  | clean due =>
      rw [hj] at hstaged
      cases (hstaged.1 r).mp hmem

/-- Whoever is stopped stays so as long as it has not had its turn. -/
theorem onward {requests' : List (Nat × Request)} (hd : Doomed requests e t) (h : Onward e e')
    (hsub : requests ⊆ requests') (hu : u ∈ e'.tasks) (hnumber : u.number = t.number)
    (hbegun : u.begun = t.begun) : Doomed requests' e' u := by
  obtain ⟨r, hr, hstopped⟩ := hd.stopped
  refine ⟨hu, h.closed hd.closed, ⟨r, hsub (hnumber ▸ hr), hbegun ▸ hstopped⟩, ?_⟩
  intro hholds
  rw [hnumber] at hholds
  have hplace := ((h.shut hd.closed t.number).1 (place_eq_holding.mpr hholds))
  exact hd.slotless (place_eq_holding.mp hplace)

/-- In its turn, whoever is stopped is turned down. -/
theorem own_turn (hd : Doomed requests e t) (h : Client config requests e)
    (ht : Turn e t.number e') : TurnedDown t e e' := by
  rcases ht.own h.standing.numbers hd.mem (hd.ready h.standing) with
    ⟨-, l, job, loads, hs, -⟩ | ⟨l, remains, he, hrests⟩
  · exact (hd.not_stays h.standing hs).elim
  · refine hd.turnedDown h.standing he hrests.tasks hrests.futures hrests.loads ?_
    intro ticket work hj
    obtain ⟨waiting, hrunning⟩ := h.recorded.running hd.mem hj
    exact (List.getElem?_eq_some_iff.mp hrunning).1

/-- In the turns of others it stays stopped. -/
theorem other_turn (hd : Doomed requests e t) (h : Client config requests e) {m : Nat}
    (ht : Turn e m e') (hne : m ≠ t.number) : Doomed requests e' t :=
  hd.onward (h.standing.onward_turn ht) (List.Subset.refl _) (ht.keeps hd.mem (Ne.symm hne)) rfl rfl

/-- Between turns, whoever is stopped stays so. -/
theorem act {size : Nat} {asked : Option Request} (hd : Doomed requests e t)
    (h : Standing size requests e) (ha : Act e asked e') :
    ∃ u, Doomed (requests ++ (asked.map (e.spawned, ·)).toList) e' u ∧ u.number = t.number ∧
      u.job = t.job := by
  obtain ⟨u, hu, hnumber, hjob, hbegun, -⟩ := ha.keeps hd.mem
  exact ⟨u, hd.onward (h.onward_act ha) (List.subset_append_left _ _) hu hnumber hbegun, hnumber,
    hjob⟩

end Doomed

/-! ## What comes of those who are stopped -/

/-- **A DISPATCH THAT IS STOPPED IS TURNED DOWN** when its turn comes. -/
theorem Client.turned_down (h : Client config requests e) (hd : Doomed requests e t)
    (hc : OfClient later) (hl : .turn t.number ∈ later) :
    Comes t.number e later (TurnedDown t) := by
  refine (h.comes_in_turn (P := fun requests x => ∃ u, Doomed requests x u ∧
    u.number = t.number ∧ u.job = t.job) ?act ?other ?own ⟨t, hd, rfl, rfl⟩ (hd.ready h.standing)
    hc).resolve_right fun hlast => hlast.2 hl
  case act =>
    rintro requests x asked x' hx ha ⟨u, hu, hnumber, hjob⟩
    obtain ⟨v, hv, hvn, hvj⟩ := hu.act hx ha
    exact ⟨v, hv, hvn.trans hnumber, hvj.trans hjob⟩
  case other =>
    rintro requests x m x' hx hturn hne ⟨u, hu, hnumber, hjob⟩
    exact ⟨u, hu.other_turn hx hturn (hnumber ▸ hne), hnumber, hjob⟩
  case own =>
    rintro requests x x' hx hturn - ⟨u, hu, hnumber, hjob⟩
    have hdown := hu.own_turn hx (hnumber ▸ hturn)
    rw [TurnedDown, hnumber, hjob] at hdown
    exact hdown

/-- **IT NEVER CALLS THE TRANSPORT**, before or after. -/
theorem Client.never_called (h : Client config requests e) (hd : Doomed requests e t)
    (hc : OfClient later) : ∀ x ∈ (e.steps later).ledger.notes, x.what.isCall = true →
      x.task ≠ some t.number := by
  intro x hx hcall htask
  rcases ((h.onward hc).calls hd.closed).mem hx hcall with hx | ⟨n, hn, hholding⟩
  · obtain ⟨n, hn, -, hcalled⟩ := h.standing.calls x hx hcall
    cases htask.symm.trans hn
    obtain ⟨r, hr, hstopped⟩ := hd.stopped
    have ht := hcalled t hd.mem rfl
    rcases hstopped with hbegun | hretries
    · cases hbegun.symm.trans ht.begun
    · exact hd.slotless (place_eq_holding.mp (ht.holds r hr hretries))
  · cases htask.symm.trans hn
    exact hd.slotless (place_eq_holding.mp hholding)

theorem closed_of_mem (h : Client config requests e) (hc : OfClient later)
    (hclose : .close ∈ later) : (e.steps later).ledger.closed = true := by
  obtain ⟨before, after, rfl⟩ := List.append_of_mem hclose
  have hbefore := h.steps fun ev hev => hc ev (List.mem_append_left _ hev)
  have hclient : (EngineEvent.close : EngineEvent α).isClient = true := rfl
  rw [steps_append]
  refine ((hbefore.step hclient).onward fun ev hev => ?_).closed (closed_close _)
  exact hc ev (List.mem_append_right _ (List.mem_cons_of_mem _ hev))

theorem Client.shutdown (h : Client config requests e) (hclosed : e.ledger.closed = true)
    (hc : OfClient later) : Shutdown requests e (e.steps later) := by
  have honward := h.onward hc
  have hlater := (h.steps hc).standing
  have hclosed' := honward.closed hclosed
  refine
    { refuses := refuses_of_closed hclosed'
      again := close_of_closed _ hclosed'
      transport := ?transport
      line := hlater.pool.shut (hlater.closed.trans hclosed')
      slots := ?slots
      calls := ?calls
      silent := fun t hd => h.never_called hd hc }
  case transport =>
    rw [hlater.shut, hclosed', if_pos rfl]
  case slots =>
    intro n
    obtain ⟨hholding, hgiven⟩ := honward.shut hclosed n
    rw [← place_eq_holding, ← place_eq_holding, ← hlater.pool.place_eq_given,
      ← h.standing.pool.place_eq_given]
    exact ⟨hholding, hgiven⟩
  case calls =>
    obtain ⟨new, hnotes, hnew⟩ := honward.calls hclosed
    refine ⟨new, hnotes, fun x hx hcall => ?_⟩
    obtain ⟨n, hn, hholding⟩ := (hnew x hx).2 hcall
    have hmem := place_eq_holding.mp hholding
    obtain ⟨-, r, hr, hretries⟩ := h.standing.spread.underway n
      (List.mem_append_left _ (List.mem_append_left _ hmem))
    exact ⟨n, r, hn, hmem, hr, hretries⟩

/-! ## Those who wait for a load -/

/-- Whoever gives the outcome of a load to a future does so in its turn if the load has ended, and
    goes on to wait for it otherwise. -/
theorem Client.deliver_turn (h : Client config requests e) (hu : u ∈ e.tasks)
    (hj : u.job = .deliver future load) (ht : Turn e u.number e') (hready : u.number ∈ e.ready) :
    (∀ outcome, e.loads[load]? = some (.ended outcome) →
      Settles u.number future (e.sharedResult outcome) e e') ∧
    (∀ waiting, e.loads[load]? = some (.running waiting) →
      (∀ result, Settles u.number future result e e') ∨
        ∃ v ∈ e'.tasks, v.number = u.number ∧ v.job = .deliver future load) := by
  have hfuture : u.job.future? = some future := by
    rw [hj]
    rfl
  -- it ends only where it finds the load ended, and goes on only where it finds the load running
  rcases ht.own h.standing.numbers hu hready with
    ⟨-, l, job, loads, hs, hrests⟩ | ⟨l, remains, he, hrests⟩
  · have hmem : { u with job := job, begun := true } ∈ e'.tasks := by
      rw [hrests.tasks]
      exact List.mem_map.mpr ⟨u, hu, if_pos rfl⟩
    cases hs with
    | deliver hj' hl =>
        cases hj.symm.trans hj'
        refine ⟨fun outcome hended => ?_, fun _ _ => Or.inr ⟨_, hmem, rfl, rfl⟩⟩
        cases hl.symm.trans hended
    | lost hj' hl =>
        cases hj.symm.trans hj'
        refine ⟨fun outcome hended => ?_, fun _ _ => Or.inr ⟨_, hmem, rfl, rfl⟩⟩
        cases hl.symm.trans hended
    | drive hj' => cases hj.symm.trans hj'
    | load hj' => cases hj.symm.trans hj'
    | clean hj' => cases hj.symm.trans hj'
  · have hdelivered : u.aborted = false → ∃ outcome, e.loads[load]? = some (.ended outcome) ∧
        remains = .future future (e.sharedResult outcome) := by
      intro ha
      have hfinishes := he.finishes ha
      rw [Finishes, hj] at hfinishes
      exact hfinishes.2
    refine ⟨fun outcome hended => ?_, fun waiting hrunning => Or.inl fun result => ?_⟩
    · refine h.standing.settles hu hfuture he (fun ha => ?_) hrests.tasks hrests.futures
      obtain ⟨outcome', hended', hremains⟩ := hdelivered ha
      cases hended.symm.trans hended'
      exact hremains
    · refine h.standing.settles hu hfuture he (fun ha => ?_) hrests.tasks hrests.futures
      obtain ⟨outcome, hended, -⟩ := hdelivered ha
      cases hrunning.symm.trans hended

/-- A task that gives the outcome of a load to a future. -/
def Delivers (m future load : Nat) (e : Engine α) : Prop :=
  ∃ u ∈ e.tasks, u.number = m ∧ u.job = .deliver future load

variable {m : Nat}

theorem Delivers.act {asked : Option Request} (h : Delivers m future load e) (ha : Act e asked e') :
    Delivers m future load e' := by
  obtain ⟨u, hu, hnumber, hj⟩ := h
  obtain ⟨v, hv, hvn, hvj, -⟩ := ha.keeps hu
  exact ⟨v, hv, hvn.trans hnumber, hvj.trans hj⟩

/-- Who waits is ready when the load has ended. -/
theorem Client.ready_of_ended (h : Client config requests e) (hd : Delivers m future load e)
    {outcome : Outcome Response} (hl : e.loads[load]? = some (.ended outcome)) : m ∈ e.ready := by
  obtain ⟨u, hu, rfl, hj⟩ := hd
  refine (h.awaited u hu future load hj).2.resolve_right fun hwaits => ?_
  obtain ⟨waiting, hrunning, -⟩ := mem_waiters.mp hwaits
  cases hl.symm.trans hrunning

/-- Whoever waits for a load that has ended with a failure is told of it in its turn. -/
theorem Client.told_of_ended (h : Client config requests e) (hd : Delivers m future load e)
    {f : Failure} (hl : e.loads[load]? = some (.ended (.error f))) (hc : OfClient later) :
    Comes m e later (Settles m future (.error (.sharedLoad f))) ∨
      ((Delivers m future load (e.steps later) ∧
        (e.steps later).loads[load]? = some (.ended (.error f))) ∧ .turn m ∉ later) := by
  refine h.comes_in_turn (P := fun _ x => Delivers m future load x ∧
    x.loads[load]? = some (.ended (.error f))) ?act ?other ?own ⟨hd, hl⟩ (h.ready_of_ended hd hl) hc
  case act =>
    rintro requests x asked x' - ha ⟨hdelivers, hended⟩
    obtain ⟨more, hmore⟩ := ha.loads
    refine ⟨hdelivers.act ha, ?_⟩
    rw [hmore, List.getElem?_append_left (List.getElem?_eq_some_iff.mp hended).1]
    exact hended
  case other =>
    rintro requests x n x' hx hturn hne ⟨⟨u, hu, rfl, hj⟩, hended⟩
    exact ⟨⟨u, hturn.keeps hu (Ne.symm hne), rfl, hj⟩, hx.recorded.ended hturn hended⟩
  case own =>
    rintro requests x x' hx hturn hready ⟨⟨u, hu, rfl, hj⟩, hended⟩
    exact (hx.deliver_turn hu hj hturn hready).1 _ hended

/-- **WHOEVER WAITS FOR A LOAD THAT IS STOPPED IS TOLD OF IT**, once the load has had its turn and
    then who waits. -/
theorem Client.load_told (h : Client config requests e) (hd : Doomed requests e t)
    {ticket : Ticket} {work : Program (Outcome Response × Duration)} (hj : t.job = .load ticket work)
    (hw : Delivers m future ticket.load e) (hc₁ : OfClient first) (hc₂ : OfClient second)
    (hl₁ : .turn t.number ∈ first) (hl₂ : .turn m ∈ second) :
    Comes m e (first ++ second) (Settles m future (.error (.sharedLoad .closed))) := by
  -- until the load has had its turn, whoever waits for it goes on to wait, or was cancelled
  have hload := (h.comes (Q := fun n x x' =>
      (n = m ∧ Settles m future (.error (.sharedLoad .closed)) x x') ∨
        (n = t.number ∧ Delivers m future ticket.load x' ∧
          x'.loads[ticket.load]? = some (.ended (.error .closed))))
    (P := fun requests x => Delivers m future ticket.load x ∧
      ∃ u, Doomed requests x u ∧ u.number = t.number ∧ u.job = t.job)
    ?act ?turn ⟨hw, t, hd, rfl, rfl⟩ (hd.ready h.standing) hc₁).resolve_right
      fun hlast => hlast.2 hl₁
  case act =>
    rintro requests x asked x' hx ha ⟨hdelivers, u, hu, hnumber, hjob⟩
    obtain ⟨v, hv, hvn, hvj⟩ := hu.act hx ha
    exact ⟨hdelivers.act ha, v, hv, hvn.trans hnumber, hvj.trans hjob⟩
  case turn =>
    rintro requests x n x' hx hturn - ⟨⟨w, hmem, rfl, hwj⟩, u, hu, hnumber, hjob⟩
    have hne : w.number ≠ u.number := by
      intro heq
      cases List.inj_on_of_nodup_map hx.standing.numbers hmem hu.mem heq
      cases hwj.symm.trans (hjob.trans hj)
    by_cases hload : n = u.number
    · subst hload
      have hdown := hu.own_turn hx hturn
      rw [TurnedDown, hjob, hj] at hdown
      exact Or.inl (Or.inr ⟨hnumber, ⟨w, hturn.keeps hmem hne, rfl, hwj⟩, hdown.2⟩)
    have hu' := hu.other_turn hx hturn hload
    rw [hnumber] at hload
    by_cases hown : n = w.number
    · subst hown
      by_cases hready : w.number ∈ x.ready
      · obtain ⟨waiting, hrunning⟩ := hx.recorded.running hu.mem (hjob.trans hj)
        rcases (hx.deliver_turn hmem hwj hturn hready).2 waiting hrunning with hsettles | hwaits
        · exact Or.inl (Or.inl ⟨rfl, hsettles _⟩)
        · exact Or.inr ⟨hload, hwaits, u, hu', hnumber, hjob⟩
      · have hmem' := hturn.keeps_of_not_ready hready hmem
        exact Or.inr ⟨hload, ⟨w, hmem', rfl, hwj⟩, u, hu', hnumber, hjob⟩
    · exact Or.inr ⟨hload, ⟨w, hturn.keeps hmem (Ne.symm hown), rfl, hwj⟩, u, hu', hnumber, hjob⟩
  obtain ⟨n, before, after, rfl, ⟨rfl, hsettles⟩ | ⟨rfl, hdelivers, hended⟩⟩ := hload
  · exact Comes.append ⟨before, after, rfl, hsettles⟩ second
  have hfirst : before ++ .turn t.number :: after = (before ++ [.turn t.number]) ++ after := by simp
  have hturned : (e.steps before).turn t.number = e.steps (before ++ [.turn t.number]) := by
    rw [steps_append]
    rfl
  rw [hturned] at hdelivers hended
  rw [hfirst] at hc₁ ⊢
  have hc' : OfClient (before ++ [.turn t.number]) :=
    fun ev hev => hc₁ ev (List.mem_append_left _ hev)
  rcases (h.steps hc').told_of_ended hdelivers hended
    (fun ev hev => hc₁ ev (List.mem_append_right _ hev)) with
    hcomes | ⟨⟨hdelivers', hended'⟩, -⟩
  · exact hcomes.prepend.append second
  · rw [← steps_append] at hdelivers' hended'
    refine Comes.prepend (((h.steps hc₁).told_of_ended hdelivers' hended' hc₂).resolve_right ?_)
    exact fun hlast => hlast.2 hl₂

/-- **A CLIENT THAT WAS CLOSED IS CLOSED FOR GOOD**, whatever calls, turns, cancels and closes come
    before and after.  It refuses all calls, gives no slot away, closes the transport once, and
    leaves calls of the transport to those that hold a slot; whoever has not begun, or wants retries
    and holds no slot, ends with the failure that says so when its turn comes; and those who wait for
    such a load are told of it.  That a dispatch calls nobody once it is turned down holds in every
    conversation, so it does not matter when in its course the client is closed. -/
theorem closed_for_good {hasEngine : Bool} {parts : Parts} {present : Response → α} {epoch : Int}
    {e₀ : Engine α} {events : List (EngineEvent α)}
    (h : ofConfig config hasEngine parts present epoch = .ok e₀) (hc : OfClient events)
    (hclose : .close ∈ events) :
    (∀ later, OfClient later →
      Shutdown (e₀.dispatches events) (e₀.steps events) ((e₀.steps events).steps later)) ∧
    (∀ t later, Doomed (e₀.dispatches events) (e₀.steps events) t → OfClient later →
      .turn t.number ∈ later → Comes t.number (e₀.steps events) later (TurnedDown t)) ∧
    (∀ t ticket work m future first second,
      Doomed (e₀.dispatches events) (e₀.steps events) t → t.job = .load ticket work →
      Delivers m future ticket.load (e₀.steps events) → OfClient first → OfClient second →
      .turn t.number ∈ first → .turn m ∈ second →
      Comes m (e₀.steps events) (first ++ second)
        (Settles m future (.error (.sharedLoad .closed)))) ∧
    ∀ (request : Request) (handler : Handler α) (talk : List Deed) (q : Program (Outcome α)),
      (dispatch request handler).Goes talk q → .checked true ∈ talk ∨ .slot false ∈ talk →
      callsOf talk = [] ∧ q = .done (.error .closed) := by
  have hopened := client_ofConfig h
  have hclient := hopened.steps hc
  have hclosed := closed_of_mem hopened hc hclose
  refine ⟨fun later hl => hclient.shutdown hclosed hl, ?_, ?_, ?_⟩
  · exact fun t later hd hl hturns => hclient.turned_down hd hl hturns
  · exact fun t ticket work m future first second hd hj hw hc₁ hc₂ hl₁ hl₂ =>
      hclient.load_told hd hj hw hc₁ hc₂ hl₁ hl₂
  · exact fun request handler talk q hgoes ht => (Gates.of_goes hgoes).turnedDown ht

/-- A request that goes through the cache. -/
def fetch : Request :=
  { (default : Request) with method := "GET" }

/-- The client with one slot is closed while one rival has it and the other waits, and a load has not
    begun for which someone waits. -/
def interrupted : List (EngineEvent Response) :=
  rivals ++ [.execute fetch, .close]

/-- The rival that waits is turned down, and who waits for the load is told of it. -/
theorem closed_for_good_of_interrupted :
    ofConfig narrow true Retry.wavering id 0 = .ok narrowEngine ∧ OfClient interrupted ∧
    .close ∈ interrupted ∧
    (narrowEngine.steps interrupted).ledger.pool = ⟨0, [1], [], [], true⟩ ∧
    Shutdown (narrowEngine.dispatches interrupted) (narrowEngine.steps interrupted)
      ((narrowEngine.steps interrupted).steps [.turn 3, .close, .turn 2]) ∧
    (∃ t : Task Response, t.number = 2 ∧
      Comes 2 (narrowEngine.steps interrupted) [.turn 3, .turn 2] (TurnedDown t)) ∧
    Comes 4 (narrowEngine.steps interrupted) ([.turn 3, .turn 2] ++ [.turn 4])
      (Settles 4 2 (.error (.sharedLoad .closed))) := by
  have hc : OfClient interrupted := by simp [OfClient, interrupted, rivals, EngineEvent.isClient]
  have hclose : .close ∈ interrupted := by simp [interrupted]
  have hl : OfClient ([.turn 3, .close, .turn 2] : List (EngineEvent Response)) := by
    simp [OfClient, EngineEvent.isClient]
  have hturns : OfClient ([.turn 3, .turn 2] : List (EngineEvent Response)) := by
    simp [OfClient, EngineEvent.isClient]
  have hlast : OfClient ([.turn 4] : List (EngineEvent Response)) := by
    simp [OfClient, EngineEvent.isClient]
  have hdoomed : ∀ t ∈ (narrowEngine.steps interrupted).tasks, t.number = 2 ∨ t.number = 3 →
      Doomed (narrowEngine.dispatches interrupted) (narrowEngine.steps interrupted) t := by
    have hrequests : narrowEngine.dispatches interrupted
        = [(1, Retry.stubborn), (2, Retry.stubborn), (3, fetch)] := by decide +kernel
    have hfresh : ∀ t ∈ (narrowEngine.steps interrupted).tasks, t.number = 3 →
        t.begun = false := by decide +kernel
    have hholders : (narrowEngine.steps interrupted).ledger.pool.holders = [1] := by
      decide +kernel
    rintro t ht (hnumber | hnumber)
    · refine ⟨ht, by decide +kernel, ⟨Retry.stubborn, ?_, Or.inr rfl⟩, ?_⟩
      · simp [hrequests, hnumber]
      · simp [hholders, hnumber]
    · refine ⟨ht, by decide +kernel, ⟨fetch, ?_, Or.inl (hfresh t ht hnumber)⟩, ?_⟩
      · simp [hrequests, hnumber]
      · simp [hholders, hnumber]
  obtain ⟨hshut, hdown, htold, -⟩ := closed_for_good ofConfig_narrow hc hclose
  refine ⟨ofConfig_narrow, hc, hclose, by decide +kernel, hshut _ hl, ?_, ?_⟩
  · obtain ⟨t, ht, hnumber⟩ : ∃ t ∈ (narrowEngine.steps interrupted).tasks, t.number = 2 := by
      decide +kernel
    have hcomes := hdown t _ (hdoomed t ht (Or.inl hnumber)) hturns (by simp [hnumber])
    rw [hnumber] at hcomes
    exact ⟨t, hnumber, hcomes⟩
  · -- the load is number 0, which task 3 runs and task 4 waits for
    obtain ⟨t, ht, hnumber, hload, hnone⟩ : ∃ t ∈ (narrowEngine.steps interrupted).tasks,
        t.number = 3 ∧ t.job.load? = some 0 ∧ t.job.future? = none := by decide +kernel
    obtain ⟨u, hu, hwaits, hload', hfuture⟩ : ∃ u ∈ (narrowEngine.steps interrupted).tasks,
        u.number = 4 ∧ u.job.load? = some 0 ∧ u.job.future? = some 2 := by decide +kernel
    obtain ⟨ticket, work, hj, hticket⟩ := Job.eq_load hload hnone
    refine htold t ticket work 4 2 _ _ (hdoomed t ht (Or.inr hnumber)) hj ⟨u, hu, hwaits, ?_⟩
      hturns hlast (by simp [hnumber]) (by simp)
    rw [hticket]
    exact Job.eq_deliver hload' hfuture

end Engine

end Courier
