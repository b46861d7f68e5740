import Courier.Proofs.Program.Vouching

/-!
# Dockets — what is noted of a task that vouches for its records

A docket says how far a task is with its attempts.  What is noted of the task is that docket
(`Docket.Noted`): the steps of the attempts that have finished, and of the call that it is inside.
A program that vouches for its records, and runs, goes on with the docket up to where it stops, and
keeps the books in order (`Program.Vouches.run`).
-/

namespace Courier

variable {β : Type}

namespace Docket

/-- The calls that were made, each with the calls before it. -/
def made (d : Docket) : List (Call × List Call) :=
  d.cases.map (fun c => (c.call, c.earlier)) ++ d.call?.toList

/-- **WHAT A LEDGER HAS OF A TASK IS ITS DOCKET**, and every record of it is the right one.  A task
that lives is inside the call that the docket says; of one that has ended that call was cut off. -/
structure Noted (transport : Transport) (errand : Errand) (n : Nat) (l : Ledger) (lives : Prop)
    (d : Docket) : Prop where
  steps : l.stepsOf n = d.steps
  made : ∀ x ∈ d.made, ∃ later, l.calls = later ++ x.1 :: x.2
  asked : ∀ x, d.call? = some x → x.1.request = errand.request
  chained : Case.Chained transport errand d.cases
  running : lives → l.inside n = d.inside ∧ l.cutsOf n = []
  ended : ¬ lives → l.inside n = none ∧ l.cutsOf n = d.inside.toList

variable {parts : Parts} {transport : Transport} {errand : Errand} {n : Nat} {l l' : Ledger}
  {lives lives' : Prop} {d : Docket} {cases : List Case} {own : Call} {earlier : List Call}
  {heard : Past} {outcome : Outcome Response}

/-- What is noted of a task that lives. -/
theorem Noted.of_lives (steps : l.stepsOf n = d.steps)
    (made : ∀ x ∈ d.made, ∃ later, l.calls = later ++ x.1 :: x.2)
    (asked : ∀ x, d.call? = some x → x.1.request = errand.request)
    (chained : Case.Chained transport errand d.cases) (inside : l.inside n = d.inside)
    (uncut : l.cutsOf n = []) : Noted transport errand n l True d :=
  ⟨steps, made, asked, chained, fun _ => ⟨inside, uncut⟩, fun h => absurd trivial h⟩

/-- Nothing was noted of a task that has not begun. -/
theorem noted_unborn (steps : l.stepsOf n = []) (inside : l.inside n = none)
    (uncut : l.cutsOf n = []) : Noted transport errand n l True (.between []) := by
  refine .of_lives steps (fun _ hx => nomatch hx) (fun _ hx => nomatch hx) ?_ inside uncut
  intro i c hc
  rw [Docket.cases, List.getElem?_nil] at hc
  cases hc

/-- The docket of a task depends on its own steps alone, and on the calls, which only grow. -/
theorem Noted.congr (h : Noted transport errand n l lives d) (hsteps : l'.stepsOf n = l.stepsOf n)
    (hinside : l'.inside n = l.inside n) (hcuts : l'.cutsOf n = l.cutsOf n) (hgrows : l.Grows l') :
    Noted transport errand n l' lives d := by
  obtain ⟨more, hmore⟩ := hgrows
  refine
    { steps := hsteps.trans h.steps
      made := ?made
      asked := h.asked
      chained := h.chained
      running := fun hl => ⟨hinside.trans (h.running hl).1, hcuts.trans (h.running hl).2⟩
      ended := fun hl => ⟨hinside.trans (h.ended hl).1, hcuts.trans (h.ended hl).2⟩ }
  case made =>
    intro x hx
    obtain ⟨later, hlater⟩ := h.made x hx
    exact ⟨more ++ later, by rw [hmore, hlater, List.append_assoc]⟩

theorem Noted.jots (h : Noted transport errand n l lives d) {m : Option Nat} (hj : l.Jots m l') :
    Noted transport errand n l' lives d :=
  have hown := hj.own n
  h.congr hown.1 hown.2.2 hown.2.1 ⟨[], hj.calls⟩

theorem Noted.spares (h : Noted transport errand n l lives d) (hs : l.Spares n l')
    (hgrows : l.Grows l') : Noted transport errand n l' lives d :=
  h.congr hs.steps hs.inside (by rw [Ledger.cutsOf, Ledger.cutsOf, hs.notes]) hgrows

theorem Noted.of_iff (h : Noted transport errand n l lives d) (hiff : lives' ↔ lives) :
    Noted transport errand n l lives' d := by
  rw [propext hiff]
  exact h

theorem notesOf_mark (l : Ledger) (n : Nat) (what : Happening) :
    (l.mark (some n) what).notesOf n = ⟨l.elapsed, some n, what⟩ :: l.notesOf n :=
  List.filter_cons_of_pos (by simp)

/-- No step of an attempt cuts a call off. -/
theorem cutsOf_mark (l : Ledger) (n : Nat) {what : Happening} (h : what.isStep = true) :
    (l.mark (some n) what).cutsOf n = l.cutsOf n := by
  rw [Ledger.cutsOf, notesOf_mark]
  refine List.filterMap_cons_none ?_
  cases what with
  | called | answered | recorded => rfl
  | _ => cases h

/-- A call is made. -/
theorem Noted.call (h : Noted parts.transport errand n l True (.between cases)) :
    Noted parts.transport errand n (l.call parts n errand.request).1 True
      (.calling cases (l.nextCall errand.request) l.calls) := by
  refine .of_lives ?_ ?_ ?_ h.chained List.lookup_cons_self
    ((cutsOf_mark _ n rfl).trans (h.running trivial).2)
  · refine (Booked.stepsOf_mark _ n _).trans ?_
    exact congrArg (· ++ [Happening.called (l.nextCall errand.request)]) h.steps
  · intro x hx
    rcases List.mem_append.mp hx with hx | hx
    · obtain ⟨later, hlater⟩ := h.made x (List.mem_append_left _ hx)
      exact ⟨l.nextCall errand.request :: later,
        congrArg (l.nextCall errand.request :: ·) hlater⟩
    · cases List.mem_singleton.mp hx
      exact ⟨[], rfl⟩
  · rintro x hx
    cases hx
    rfl

/-- A call is answered. -/
theorem Noted.answered (h : Noted transport errand n l True (.calling cases own earlier))
    (heard : Past) (outcome : Outcome Response) :
    Noted transport errand n (l.answered n) True (.owing cases own earlier heard outcome) := by
  obtain ⟨hinside, huncut⟩ := h.running trivial
  have hlookup : l.running.lookup n = some own.number := hinside
  rw [Ledger.answered, hlookup]
  refine .of_lives ?_ h.made h.asked h.chained (Ledger.lookup_forgotten n l.running)
    ((cutsOf_mark _ n rfl).trans huncut)
  refine (Booked.stepsOf_mark _ n _).trans ?_
  refine (congrArg (· ++ [Happening.answered own.number]) h.steps).trans ?_
  rw [Docket.steps, Docket.steps, List.append_assoc]
  rfl

/-- A record is handed over, and it is the right one. -/
theorem Noted.record (h : Noted transport errand n l True (.owing cases own earlier heard outcome))
    (parts : Parts) {r : Record} (hsound : Case.Sound transport errand
      cases.getLast? ⟨own, earlier, heard, outcome, r⟩) :
    Noted transport errand n (l.record parts n r).1 True
      (.between (cases ++ [⟨own, earlier, heard, outcome, r⟩])) := by
  have hrecorded : Noted transport errand n
      (Ledger.mark { l with records := r :: l.records } (some n) (.recorded r)) True
      (.between (cases ++ [⟨own, earlier, heard, outcome, r⟩])) := by
    refine .of_lives ?_ (fun x hx => h.made x ?_) (fun _ hx => nomatch hx)
      (h.chained.concat hsound) (h.running trivial).1
      ((cutsOf_mark _ n rfl).trans (h.running trivial).2)
    · refine (Booked.stepsOf_mark _ n _).trans ?_
      refine (congrArg (· ++ [Happening.recorded r]) h.steps).trans ?_
      rw [Docket.steps, Docket.steps, List.append_assoc, List.flatMap_append]
      rfl
    · simpa [Docket.made, Docket.cases, Docket.call?] using hx
  rw [Ledger.record]
  dsimp only
  split
  · exact hrecorded.jots (Ledger.Jots.mark _ (Or.inr rfl) rfl)
  · exact hrecorded

/-- A task that ends is cut off where it is. -/
theorem Noted.cut (h : Noted transport errand n l True d) :
    Noted transport errand n (l.cut n) False d := by
  obtain ⟨hinside, huncut⟩ := h.running trivial
  obtain ⟨hnotes, hnone⟩ := l.notesOf_cut n
  have hcuts : (l.cut n).cutsOf n = d.inside.toList := by
    rw [Ledger.cutsOf, hnotes, List.filterMap_append, ← hinside]
    refine (congrArg (_ ++ ·) huncut).trans ?_
    cases l.inside n <;> rfl
  have hsteps : (l.cut n).stepsOf n = l.stepsOf n := by
    rw [Ledger.stepsOf, hnotes, List.reverse_append, List.map_append, List.filter_append]
    cases l.inside n <;> exact List.append_nil _
  exact
    { steps := hsteps.trans h.steps
      made := fun x hx => (l.calls_cut n).symm ▸ h.made x hx
      asked := h.asked
      chained := h.chained
      running := False.elim
      ended := fun _ => ⟨hnone, hcuts⟩ }

/-- What is noted of the attempts tells which calls were made. -/
theorem called_mem_steps {call : Call} :
    Happening.called call ∈ d.steps ↔ ∃ earlier, (call, earlier) ∈ d.made := by
  have hcases : ∀ cases : List Case, Happening.called call ∈ cases.flatMap Case.steps ↔
      ∃ earlier, (call, earlier) ∈ cases.map fun c => (c.call, c.earlier) := by
    simp [Case.steps, eq_comm]
  cases d with
  | between cases =>
      rw [Docket.steps, hcases]
      simp [Docket.made, Docket.cases, Docket.call?]
  | calling cases own earlier =>
      rw [Docket.steps, List.mem_append, hcases]
      simp [Docket.made, Docket.cases, Docket.call?, exists_or]
  | owing cases own earlier heard outcome =>
      rw [Docket.steps, List.mem_append, hcases]
      simp [Docket.made, Docket.cases, Docket.call?, exists_or]

/-- The calls of a task are those of its docket. -/
theorem Noted.mem_callsOf (h : Noted transport errand n l lives d) {call : Call} :
    call ∈ l.callsOf n ↔ ∃ earlier, (call, earlier) ∈ d.made := by
  rw [← called_mem_steps, ← h.steps, Ledger.mem_callsOf]
  constructor
  · rintro ⟨x, hx, hn, hcall⟩
    have hwhat : x.what = .called call := by
      rw [Note.call?] at hcall
      split at hcall
      · rename_i hwhat
        exact hwhat.trans (congrArg Happening.called (Option.some.inj hcall))
      · cases hcall
    have hentry : x.what.isEntry = true := by rw [hwhat]; rfl
    rcases Ledger.step_or_cut_of_entry hx hn hentry with hstep | ⟨number, -, hcut⟩
    · rwa [hwhat] at hstep
    · cases hwhat.symm.trans hcut
  · intro hstep
    obtain ⟨x, hx, hwhat⟩ := List.mem_map.mp (List.mem_of_mem_filter hstep)
    obtain ⟨hmem, hn⟩ := List.mem_filter.mp (List.mem_reverse.mp hx)
    exact ⟨x, hmem, by simpa using hn, by rw [Note.call?, hwhat]⟩

/-- A task calls for what there is to do. -/
theorem Noted.request_of_mem (h : Noted transport errand n l lives d) {call : Call}
    (hcall : call ∈ l.callsOf n) : call.request = errand.request := by
  obtain ⟨earlier, hmade⟩ := h.mem_callsOf.mp hcall
  rcases List.mem_append.mp hmade with hcase | hlast
  · obtain ⟨c, hc, heq⟩ := List.mem_map.mp hcase
    cases heq
    obtain ⟨i, hi⟩ := List.getElem?_of_mem hc
    exact (h.chained i c hi).request
  · exact h.asked _ (Option.mem_toList.mp hlast)

/-- A task that has called has calls. -/
theorem Noted.callsOf_ne_nil (h : Noted transport errand n l lives d)
    (hcalled : d.hasCalled = true) : l.callsOf n ≠ [] := by
  have hmade : ∃ call earlier, (call, earlier) ∈ d.made := by
    cases d with
    | between cases =>
        cases cases with
        | nil => cases hcalled
        | cons c rest => exact ⟨c.call, c.earlier, List.mem_cons_self⟩
    | calling cases own earlier => exact ⟨own, earlier, by simp [Docket.made, Docket.call?]⟩
    | owing cases own earlier heard outcome =>
        exact ⟨own, earlier, by simp [Docket.made, Docket.call?]⟩
  obtain ⟨call, hcall⟩ := hmade
  exact List.ne_nil_of_mem (h.mem_callsOf.mpr hcall)

end Docket

section Run

variable {errand : Errand} {mayRefuse : Prop} {comes : β → List Case → Prop} {p : Program β}
  {d : Docket} {n : Nat} {l : Ledger}

/-- Where a task stops it vouches for what is left. -/
def Stopped.Vouches (transport : Transport) (errand : Errand) (mayRefuse : Prop)
    (comes : β → List Case → Prop) : Stopped β → Docket → Prop
  | .done v, d => ∃ cases, d = .between cases ∧ comes v cases
  | .panicked _, d => d.waits = true ∧ d.hasCalled = true
  | .stalled, d => d.waits = true
  | .asleep _ next, d | .queued next, d =>
    d.waits = true ∧ next.Vouches transport errand mayRefuse comes d

/-- A task that goes on may wait where it is, and vouches for what is left. -/
theorem Stopped.Vouches.rest {transport : Transport} {stopped : Stopped β}
    (h : stopped.Vouches transport errand mayRefuse comes d) {q : Program β}
    (hq : stopped.rest? = some q) :
    d.waits = true ∧ q.Vouches transport errand mayRefuse comes d := by
  cases stopped with
  | done v => cases hq
  | panicked text => cases hq
  | stalled =>
      cases hq
      exact ⟨h, h⟩
  | asleep due next =>
      cases hq
      exact h
  | queued next =>
      cases hq
      exact h

/-- Only a closed pool turns anybody down, and asking does not close it. -/
theorem SlotPool.closed_acquire (pool : SlotPool) (n : Nat) :
    (pool.acquire n).1.closed = pool.closed ∧
      ((pool.acquire n).2 = .turnedDown → pool.closed = true) := by
  obtain ⟨free, holders, granted, waiting, closed⟩ := pool
  rw [acquire]
  cases free <;> cases closed <;> dsimp only <;> split <;> simp <;> split <;> simp

/-- **A TASK THAT RUNS GOES ON WITH ITS DOCKET**, up to where it stops, and keeps the books in
order. -/
theorem Program.Vouches.run {parts : Parts}
    (hp : p.Vouches parts.transport errand mayRefuse comes d)
    (hd : d.Noted parts.transport errand n l True) (hl : l.Sound d.owed)
    (hclosed : l.closed = true → mayRefuse) (hpool : l.pool.closed = true → mayRefuse) :
    ∃ d', (p.run parts n l).2.Vouches parts.transport errand mayRefuse comes d' ∧
      d'.Noted parts.transport errand n (p.run parts n l).1 True ∧
      (p.run parts n l).1.Sound d'.owed := by
  -- what changes the docket are calls, answers and records, and each finds the docket it needs,
  -- for the program has vouched for that
  induction p generalizing l d with
  | done value => exact ⟨d, hp, hd, hl⟩
  | panic text => exact ⟨d, hp, hd, hl⟩
  | stall => exact ⟨d, hp, hd, hl⟩
  | note what next ih =>
      have hjots : l.Jots (some n) (l.mark (some n) what) :=
        .mark l (Or.inr rfl) (Happening.isEntry_of_isRemark hp.1)
      exact ih hp.2 (hd.jots hjots) (hjots.sound hl) hclosed hpool
  | clock next ih => exact ih _ (hp l.now) hd hl hclosed hpool
  | sleep length next ih =>
      rw [Program.run]
      split
      · exact ih hp.2 hd hl hclosed hpool
      · exact ⟨d, hp, hd, hl⟩
  | pause attempt next ih =>
      have hpauses : l.Jots (some n) { l with pauses := attempt :: l.pauses } :=
        .of_same rfl rfl rfl rfl
      have hjots : l.Jots (some n) (l.pause parts n attempt).1 :=
        hpauses.trans (.mark _ (Or.inr rfl) rfl)
      rw [Program.run]
      dsimp only
      split
      · exact ih hp.2 (hd.jots hjots) (hjots.sound hl) hclosed hpool
      · exact ⟨d, hp, hd.jots hjots, hjots.sound hl⟩
  | closed next ih => exact ih _ (hp l.closed hclosed) hd hl hclosed hpool
  | slot next ih =>
      obtain ⟨hsame, hrefused⟩ := l.pool.closed_acquire n
      have hjots : ∀ pool, l.Jots none { l with pool := pool } :=
        fun _ => .of_same rfl rfl rfl rfl
      rw [Program.run]
      generalize l.pool.acquire n = acquired at hsame hrefused ⊢
      obtain ⟨pool, reception⟩ := acquired
      have hpool' : pool.closed = true → mayRefuse := fun h => hpool (hsame ▸ h)
      cases reception with
      | taken =>
          exact ih true (hp.2 true fun h => by cases h) (hd.jots (hjots pool))
            ((hjots pool).sound hl) hclosed hpool'
      | turnedDown =>
          exact ih false (hp.2 false fun _ => hpool (hrefused rfl)) (hd.jots (hjots pool))
            ((hjots pool).sound hl) hclosed hpool'
      | wait => exact ⟨d, ⟨hp.1, hp⟩, hd.jots (hjots pool), (hjots pool).sound hl⟩
  | call r next ih =>
      obtain ⟨cases, rfl, rfl, hnext⟩ := hp
      exact ih _ (hnext (l.nextCall errand.request) l.calls rfl) hd.call
        (hl.call (hd.running trivial).1 parts errand.request) hclosed hpool
  | answered next ih =>
      obtain ⟨cases, call, earlier, heard, outcome, rfl, -, hnext⟩ := hp
      have hkept : (l.answered n).closed = l.closed ∧ (l.answered n).pool = l.pool := by
        rw [Ledger.answered]
        split <;> exact ⟨rfl, rfl⟩
      exact ih hnext (hd.answered heard outcome) (hl.answered (hd.running trivial).1)
        (fun h => hclosed (hkept.1.symm.trans h)) (fun h => hpool (hkept.2 ▸ h))
  | record r next ih =>
      obtain ⟨cases, call, earlier, heard, outcome, rfl, hsound, hnext⟩ := hp
      have hkept : (l.record parts n r).1.closed = l.closed ∧
          (l.record parts n r).1.pool = l.pool := by
        rw [Ledger.record]
        dsimp only
        split <;> exact ⟨rfl, rfl⟩
      exact ih _ (hnext _) (hd.record parts hsound) (hl.record parts r)
        (fun h => hclosed (hkept.1.symm.trans h)) (fun h => hpool (hkept.2 ▸ h))

end Run

end Courier
