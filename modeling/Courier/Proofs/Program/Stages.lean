import Courier.Engine
import Courier.Proofs.Attempt.Outcomes
import Courier.Proofs.Pool.Places
import Courier.Proofs.Retry.Trace

/-!
# Stages — how far a dispatch is

A dispatch goes through few stages.  At first nothing of it has run.  Then, if its request wants
retries, it stands in line for a slot, and after that it holds one to its end; if its request wants
none, it makes its one call at once and goes on without a slot.  `Stage.run` says what one run of a
task does at any stage: where it leads, what it does to the pool, and when the transport is called.
-/

namespace Courier

variable {α β γ : Type}

/-- Whether something that happened is a call of the transport. -/
def Happening.isCall : Happening → Bool
  | .called _ => true
  | _ => false

/-- Notes were added, none of them that the transport was closed, and calls only by those who may
    call. -/
def Adds (mayCall : Option Nat → Prop) (before after : List Note) : Prop :=
  ∃ new, after = new ++ before ∧ ∀ x ∈ new,
    x.what ≠ .transportClosed ∧ (x.what.isCall = true → mayCall x.task)

namespace Adds

variable {mayCall mayCall' : Option Nat → Prop} {before between after : List Note}

theorem refl (mayCall : Option Nat → Prop) (notes : List Note) : Adds mayCall notes notes :=
  ⟨[], rfl, fun _ h => nomatch h⟩

theorem trans (h : Adds mayCall before between) (h' : Adds mayCall between after) :
    Adds mayCall before after := by
  obtain ⟨new, rfl, hnew⟩ := h
  obtain ⟨new', rfl, hnew'⟩ := h'
  refine ⟨new' ++ new, (List.append_assoc ..).symm, fun x hx => ?_⟩
  rcases List.mem_append.mp hx with hx | hx
  · exact hnew' x hx
  · exact hnew x hx

theorem mono (h : Adds mayCall before after) (hm : ∀ n, mayCall n → mayCall' n) :
    Adds mayCall' before after := by
  obtain ⟨new, heq, hnew⟩ := h
  exact ⟨new, heq, fun x hx => ⟨(hnew x hx).1, fun hc => hm _ ((hnew x hx).2 hc)⟩⟩

/-- One note. -/
theorem one (x : Note) (hclosed : x.what ≠ .transportClosed)
    (hcall : x.what.isCall = true → mayCall x.task) : Adds mayCall before (x :: before) := by
  refine ⟨[x], rfl, fun y hy => ?_⟩
  rw [List.mem_singleton.mp hy]
  exact ⟨hclosed, hcall⟩

/-- Whoever is noted to call was noted before, or may call. -/
theorem mem (h : Adds mayCall before after) {x : Note} (hx : x ∈ after)
    (hcall : x.what.isCall = true) : x ∈ before ∨ mayCall x.task := by
  obtain ⟨new, rfl, hnew⟩ := h
  exact (List.mem_append.mp hx).symm.imp id fun hx => (hnew x hx).2 hcall

/-- It is not noted anew that the transport was closed. -/
theorem countP (h : Adds mayCall before after) :
    after.countP (fun x => decide (x.what = .transportClosed))
      = before.countP (fun x => decide (x.what = .transportClosed)) := by
  obtain ⟨new, rfl, hnew⟩ := h
  rw [List.countP_append, List.countP_eq_zero.mpr, Nat.zero_add]
  exact fun x hx => by simp [(hnew x hx).1]

end Adds

/-! ## Runs of calm programs -/

/-- A task works without touching what decides who may retry. -/
structure Works (mayCall : Prop) (n : Nat) (l l' : Ledger) : Prop where
  pool : l'.pool = l.pool
  closed : l'.closed = l.closed
  notes : Adds (fun t => t = some n ∧ mayCall) l.notes l'.notes

namespace Works

variable {mayCall : Prop} {n : Nat} {l l' l'' : Ledger}

theorem refl (mayCall : Prop) (n : Nat) (l : Ledger) : Works mayCall n l l :=
  ⟨rfl, rfl, .refl _ _⟩

theorem trans (h : Works mayCall n l l') (h' : Works mayCall n l' l'') : Works mayCall n l l'' :=
  ⟨h'.pool.trans h.pool, h'.closed.trans h.closed, h.notes.trans h'.notes⟩

/-- A task notes something that is not a call. -/
theorem mark (l : Ledger) {what : Happening} (hclosed : what ≠ .transportClosed)
    (hcall : what.isCall = false) : Works mayCall n l (l.mark (some n) what) :=
  ⟨rfl, rfl, .one _ hclosed fun h => nomatch hcall.symm.trans h⟩

theorem remark (l : Ledger) {what : Happening} (h : what.isRemark = true) :
    Works mayCall n l (l.mark (some n) what) := by
  refine mark l ?_ ?_
  · rintro rfl
    exact nomatch h
  · cases what <;> first | rfl | exact nomatch h

theorem call (h : mayCall) (l : Ledger) (parts : Parts) (request : Request) :
    Works mayCall n l (l.call parts n request).1 :=
  ⟨rfl, rfl, .one _ (fun h => nomatch h) fun _ => ⟨rfl, h⟩⟩

theorem answered (l : Ledger) : Works mayCall n l (l.answered n) := by
  rw [Ledger.answered]
  split
  · exact .refl mayCall n l
  · exact ⟨rfl, rfl, .one _ (by simp) (by simp [Happening.isCall])⟩

theorem record (l : Ledger) (parts : Parts) (r : Record) :
    Works mayCall n l (l.record parts n r).1 := by
  have hrecord : Works mayCall n l
      (Ledger.mark { l with records := r :: l.records } (some n) (.recorded r)) :=
    ⟨rfl, rfl, .one _ (by simp) (by simp [Happening.isCall])⟩
  rw [Ledger.record]
  dsimp only
  split
  · exact hrecord.trans (mark _ (by simp) rfl)
  · exact hrecord

end Works

/-- What is left of a program where it stops is calm, and it does not stop for a slot. -/
def Stopped.Calm (mayCall : Prop) : Stopped β → Prop
  | .done _ | .panicked _ | .stalled => True
  | .asleep _ next => next.Calm mayCall
  | .queued _ => False

/-- What a program still has to do where it stops, unless it stops for good. -/
def Stopped.rest? : Stopped β → Option (Program β)
  | .done _ | .panicked _ => none
  | .stalled => some .stall
  | .asleep _ next | .queued next => some next

theorem Stopped.Calm.rest {mayCall : Prop} {stopped : Stopped β} (h : stopped.Calm mayCall)
    {next : Program β} (hnext : stopped.rest? = some next) : next.Calm mayCall := by
  cases stopped with
  | done v => exact nomatch hnext
  | panicked text => exact nomatch hnext
  | stalled =>
      cases hnext
      exact trivial
  | asleep due q =>
      cases hnext
      exact h
  | queued q => exact h.elim

namespace Program

variable {mayCall : Prop} {parts : Parts} {n : Nat} {p : Program β}

/-- A calm program stays calm while it runs, and leaves the pool alone. -/
theorem Calm.run (hp : p.Calm mayCall) (parts : Parts) (n : Nat) (l : Ledger) :
    Works mayCall n l (p.run parts n l).1 ∧ (p.run parts n l).2.Calm mayCall := by
  induction p generalizing l with
  | done value => exact ⟨.refl mayCall n l, trivial⟩
  | panic text => exact ⟨.refl mayCall n l, trivial⟩
  | stall => exact ⟨.refl mayCall n l, trivial⟩
  | note what next ih =>
      obtain ⟨hw, hs⟩ := ih hp.2 (l.mark (some n) what)
      exact ⟨(Works.remark l hp.1).trans hw, hs⟩
  | clock next ih => exact ih l.now (hp l.now) l
  | sleep length next ih =>
      rw [Program.run]
      split
      · exact ih hp l
      · exact ⟨.refl mayCall n l, hp⟩
  | pause attempt next ih =>
      have hpause : Works mayCall n l (l.pause parts n attempt).1 :=
        ⟨rfl, rfl, .one _ (fun h => nomatch h) fun h => nomatch h⟩
      rw [Program.run]
      dsimp only
      split
      · obtain ⟨hw, hs⟩ := ih hp (l.pause parts n attempt).1
        exact ⟨hpause.trans hw, hs⟩
      · exact ⟨hpause, hp⟩
  | closed next ih => exact hp.elim
  | slot next ih => exact hp.elim
  | call request next ih =>
      obtain ⟨hw, hs⟩ := ih (l.call parts n request).2 (hp.2 _) (l.call parts n request).1
      exact ⟨(Works.call hp.1 l parts request).trans hw, hs⟩
  | answered next ih =>
      obtain ⟨hw, hs⟩ := ih hp (l.answered n)
      exact ⟨(Works.answered l).trans hw, hs⟩
  | record r next ih =>
      obtain ⟨hw, hs⟩ := ih (l.record parts n r).2 (hp _) (l.record parts n r).1
      exact ⟨(Works.record l parts r).trans hw, hs⟩

/-! ## Stages -/

/-- A program that, wherever it runs, does nothing and comes to a value like this at once. -/
def Declines (down : β → Prop) (p : Program β) : Prop :=
  ∀ parts n l, ∃ v, p.run parts n l = (l, .done v) ∧ down v

/-- What a dispatch does that stands in line: it declines when it is turned down, and is calm when
    it gets a slot. -/
structure InLine (down : β → Prop) (next : Bool → Program β) : Prop where
  refused : (next false).Declines down
  granted : (next true).Calm True

/-- A dispatch of a request of which nothing has run, and what is to come after it. -/
inductive Fresh (down : β → Prop) (request : Request) : Program β → Prop where
  | dispatch {α : Type} (handler : Handler α) (k : Outcome α → Program β)
      (hk : ∀ o, (k o).Calm False) (hdown : (k (.error .closed)).Declines down) :
      Fresh down request ((dispatch request handler).bind k)
  | clock {next : Moment → Program β} (h : ∀ now, Fresh down request (next now)) :
      Fresh down request (.clock next)

variable {down : β → Prop} {request : Request}

theorem bind_done (p : Program β) : p.bind .done = p := by
  induction p with
  | done value => rfl
  | panic text => rfl
  | stall => rfl
  | note what next ih => exact congrArg (note what) ih
  | clock next ih => exact congrArg clock (funext ih)
  | sleep length next ih => exact congrArg (sleep length) ih
  | pause attempt next ih => exact congrArg (pause attempt) ih
  | closed next ih => exact congrArg closed (funext ih)
  | slot next ih => exact congrArg slot (funext ih)
  | call request next ih => exact congrArg (call request) (funext ih)
  | answered next ih => exact congrArg answered ih
  | record r next ih => exact congrArg (record r) (funext ih)

/-- A dispatch by itself. -/
theorem fresh_dispatch (request : Request) (handler : Handler α) :
    Fresh (fun v => v = .error .closed) request (Courier.dispatch request handler) := by
  rw [← bind_done (Courier.dispatch request handler)]
  exact .dispatch handler .done (fun _ => trivial) fun _ _ _ => ⟨_, rfl, rfl⟩

/-- A dispatch whose time is taken. -/
theorem fresh_timed (request : Request) (handler : Handler α) :
    Fresh (fun v => v.1 = .error .closed) request (Courier.dispatch request handler).timed :=
  .clock fun _ => .dispatch handler _ (fun _ _ => trivial) fun _ _ _ => ⟨_, rfl, rfl⟩

/-- A closed client declines what has not begun. -/
theorem Fresh.run_of_closed (h : Fresh down request p) (parts : Parts) (n : Nat) {l : Ledger}
    (hl : l.closed = true) : ∃ v, p.run parts n l = (l, .done v) ∧ down v := by
  induction h with
  | dispatch handler k hk hdown =>
      have hrun : ((Courier.dispatch request handler).bind k).run parts n l
          = (k (.error .closed)).run parts n l := by
        rw [Courier.dispatch, bind, Program.run, hl]
        rfl
      rw [hrun]
      exact hdown parts n l
  | clock h ih => exact ih l.now

/-- A request that wants no retries is sent at once. -/
theorem Fresh.run_of_plain (h : Fresh down request p) (parts : Parts) (n : Nat) {l : Ledger}
    (hl : l.closed = false) (hr : request.hasRetryPolicy = false) :
    ∃ q : Program β, q.Calm False ∧
      p.run parts n l = q.run parts n (l.call parts n request).1 := by
  induction h with
  | dispatch handler k hk hdown =>
      have hfollow := (Observer.follow_calm (l.call parts n request).2
        ⟨handler, [], .start l.now.elapsed, request, .first⟩).bind
          (k := fun a => .done a.result) fun _ => trivial
      refine ⟨_, hfollow.bind hk, ?_⟩
      rw [Courier.dispatch, bind, Program.run, hl]
      dsimp only
      rw [hr]
      rfl
  | clock h ih => exact ih l.now

/-- A request that wants retries asks for a slot first. -/
theorem Fresh.run_of_retries (h : Fresh down request p) (parts : Parts) (n : Nat) {l : Ledger}
    (hl : l.closed = false) (hr : request.hasRetryPolicy = true) :
    ∃ next, InLine down next ∧ p.run parts n l = (slot next).run parts n l := by
  induction h with
  | dispatch handler k hk hdown =>
      refine ⟨?next, ?inLine, ?run⟩
      case run =>
        rw [Courier.dispatch, bind, Program.run, hl]
        dsimp only
        rw [hr]
        rfl
      case inLine =>
        refine ⟨hdown, Calm.bind ?_ fun o => (hk o).mono False.elim⟩
        exact (Retry.attempts_calm request handler .empty []).bind fun _ => ⟨rfl, trivial⟩
  | clock h ih => exact ih l.now

/-- How far a dispatch is: whether its request wants retries, whether it has begun, where it stands
    with the pool, and whether the client is closed, go with what is left to do. -/
inductive Stage (down : β → Prop) (request : Request) (closed : Bool) :
    Bool → SlotPool.Place → Program β → Prop where
  | fresh {p : Program β} : Fresh down request p → Stage down request closed false .away p
  | inLine {next : Bool → Program β} {place : SlotPool.Place} :
      request.hasRetryPolicy = true → InLine down next →
      place = .waiting ∨ place = .given ∨ (place = .away ∧ closed = true) →
      Stage down request closed true place (.slot next)
  | held {p : Program β} : request.hasRetryPolicy = true → p.Calm True →
      Stage down request closed true .holding p
  | plain {p : Program β} : request.hasRetryPolicy = false → p.Calm False →
      Stage down request closed true .away p

/-- A dispatch stays at its stage when it is given a slot, or is sent away since the client is
    closed. -/
theorem Stage.moved {closed closed' begun : Bool} {place place' : SlotPool.Place} {p : Program β}
    (h : Stage down request closed begun place p) (hc : closed = true → closed' = true)
    (hp : place' = place ∨
      (place = .waiting ∧ (place' = .given ∨ (place' = .away ∧ closed' = true)))) :
    Stage down request closed' begun place' p := by
  rcases hp with rfl | ⟨rfl, hp⟩
  · cases h with
    | fresh hf => exact .fresh hf
    | inLine hr hnext hstands => exact .inLine hr hnext (hstands.imp id (.imp id (.imp id hc)))
    | held hr hcalm => exact .held hr hcalm
    | plain hr hcalm => exact .plain hr hcalm
  · cases h with
    | inLine hr hnext hstands => exact .inLine hr hnext (Or.inr hp)

/-- What one run of a dispatch does. -/
structure Ran (down : β → Prop) (request : Request) (begun : Bool) (n : Nat) (l : Ledger)
    (result : Ledger × Stopped β) : Prop where
  closed : result.1.closed = l.closed
  pool : l.pool.Passes result.1.pool n none
  notes : Adds (fun t => t = some n ∧ (result.1.pool.place n = .holding ∨
      (request.hasRetryPolicy = false ∧ begun = false ∧ l.closed = false))) l.notes result.1.notes
  /-- Where it stops it is at a stage again, and if it wants a slot, it is in line or has one. -/
  stops : ∀ next, result.2.rest? = some next →
    Stage down request l.closed true (result.1.pool.place n) next ∧
      (request.hasRetryPolicy = true → result.1.pool.place n ≠ .away)
  untaken : result.1.pool.place n ≠ .given
  /-- Whoever holds a slot leaves the pool alone. -/
  same : l.pool.place n = .holding → result.1.pool = l.pool
  /-- A slot is taken only while the client is open. -/
  holds : result.1.pool.place n = .holding → l.pool.place n = .holding ∨ l.closed = false
  /-- A place in the line is taken at the start. -/
  waits : result.1.pool.place n = .waiting → l.pool.place n = .waiting ∨ begun = false
  /-- A closed client declines whoever has not begun, or is in line. -/
  declines : l.closed = true → begun = false ∨ request.hasRetryPolicy = true →
    l.pool.place n ≠ .holding → ∃ v, result.2 = .done v ∧ down v ∧ result.1.notes = l.notes

/-- A dispatch asks for its slot, for the first time or again. -/
theorem InLine.run {next : Bool → Program β} (h : InLine down next) (parts : Parts) {n : Nat}
    {l : Ledger} {begun : Bool} (hp : l.pool.Sound) (hc : l.pool.closed = l.closed)
    (hr : request.hasRetryPolicy = true)
    (hplace : l.pool.place n ≠ .holding ∧ (begun = true → l.closed = false →
      l.pool.place n ≠ .away)) :
    Ran down request begun n l ((slot next).run parts n l) := by
  obtain ⟨hpass, hasks⟩ := hp.acquire hplace.1
  -- it gets a slot and works on, or is turned down, or waits
  rw [Program.run]
  split
  · rename_i pool heq
    rw [heq] at hpass hasks
    cases hasks with
    | taken hopen hholding =>
        obtain ⟨hw, hs⟩ := h.granted.run parts n { l with pool := pool }
        have hplace' : (Program.run parts n { l with pool := pool } (next true)).1.pool.place n
            = .holding := by
          rw [hw.pool]
          exact hholding
        refine
          { closed := hw.closed
            pool := ?pool
            notes := ?notes
            stops := ?stops
            untaken := ?untaken
            same := fun h => absurd h hplace.1
            holds := ?holds
            waits := ?waits
            declines := ?declines }
        case pool =>
          rw [hw.pool]
          exact hpass
        case notes =>
          exact hw.notes.mono fun t ht => ⟨ht.1, Or.inl hplace'⟩
        case stops =>
          rw [hplace']
          exact fun q hq => ⟨.held hr (hs.rest hq), fun _ => nofun⟩
        case untaken =>
          exact fun h => nomatch hplace'.symm.trans h
        case holds =>
          exact fun _ => Or.inr (hc.symm.trans hopen)
        case waits =>
          exact fun h => nomatch hplace'.symm.trans h
        case declines =>
          exact fun hl => nomatch (hc.trans hl).symm.trans hopen
  · rename_i pool heq
    rw [heq] at hpass hasks
    cases hasks with
    | turnedDown hshut haway =>
        obtain ⟨v, hv, hdown⟩ := h.refused parts n { l with pool := pool }
        rw [hv]
        exact
          { closed := rfl
            pool := hpass
            notes := .refl _ _
            stops := nofun
            untaken := fun h => nomatch haway.symm.trans h
            same := fun h => absurd h hplace.1
            holds := fun h => nomatch haway.symm.trans h
            waits := fun h => nomatch haway.symm.trans h
            declines := fun _ _ _ => ⟨v, rfl, hdown, rfl⟩ }
  · rename_i pool heq
    rw [heq] at hpass hasks
    cases hasks with
    | wait hopen hgiven hwaiting =>
        have hl : l.closed = false := hc.symm.trans hopen
        refine
          { closed := rfl
            pool := hpass
            notes := .refl _ _
            stops := ?stops
            untaken := ?untaken
            same := fun h => absurd h hplace.1
            holds := ?holds
            waits := ?waits
            declines := ?declines }
        case stops =>
          intro q hq
          cases hq
          exact ⟨.inLine hr h (Or.inl hwaiting), fun _ h => nomatch hwaiting.symm.trans h⟩
        case untaken =>
          exact fun h => nomatch hwaiting.symm.trans h
        case holds =>
          exact fun h => nomatch hwaiting.symm.trans h
        case waits =>
          intro _
          cases begun with
          | false => exact Or.inr rfl
          | true =>
              refine Or.inl ?_
              -- it had begun, so it was in the line before, and nobody leaves that but with a slot
              have haway := hplace.2 rfl hl
              cases h : l.pool.place n with
              | away => exact absurd h haway
              | waiting => rfl
              | given => exact absurd h hgiven
              | holding => exact absurd h hplace.1
        case declines =>
          exact fun h => nomatch hl.symm.trans h

/-- A task that holds a slot, or needs none, works on. -/
theorem Calm.ran {mayCall : Prop} {begun : Bool} {l : Ledger} {p : Program β}
    (hp : p.Calm mayCall) (parts : Parts) (n : Nat) (hl : l.pool.Sound)
    (hcall : mayCall → l.pool.place n = .holding)
    (hstage : ∀ q : Program β, q.Calm mayCall →
      Stage down request l.closed true (l.pool.place n) q)
    (hgiven : l.pool.place n ≠ .given)
    (haway : request.hasRetryPolicy = true → l.pool.place n ≠ .away)
    (hopen : l.closed = true → begun = false ∨ request.hasRetryPolicy = true →
      l.pool.place n = .holding) :
    Ran down request begun n l (p.run parts n l) := by
  obtain ⟨hw, hs⟩ := hp.run parts n l
  refine
    { closed := hw.closed
      pool := ?pool
      notes := ?notes
      stops := ?stops
      untaken := ?untaken
      same := fun _ => hw.pool
      holds := ?holds
      waits := ?waits
      declines := ?declines }
  case pool =>
    rw [hw.pool]
    exact .refl hl n none
  case notes =>
    rw [hw.pool]
    exact hw.notes.mono fun t ht => ⟨ht.1, Or.inl (hcall ht.2)⟩
  case stops =>
    rw [hw.pool]
    exact fun q hq => ⟨hstage q (hs.rest hq), haway⟩
  case untaken =>
    rw [hw.pool]
    exact hgiven
  case holds =>
    rw [hw.pool]
    exact Or.inl
  case waits =>
    rw [hw.pool]
    exact Or.inl
  case declines =>
    exact fun hc hb hne => absurd (hopen hc hb) hne

/-- A dispatch begins: the client is asked first, and only then whether there is a slot. -/
theorem Fresh.run {n : Nat} {l : Ledger} {p : Program β} (h : Fresh down request p)
    (parts : Parts) (hp : l.pool.Sound) (hc : l.pool.closed = l.closed)
    (hplace : l.pool.place n = .away) : Ran down request false n l (p.run parts n l) := by
  cases hl : l.closed with
  | true =>
      obtain ⟨v, hv, hdown⟩ := h.run_of_closed parts n hl
      rw [hv]
      refine ⟨rfl, .refl hp n none, .refl _ _, nofun, ?_, fun _ => rfl, Or.inl, Or.inl, ?_⟩
      · exact fun h => nomatch hplace.symm.trans h
      · exact fun _ _ _ => ⟨v, rfl, hdown, rfl⟩
  | false =>
      cases hr : request.hasRetryPolicy with
      | true =>
          obtain ⟨next, hnext, hrun⟩ := h.run_of_retries parts n hl hr
          rw [hrun]
          refine hnext.run parts hp hc hr ⟨?_, fun h => nomatch h⟩
          exact fun h => nomatch hplace.symm.trans h
      | false =>
          -- the one call of such a dispatch is made in the run in which it begins
          obtain ⟨q, hq, hrun⟩ := h.run_of_plain parts n hl hr
          have hcall : Works True n l (l.call parts n request).1 := .call trivial l parts request
          have hran : Ran down request true n (l.call parts n request).1
              (q.run parts n (l.call parts n request).1) := by
            have hplace' : (l.call parts n request).1.pool.place n = .away := hplace
            refine hq.ran parts n hp False.elim (fun q hq => ?_) ?_ ?_ ?_
            · rw [hplace']
              exact .plain hr hq
            · exact fun h => nomatch hplace'.symm.trans h
            · exact fun h => nomatch hr.symm.trans h
            · exact fun h => nomatch hl.symm.trans h
          rw [hrun]
          refine ⟨hran.closed, hran.pool, ?_, hran.stops, hran.untaken, hran.same, hran.holds,
            fun _ => Or.inr rfl, fun h => nomatch hl.symm.trans h⟩
          refine (hcall.notes.mono fun t ht => ⟨ht.1, Or.inr ⟨hr, rfl, hl⟩⟩).trans ?_
          exact hran.notes.mono fun t ht => ⟨ht.1, ht.2.imp id fun h => nomatch h.2.1⟩

/-- **ONE RUN OF A DISPATCH**, at whatever stage it is. -/
theorem Stage.run {begun : Bool} {n : Nat} {l : Ledger} {p : Program β}
    (hs : Stage down request l.closed begun (l.pool.place n) p) (parts : Parts)
    (hp : l.pool.Sound) (hc : l.pool.closed = l.closed) :
    Ran down request begun n l (p.run parts n l) := by
  generalize hplace : l.pool.place n = place at hs
  cases hs with
  | fresh hf => exact hf.run parts hp hc hplace
  | inLine hr hnext hstands =>
      refine hnext.run parts hp hc hr ⟨?_, fun _ hopen => ?_⟩
      · rw [hplace]
        rcases hstands with rfl | rfl | ⟨rfl, -⟩ <;> exact fun h => nomatch h
      · rw [hplace]
        rcases hstands with rfl | rfl | ⟨rfl, hshut⟩
        · exact fun h => nomatch h
        · exact fun h => nomatch h
        · exact nomatch hopen.symm.trans hshut
  | held hr hcalm =>
      refine hcalm.ran parts n hp (fun _ => hplace) (fun q hq => ?_) ?_ ?_ fun _ _ => hplace
      · rw [hplace]
        exact .held hr hq
      · exact fun h => nomatch hplace.symm.trans h
      · exact fun _ h => nomatch hplace.symm.trans h
  | plain hr hcalm =>
      refine hcalm.ran parts n hp False.elim (fun q hq => ?_) ?_ ?_ fun _ hb => ?_
      · rw [hplace]
        exact .plain hr hq
      · exact fun h => nomatch hplace.symm.trans h
      · exact fun h => nomatch hr.symm.trans h
      · rcases hb with hb | hb
        · exact nomatch hb
        · exact nomatch hr.symm.trans hb

end Program

end Courier
