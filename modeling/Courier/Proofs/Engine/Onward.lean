import Courier.Proofs.Engine.StandingKept

/-!
# Onward — what never goes back

Some things only go one way, whatever happens to a client.  Tasks that have ended do not come back,
whoever has begun or is to be dropped stays so, whoever holds a slot holds it to its end, nobody
gets back into the line, nobody is overtaken there, and once the client is closed no slot is given
or taken and nobody calls the transport but those who hold a slot.  `Onward` is all this between two
engines, and every turn and every act keep to it (`Standing.onward_turn`, `Standing.onward_act`).
-/

namespace Courier

open SlotPool

variable {α : Type}

namespace Engine

/-- A task was spawned, and if it has not ended, it is like this. -/
def Past (p : Task α → Prop) (e : Engine α) (n : Nat) : Prop :=
  n < e.spawned ∧ ∀ t ∈ e.tasks, t.number = n → p t

/-- A task that has begun, or ended. -/
abbrev HasBegun : Engine α → Nat → Prop :=
  Past fun t => t.begun = true

/-- A task that is to be dropped, or has ended. -/
abbrev IsAborted : Engine α → Nat → Prop :=
  Past fun t => t.aborted = true

/-- One engine is later than another. -/
structure Onward (e e' : Engine α) : Prop where
  spawned : e.spawned ≤ e'.spawned
  /-- A task from before is the task it was, and has begun or is to be dropped if it had or was. -/
  tasks : ∀ t' ∈ e'.tasks, t'.number < e.spawned → ∃ t ∈ e.tasks, t.number = t'.number ∧
    (t.begun = true → t'.begun = true) ∧ (t.aborted = true → t'.aborted = true)
  keeps : ∀ n, n < e.spawned → e.ledger.pool.place n = .holding → e'.Lives n →
    e'.ledger.pool.place n = .holding
  /-- Whoever is to be dropped takes no slot. -/
  holds : ∀ n, e.IsAborted n → e'.ledger.pool.place n = .holding →
    e.ledger.pool.place n = .holding
  /-- Whoever has begun does not get into the line again. -/
  waits : ∀ n, e.HasBegun n → e'.ledger.pool.place n = .waiting →
    e.ledger.pool.place n = .waiting
  fair : ∀ a, e.HasBegun a → e.ledger.pool.place a = .waiting →
    e'.ledger.pool.place a = .waiting → e.ledger.pool.Fair e'.ledger.pool a
  closed : e.ledger.closed = true → e'.ledger.closed = true
  shut : e.ledger.closed = true → ∀ n, (e'.ledger.pool.place n = .holding →
    e.ledger.pool.place n = .holding) ∧
    (e'.ledger.pool.place n = .given → e.ledger.pool.place n = .given)
  calls : e.ledger.closed = true →
    Adds (fun x => ∃ n, x = some n ∧ e.ledger.pool.place n = .holding) e.ledger.notes e'.ledger.notes

namespace Onward

variable {e e' e'' : Engine α} {n : Nat}

/-- A task that has ended does not come back. -/
theorem ended (h : Onward e e') (hn : n < e.spawned) (hl : e'.Lives n) : e.Lives n := by
  obtain ⟨t', ht', rfl⟩ := hl
  obtain ⟨t, ht, hnumber, -⟩ := h.tasks t' ht' hn
  exact ⟨t, ht, hnumber⟩

theorem hasBegun (h : Onward e e') (hn : e.HasBegun n) : e'.HasBegun n := by
  refine ⟨Nat.lt_of_lt_of_le hn.1 h.spawned, ?_⟩
  rintro t' ht' rfl
  obtain ⟨t, ht, hnumber, hb, -⟩ := h.tasks t' ht' hn.1
  exact hb (hn.2 t ht hnumber)

theorem isAborted (h : Onward e e') (hn : e.IsAborted n) : e'.IsAborted n := by
  refine ⟨Nat.lt_of_lt_of_le hn.1 h.spawned, ?_⟩
  rintro t' ht' rfl
  obtain ⟨t, ht, hnumber, -, ha⟩ := h.tasks t' ht' hn.1
  exact ha (hn.2 t ht hnumber)

theorem trans (h : Onward e e') (h' : Onward e' e'') : Onward e e'' := by
  refine
    { spawned := Nat.le_trans h.spawned h'.spawned
      tasks := ?tasks
      keeps := ?keeps
      holds := ?holds
      waits := ?waits
      fair := ?fair
      closed := fun hc => h'.closed (h.closed hc)
      shut := ?shut
      calls := ?calls }
  case tasks =>
    intro t'' ht'' hn
    obtain ⟨t', ht', hnumber', hb', ha'⟩ := h'.tasks t'' ht'' (Nat.lt_of_lt_of_le hn h.spawned)
    rw [← hnumber'] at hn
    obtain ⟨t, ht, hnumber, hb, ha⟩ := h.tasks t' ht' hn
    exact ⟨t, ht, hnumber.trans hnumber', fun hbegun => hb' (hb hbegun),
      fun haborted => ha' (ha haborted)⟩
  case keeps =>
    intro n hn hholding hlives
    have hn' := Nat.lt_of_lt_of_le hn h.spawned
    exact h'.keeps n hn' (h.keeps n hn hholding (h'.ended hn' hlives)) hlives
  case holds =>
    exact fun n ha hholding => h.holds n ha (h'.holds n (h.isAborted ha) hholding)
  case waits =>
    exact fun n hb hwaiting => h.waits n hb (h'.waits n (h.hasBegun hb) hwaiting)
  case fair =>
    intro a hb hwaiting hwaiting''
    have hwaiting' := h'.waits a (h.hasBegun hb) hwaiting''
    exact (h.fair a hb hwaiting hwaiting').trans (h'.fair a (h.hasBegun hb) hwaiting' hwaiting'')
  case shut =>
    intro hc n
    obtain ⟨hholding, hgiven⟩ := h.shut hc n
    obtain ⟨hholding', hgiven'⟩ := h'.shut (h.closed hc) n
    exact ⟨fun hp => hholding (hholding' hp), fun hp => hgiven (hgiven' hp)⟩
  case calls =>
    intro hc
    refine (h.calls hc).trans ((h'.calls (h.closed hc)).mono ?_)
    rintro x ⟨n, rfl, hholding⟩
    exact ⟨n, rfl, (h.shut hc n).1 hholding⟩

/-- Nothing happened to the pool. -/
theorem of_same (hspawned : e.spawned ≤ e'.spawned)
    (htasks : ∀ t' ∈ e'.tasks, t'.number < e.spawned → ∃ t ∈ e.tasks, t.number = t'.number ∧
      (t.begun = true → t'.begun = true) ∧ (t.aborted = true → t'.aborted = true))
    (hpool : e'.ledger.pool = e.ledger.pool) (hclosed : e'.ledger.closed = e.ledger.closed)
    (hnotes : Adds (fun _ => False) e.ledger.notes e'.ledger.notes) : Onward e e' := by
  refine
    { spawned := hspawned
      tasks := htasks
      keeps := ?keeps
      holds := ?holds
      waits := ?waits
      fair := ?fair
      closed := fun hc => hclosed.trans hc
      shut := ?shut
      calls := fun _ => hnotes.mono fun _ => False.elim }
  case keeps =>
    rw [hpool]
    exact fun n _ hn _ => hn
  case holds =>
    rw [hpool]
    exact fun n _ hn => hn
  case waits =>
    rw [hpool]
    exact fun n _ hn => hn
  case fair =>
    rw [hpool]
    exact fun a _ _ _ => .refl _ a
  case shut =>
    rw [hpool]
    exact fun _ n => ⟨id, id⟩

/-- Nothing happened to the pool, nor to any task. -/
theorem of_same_tasks (hspawned : e'.spawned = e.spawned) (htasks : e'.tasks = e.tasks)
    (hpool : e'.ledger.pool = e.ledger.pool) (hclosed : e'.ledger.closed = e.ledger.closed)
    (hnotes : Adds (fun _ => False) e.ledger.notes e'.ledger.notes) : Onward e e' := by
  refine of_same (Nat.le_of_eq hspawned.symm) ?_ hpool hclosed hnotes
  rw [htasks]
  exact fun t ht _ => ⟨t, ht, rfl, id, id⟩

theorem of_rests (h : Rests e e') : Onward e e' :=
  of_same_tasks h.spawned h.tasks h.pool h.closed h.notes

end Onward

variable {e e' : Engine α} {t : Task α} {l : Ledger} {remains : Remains α} {job : Job α}
  {loads : List LoadState} {size : Nat} {requests : List (Nat × Request)}

/-! ## Turns -/

/-- Nobody waits when the client is closed. -/
theorem Standing.not_waiting (h : Standing size requests e) (hc : e.ledger.closed = true) (n : Nat) :
    e.ledger.pool.place n ≠ .waiting := by
  intro hwaiting
  have hmem := h.pool.place_eq_waiting.mp hwaiting
  rw [h.pool.shut (h.closed.trans hc)] at hmem
  cases hmem

/-- What a task notes in its turn, when the client is closed. -/
theorem Worked.calls (hw : Worked requests e t l) (hc : e.ledger.closed = true) :
    Adds (fun x => ∃ n, x = some n ∧ e.ledger.pool.place n = .holding) e.ledger.notes l.notes := by
  refine hw.notes.mono fun x hx => ⟨t.number, hx.1, ?_⟩
  rcases hx.2 with hholding | ⟨-, hopen, -⟩
  · exact (hw.holds hholding).resolve_right fun h => nomatch hc.symm.trans h.1
  · cases hc.symm.trans hopen

/-- The turn of a task that goes on. -/
theorem Standing.onward_stay (h : Standing size requests e) (ht : t ∈ e.tasks)
    (ha : t.aborted = false) (hs : Stays e t l job loads) :
    Onward e (e.goneOn t l job loads) := by
  obtain ⟨hw, -⟩ := h.stays ht ha hs
  refine
    { spawned := Nat.le_refl _
      tasks := ?tasks
      keeps := ?keeps
      holds := ?holds
      waits := ?waits
      fair := ?fair
      closed := fun hc => hw.closed.trans hc
      shut := ?shut
      calls := hw.calls }
  case tasks =>
    intro u hu _
    rcases mem_goneOn hu with rfl | ⟨hu, -⟩
    · exact ⟨t, ht, rfl, fun _ => rfl, id⟩
    · exact ⟨u, hu, rfl, id, id⟩
  case keeps =>
    intro n _ hholding _
    by_cases hn : n = t.number
    · subst hn
      exact (congrArg (fun pool => pool.place t.number) (hw.same hholding)).trans hholding
    · exact (hw.others hn).trans hholding
  case holds =>
    intro n haborted hholding
    by_cases hn : n = t.number
    · subst hn
      -- a task that is to be dropped does not go on
      cases ha.symm.trans (haborted.2 t ht rfl)
    · exact (hw.others hn).symm.trans hholding
  case waits =>
    intro n hbegun hwaiting
    by_cases hn : n = t.number
    · subst hn
      exact (hw.waits hwaiting).resolve_right fun hb => nomatch hb.symm.trans (hbegun.2 t ht rfl)
    · exact (hw.others hn).symm.trans hwaiting
  case fair =>
    intro a _ hwaiting hwaiting'
    exact hw.pool.fair a (h.pool.place_eq_waiting.mp hwaiting)
      (hw.pool.sound.place_eq_waiting.mp hwaiting')
  case shut =>
    intro hc n
    by_cases hn : n = t.number
    · subst hn
      refine ⟨fun hp => ?_, fun hp => absurd hp (hw.untaken ha)⟩
      exact (hw.holds hp).resolve_right fun hopen => nomatch hc.symm.trans hopen.1
    · rw [← hw.others hn]
      exact ⟨id, id⟩

/-- The turn in which a task ends. -/
theorem Standing.onward_leave (h : Standing size requests e) (ht : t ∈ e.tasks)
    (he : Ends e t l remains)
    (hrests : Rests { e.called t.number with
      ledger := { l with pool := (l.pool.leave t.number).1 }
      tasks := e.tasks.filter (·.number != t.number)
      futures := remains.futures e.futures
      loads := remains.loads e.loads } e') : Onward e e' := by
  have hw := h.ends ht he
  obtain ⟨hleave, haway⟩ := hw.pool.sound.leave t.number
  have hpool : e'.ledger.pool = (l.pool.leave t.number).1 := hrests.pool
  have hothers : ∀ m, m ≠ t.number → e'.ledger.pool.place m = e.ledger.pool.place m ∨
      (e.ledger.pool.place m = .waiting ∧ e'.ledger.pool.place m = .given) := by
    rw [hpool]
    exact fun m hm => (hw.others_left hm).imp id And.right
  rw [← hpool] at hleave haway
  -- whoever waits, holds a slot or was given one is not the task that leaves
  have hstill : ∀ m (p : Place), p ≠ .away → e'.ledger.pool.place m = p → m ≠ t.number := by
    rintro m p hp hplace rfl
    exact hp (hplace.symm.trans haway)
  have hback : ∀ m (p : Place), p ≠ .away → p ≠ .given → e'.ledger.pool.place m = p →
      e.ledger.pool.place m = p := by
    intro m p hp hg hplace
    rcases hothers m (hstill m p hp hplace) with hsame | ⟨-, hgiven⟩
    · exact hsame.symm.trans hplace
    · exact absurd (hplace.symm.trans hgiven) hg
  refine
    { spawned := Nat.le_of_eq hrests.spawned.symm
      tasks := ?tasks
      keeps := ?keeps
      holds := ?holds
      waits := ?waits
      fair := ?fair
      closed := ?closed
      shut := ?shut
      calls := ?calls }
  case tasks =>
    intro u hu _
    rw [hrests.tasks] at hu
    exact ⟨u, (mem_left.mp hu).1, rfl, id, id⟩
  case keeps =>
    intro n _ hholding hlives
    have hn : n ≠ t.number := by
      rintro rfl
      exact not_lives_of_left hrests.tasks hlives
    rcases hothers n hn with hsame | ⟨hwaiting, -⟩
    · exact hsame.trans hholding
    · cases hholding.symm.trans hwaiting
  case holds =>
    exact fun n _ hholding => hback n .holding (by simp) (by simp) hholding
  case waits =>
    exact fun n _ hwaiting => hback n .waiting (by simp) (by simp) hwaiting
  case fair =>
    intro a _ hwaiting hwaiting'
    have hne := hstill a .waiting (by simp) hwaiting'
    have hmem := h.pool.place_eq_waiting.mp hwaiting
    have hmid := hw.pool.sound.place_eq_waiting.mp ((hw.others hne).trans hwaiting)
    have hmem' := hleave.sound.place_eq_waiting.mp hwaiting'
    exact (hw.pool.fair a hmem hmid).trans (hleave.fair a hmid hmem')
  case closed =>
    exact fun hc => hrests.closed.trans (hw.closed.trans hc)
  case shut =>
    refine fun hc n => ⟨fun hholding => hback n .holding (by simp) (by simp) hholding,
      fun hgiven => ?_⟩
    rcases hothers n (hstill n .given (by simp) hgiven) with hsame | ⟨hwaiting, -⟩
    · exact hsame.symm.trans hgiven
    · exact absurd hwaiting (h.not_waiting hc n)
  case calls =>
    exact fun hc => (hw.calls hc).trans (hrests.notes.mono fun _ => False.elim)

/-- The client is closed. -/
theorem Standing.onward_close (h : Standing size requests e) (ho : e.ledger.closed = false)
    (hrests : Rests { e with
      ledger := Ledger.mark { e.ledger with closed := true, pool := e.ledger.pool.close.1 }
        none .transportClosed } e') : Onward e e' := by
  obtain ⟨hsound, -, -, hplaces⟩ := h.pool.close
  have hpool : e'.ledger.pool = e.ledger.pool.close.1 := hrests.pool
  rw [← hpool] at hsound hplaces
  -- what is said of a client that was closed before says nothing here
  have hopen : ∀ {p : Prop}, e.ledger.closed = true → p := fun hc => nomatch ho.symm.trans hc
  have hback : ∀ m, e'.ledger.pool.place m ≠ .away →
      e'.ledger.pool.place m = e.ledger.pool.place m :=
    fun m hm => (hplaces m).resolve_right fun h => hm h.2.1
  refine
    { spawned := Nat.le_of_eq hrests.spawned.symm
      tasks := ?tasks
      keeps := ?keeps
      holds := ?holds
      waits := ?waits
      fair := ?fair
      closed := hopen
      shut := hopen
      calls := hopen }
  case tasks =>
    rw [hrests.tasks]
    exact fun t ht _ => ⟨t, ht, rfl, id, id⟩
  case keeps =>
    intro n _ hholding _
    rcases hplaces n with hsame | ⟨hwaiting, -⟩
    · exact hsame.trans hholding
    · cases hholding.symm.trans hwaiting
  case holds =>
    exact fun n _ hp => (hback n fun haway => nomatch hp.symm.trans haway).symm.trans hp
  case waits =>
    exact fun n _ hp => (hback n fun haway => nomatch hp.symm.trans haway).symm.trans hp
  case fair =>
    intro a _ _ hwaiting
    have hmem := hsound.place_eq_waiting.mp hwaiting
    rw [hpool] at hmem
    cases hmem

/-! ## Turns and acts -/

/-- **NO TURN GOES BACK.** -/
theorem Standing.onward_turn (h : Standing size requests e) {n : Nat} (ht : Turn e n e') :
    Onward e e' := by
  cases ht with
  | idle hr => exact .of_rests (.refl e)
  | skip hr hn hrests =>
      exact .of_same_tasks hrests.spawned hrests.tasks hrests.pool hrests.closed hrests.notes
  | stay hn hr ht ha hs hrests => exact (h.onward_stay ht ha hs).trans (.of_rests hrests)
  | leave hn hr ht he hrests hwoken => exact h.onward_leave ht he hrests

/-- **NO ACT GOES BACK.** -/
theorem Standing.onward_act (h : Standing size requests e) {asked : Option Request}
    (ha : Act e asked e') : Onward e e' := by
  cases ha with
  | rest hr => exact .of_rests hr
  | @spawn job asked futures loads e' hs hrests =>
      refine .of_same ?_ ?_ hrests.pool hrests.closed hrests.notes
      · rw [hrests.spawned]
        exact Nat.le_succ _
      · intro u hu hn
        rw [hrests.tasks] at hu
        rcases List.mem_append.mp hu with hu | hu
        · exact ⟨u, hu, rfl, id, id⟩
        · rw [List.mem_singleton.mp hu] at hn
          exact absurd hn (Nat.lt_irrefl _)
  | @cancel future c e' hf hc hrests hwoken =>
      refine .of_same (Nat.le_of_eq hrests.spawned.symm) ?_ hrests.pool hrests.closed hrests.notes
      intro u hu _
      rw [hrests.tasks] at hu
      obtain ⟨v, hv, hn, -, hb, hcase⟩ := mem_cancelled hu
      refine ⟨v, hv, hn.symm, hb.trans, ?_⟩
      rcases hcase with ⟨-, ha⟩ | ⟨-, rfl⟩
      · exact fun _ => ha
      · exact id
  | ask hf hev hrests =>
      exact .of_same_tasks hrests.spawned hrests.tasks hrests.pool hrests.closed hrests.notes
  | decide hrests =>
      exact .of_same_tasks hrests.spawned hrests.tasks hrests.pool hrests.closed hrests.notes
  | close ho hrests hwoken => exact h.onward_close ho hrests

end Engine

end Courier
