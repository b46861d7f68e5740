import Courier.Proofs.Program.Junctures

/-!
# Beside — the ledger as it is for everyone else

Some tasks are to be left out of account.  Two ledgers are the same beside these tasks if they
differ in nothing but their notes and the calls that these tasks are inside (`Ledger.Beside`).
Nobody reads the notes, and nobody asks which call another task is inside; so whatever any other task
does to two such ledgers it does to both, and stops at the same point (`Program.run_beside`).
-/

namespace Courier

variable {β : Type}

/-! ## Lists without some of their members -/

section Without

variable {N N' : List Nat} {γ : Type}

/-- What is the same without some is the same without more. -/
theorem filter_without_mono (hN : ∀ n ∈ N, n ∈ N') {f : γ → Nat} {xs ys : List γ}
    (h : ys.filter (fun x => f x ∉ N) = xs.filter fun x => f x ∉ N) :
    ys.filter (fun x => f x ∉ N') = xs.filter fun x => f x ∉ N' := by
  have hsplit : ∀ zs : List γ,
      zs.filter (fun x => f x ∉ N') = (zs.filter fun x => f x ∉ N).filter fun x => f x ∉ N' := by
    intro zs
    rw [List.filter_filter]
    refine List.filter_congr fun x _ => ?_
    by_cases hx : f x ∈ N
    · simp [hN _ hx]
    · simp [hx]
  rw [hsplit, hsplit xs, h]

/-- Whoever is left out anyway may as well be taken out. -/
theorem filter_without_ne {n : Nat} (hn : n ∈ N) (f : γ → Nat) (xs : List γ) :
    (xs.filter fun x => f x != n).filter (fun x => f x ∉ N) = xs.filter fun x => f x ∉ N := by
  rw [List.filter_filter]
  refine List.filter_congr fun x _ => ?_
  by_cases hx : f x = n
  · simp [hx, hn]
  · simp [hx]

/-- One is taken out of both. -/
theorem filter_without_comm (n : Nat) (f : γ → Nat) {xs ys : List γ}
    (h : ys.filter (fun x => f x ∉ N) = xs.filter fun x => f x ∉ N) :
    (ys.filter fun x => f x != n).filter (fun x => f x ∉ N)
      = (xs.filter fun x => f x != n).filter fun x => f x ∉ N := by
  have hswap : ∀ zs : List γ, (zs.filter fun x => f x != n).filter (fun x => f x ∉ N)
      = (zs.filter fun x => f x ∉ N).filter fun x => f x != n := by
    intro zs
    rw [List.filter_filter, List.filter_filter]
    exact List.filter_congr fun x _ => Bool.and_comm _ _
  rw [hswap, hswap xs, h]

/-- The calls of a task are the same where those of the others are left out. -/
theorem lookup_without {m : Nat} (hm : m ∉ N) (running : List (Nat × Nat)) :
    (running.filter fun x => x.1 ∉ N).lookup m = running.lookup m :=
  Ledger.lookup_kept (· ∉ N) (by simpa using hm) running

end Without

namespace Ledger

/-- **THE SAME BESIDE SOME TASKS**: two ledgers differ in their notes, and in the calls that these
    tasks are inside, and in nothing else. -/
def Beside (N : List Nat) (l l' : Ledger) : Prop :=
  ∃ notes running, l' = { l with notes := notes, running := running } ∧
    running.filter (fun x => x.1 ∉ N) = l.running.filter fun x => x.1 ∉ N

variable {N N' : List Nat} {l l' l'' : Ledger} {m : Nat}

/-- A note of a task that is left out makes no difference. -/
theorem beside_mark (N : List Nat) (l : Ledger) (task : Option Nat) (what : Happening) :
    l.Beside N (l.mark task what) :=
  ⟨_, l.running, rfl, rfl⟩

namespace Beside

/-- A ledger is the same as itself beside any tasks. -/
theorem refl (N : List Nat) (l : Ledger) : l.Beside N l :=
  ⟨l.notes, l.running, rfl, rfl⟩

/-- It does not matter which of the two comes first. -/
theorem symm (h : l.Beside N l') : l'.Beside N l := by
  obtain ⟨notes, running, rfl, hrunning⟩ := h
  exact ⟨l.notes, l.running, rfl, hrunning.symm⟩

/-- What is the same beside some tasks twice over is the same beside them. -/
theorem trans (h : l.Beside N l') (h' : l'.Beside N l'') : l.Beside N l'' := by
  obtain ⟨notes, running, rfl, hrunning⟩ := h
  obtain ⟨notes', running', rfl, hrunning'⟩ := h'
  exact ⟨notes', running', rfl, hrunning'.trans hrunning⟩

/-- It is the same beside more tasks. -/
theorem mono (hN : ∀ n ∈ N, n ∈ N') (h : l.Beside N l') : l.Beside N' l' := by
  obtain ⟨notes, running, rfl, hrunning⟩ := h
  exact ⟨notes, running, rfl, filter_without_mono hN hrunning⟩

/-- Notes make no difference. -/
theorem mark (h : l.Beside N l') (task task' : Option Nat) (what what' : Happening) :
    (l.mark task what).Beside N (l'.mark task' what') := by
  obtain ⟨notes, running, rfl, hrunning⟩ := h
  exact ⟨_, running, rfl, hrunning⟩

/-- The same things are told to the log in both. -/
theorem tellAll (h : l.Beside N l') (task : Option Nat) (entries : List Log) :
    (l.tellAll task entries).Beside N (l'.tellAll task entries) := by
  rw [Ledger.tellAll, Ledger.tellAll]
  induction entries generalizing l l' with
  | nil => exact h
  | cons entry rest ih => exact ih (h.mark task task (.told entry) (.told entry))

/-- The same call is made in both, and the transport behaves the same. -/
theorem call (h : l.Beside N l') (parts : Parts) (m : Nat) (request : Request) :
    (l.call parts m request).1.Beside N (l'.call parts m request).1 ∧
      (l'.call parts m request).2 = (l.call parts m request).2 := by
  obtain ⟨notes, running, rfl, hrunning⟩ := h
  refine ⟨⟨_, _, rfl, ?_⟩, rfl⟩
  show ((m, _) :: running).filter _ = ((m, _) :: l.running).filter _
  rw [List.filter_cons, List.filter_cons, hrunning]
  rfl

/-- A task is inside the call that it is inside, whatever is said of others. -/
theorem lookup (h : l.Beside N l') (hm : m ∉ N) : l'.running.lookup m = l.running.lookup m := by
  obtain ⟨notes, running, rfl, hrunning⟩ := h
  rw [← lookup_without hm, hrunning, lookup_without hm]

/-- A call ends, if it is one of a task that counts. -/
theorem forget (h : l.Beside N l') (m : Nat) (what what' : Happening) :
    (Ledger.mark { l with running := l.running.filter (·.1 != m) } (some m) what).Beside N
      (Ledger.mark { l' with running := l'.running.filter (·.1 != m) } (some m) what') := by
  obtain ⟨notes, running, rfl, hrunning⟩ := h
  exact ⟨_, _, rfl, filter_without_comm m Prod.fst hrunning⟩

/-- A call gives its outcome in both. -/
theorem answered (h : l.Beside N l') (hm : m ∉ N) : (l.answered m).Beside N (l'.answered m) := by
  rw [Ledger.answered, Ledger.answered, h.lookup hm]
  split
  · exact h
  · exact h.forget m _ _

/-- A call is cut off in both. -/
theorem cut (h : l.Beside N l') (hm : m ∉ N) : (l.cut m).Beside N (l'.cut m) := by
  rw [Ledger.cut, Ledger.cut, h.lookup hm]
  split
  · exact h
  · exact h.forget m _ _

/-- The call of a task that is left out is cut off. -/
theorem cut_of_mem (l : Ledger) (hm : m ∈ N) : l.Beside N (l.cut m) := by
  rw [Ledger.cut]
  split
  · exact .refl N l
  · exact ⟨_, _, rfl, filter_without_ne hm Prod.fst l.running⟩

/-- The same record is handed over in both, and the sink says the same of it. -/
theorem record (h : l.Beside N l') (parts : Parts) (m : Nat) (r : Record) :
    (l.record parts m r).1.Beside N (l'.record parts m r).1 ∧
      (l'.record parts m r).2 = (l.record parts m r).2 := by
  obtain ⟨notes, running, rfl, hrunning⟩ := h
  have hrecorded :
      (Ledger.mark { l with records := r :: l.records } (some m) (.recorded r)).Beside N
      (Ledger.mark { l with notes := notes, running := running, records := r :: l.records } (some m)
        (.recorded r)) := ⟨_, running, rfl, hrunning⟩
  refine ⟨?_, rfl⟩
  rw [Ledger.record, Ledger.record]
  dsimp only
  split
  · exact hrecorded.mark _ _ _ _
  · exact hrecorded

/-- The delayer is asked in both, and has them wait equally long. -/
theorem pause (h : l.Beside N l') (parts : Parts) (m attempt : Nat) :
    (l.pause parts m attempt).1.Beside N (l'.pause parts m attempt).1 ∧
      (l'.pause parts m attempt).2 = (l.pause parts m attempt).2 := by
  obtain ⟨notes, running, rfl, hrunning⟩ := h
  exact ⟨⟨_, running, rfl, hrunning⟩, rfl⟩

/-- The places at the slots may change in both alike. -/
theorem withPool (h : l.Beside N l') (pool : SlotPool) :
    ({ l with pool := pool } : Ledger).Beside N { l' with pool := pool } := by
  obtain ⟨notes, running, rfl, hrunning⟩ := h
  exact ⟨notes, running, rfl, hrunning⟩

theorem withElapsed (h : l.Beside N l') (now : Nat) :
    ({ l with elapsed := now } : Ledger).Beside N { l' with elapsed := now } := by
  obtain ⟨notes, running, rfl, hrunning⟩ := h
  exact ⟨notes, running, rfl, hrunning⟩

/-- The client is closed, and its pool. -/
theorem close (h : l.Beside N l') (pool : SlotPool) :
    ({ l with closed := true, pool := pool } : Ledger).Beside N
      { l' with closed := true, pool := pool } := by
  obtain ⟨notes, running, rfl, hrunning⟩ := h
  exact ⟨notes, running, rfl, hrunning⟩

/-- The transport is closed. -/
theorem shut (h : l.Beside N l') :
    ({ l with shut := true } : Ledger).Beside N { l' with shut := true } := by
  obtain ⟨notes, running, rfl, hrunning⟩ := h
  exact ⟨notes, running, rfl, hrunning⟩

/-- The transport has had the same calls. -/
theorem calls (h : l.Beside N l') : l'.calls = l.calls := by
  obtain ⟨notes, running, rfl, -⟩ := h
  rfl

/-- The sink has had the same records. -/
theorem records (h : l.Beside N l') : l'.records = l.records := by
  obtain ⟨notes, running, rfl, -⟩ := h
  rfl

theorem tick (h : l.Beside N l') : l'.tick = l.tick := by
  obtain ⟨notes, running, rfl, -⟩ := h
  rfl

/-- The slots are given to the same tasks. -/
theorem pool (h : l.Beside N l') : l'.pool = l.pool := by
  obtain ⟨notes, running, rfl, -⟩ := h
  rfl

/-- Either both clients are closed or neither is. -/
theorem closed (h : l.Beside N l') : l'.closed = l.closed := by
  obtain ⟨notes, running, rfl, -⟩ := h
  rfl

/-- The clocks show the same. -/
theorem now (h : l.Beside N l') : l'.now = l.now := by
  obtain ⟨notes, running, rfl, -⟩ := h
  rfl

theorem elapsed (h : l.Beside N l') : l'.elapsed = l.elapsed := by
  obtain ⟨notes, running, rfl, -⟩ := h
  rfl

/-- A sleep ends at the same time. -/
theorem due (h : l.Beside N l') (length : Duration) : l'.due length = l.due length := by
  obtain ⟨notes, running, rfl, -⟩ := h
  rfl

end Beside

end Ledger

namespace Program

variable {N : List Nat} {l l' : Ledger} {m : Nat}

/-- **A TASK THAT RUNS DOES THE SAME** to two ledgers that are the same beside others, and stops at
    the same point. -/
theorem run_beside (h : l.Beside N l') (hm : m ∉ N) (parts : Parts) (p : Program β) :
    (p.run parts m l).1.Beside N (p.run parts m l').1 ∧
      (p.run parts m l').2 = (p.run parts m l).2 := by
  induction p generalizing l l' with
  | done value => exact ⟨h, rfl⟩
  | panic text => exact ⟨h, rfl⟩
  | stall => exact ⟨h, rfl⟩
  | note what next ih => exact ih (h.mark _ _ _ _)
  | clock next ih =>
      rw [run, run, h.now]
      exact ih l.now h
  | sleep length next ih =>
      rw [run, run, h.due, h.elapsed]
      split
      · exact ih h
      · exact ⟨h, rfl⟩
  | pause attempt next ih =>
      obtain ⟨hpause, hlength⟩ := h.pause parts m attempt
      rw [run, run]
      dsimp only
      rw [hlength, hpause.due, hpause.elapsed]
      split
      · exact ih hpause
      · exact ⟨hpause, rfl⟩
  | closed next ih =>
      rw [run, run, h.closed]
      exact ih _ h
  | slot next ih =>
      rw [run, run, h.pool]
      split
      · exact ih true (h.withPool _)
      · exact ih false (h.withPool _)
      · exact ⟨h.withPool _, rfl⟩
  | call request next ih =>
      obtain ⟨hcall, hbehaviour⟩ := h.call parts m request
      rw [run, run]
      dsimp only
      rw [hbehaviour]
      exact ih _ hcall
  | answered next ih => exact ih (h.answered hm)
  | record r next ih =>
      obtain ⟨hrecord, hrefusal⟩ := h.record parts m r
      rw [run, run]
      dsimp only
      rw [hrefusal]
      exact ih _ hrecord

end Program

end Courier
