import Courier.Proofs.Program.Junctures
import Mathlib.Data.List.Pairwise

/-!
# Books — what a ledger keeps of calls and records

Everything that has to do with a call is noted: that it was made, that it was answered or cut off,
and the record that came of it.  The books of a ledger are in order (`Ledger.Sound`) if calls and
records are those that were noted, each of a task, each call has its number, no task is inside two of
them, and for every call that was made there is a record, or it is not answered yet, or it was cut
off; between its answer and its record it is owed one.  Remarks change nothing of that
(`Ledger.Jots`), and every call belongs to one task (`Ledger.Sound.perm_callsOf`).
-/

namespace Courier

variable {β : Type}

/-- Whether something that happened has to do with a call. -/
def Happening.isEntry : Happening → Bool
  | .called _ | .answered _ | .recorded _ | .cut _ => true
  | _ => false

/-- Whatever has nothing to do with a call is no step of an attempt. -/
theorem Happening.isStep_of_isEntry {what : Happening} (h : what.isEntry = false) :
    what.isStep = false := by
  cases what with
  | called | answered | recorded => cases h
  | _ => rfl

theorem Happening.isEntry_of_isRemark {what : Happening} (h : what.isRemark = true) :
    what.isEntry = false := by
  cases what with
  | told | handled => rfl
  | _ => cases h

/-- A record that was handed to the sink, if that is what happened. -/
def Happening.record? : Happening → Option Record
  | .recorded r => some r
  | _ => none

namespace Note

/-- The call that was made, if one was. -/
def call? (x : Note) : Option Call :=
  match x.what with
  | .called call => some call
  | _ => none

/-- The record that was handed over, if one was. -/
def record? (x : Note) : Option Record :=
  x.what.record?

/-- The number of the call that was cut off, if one was. -/
def cut? (x : Note) : Option Nat :=
  match x.what with
  | .cut number => some number
  | _ => none

/-- What has nothing to do with a call is left out of the books. -/
theorem entry_of_not {x : Note} (h : x.what.isEntry = false) :
    x.call? = none ∧ x.record? = none ∧ x.cut? = none := by
  rw [call?, record?, Happening.record?.eq_def, cut?]
  cases hwhat : x.what with
  | called | answered | recorded | cut =>
      rw [hwhat] at h
      cases h
  | _ => exact ⟨rfl, rfl, rfl⟩

end Note

namespace Ledger

/-- The calls that were cut off, latest first. -/
def cuts (l : Ledger) : List Nat :=
  l.notes.filterMap Note.cut?

/-- The calls of a task that were cut off, latest first. -/
def cutsOf (l : Ledger) (n : Nat) : List Nat :=
  (l.notesOf n).filterMap Note.cut?

/-- The calls of a task, latest first. -/
def callsOf (l : Ledger) (n : Nat) : List Call :=
  (l.notesOf n).filterMap Note.call?

/-- The records of a task, in order. -/
def recordsOf (l : Ledger) (n : Nat) : List Record :=
  (l.stepsOf n).filterMap Happening.record?

/-- **THE BOOKS ARE IN ORDER**, with this many records owed. -/
structure Sound (owed : Nat) (l : Ledger) : Prop where
  calls : l.calls = l.notes.filterMap Note.call?
  records : l.records = l.notes.filterMap Note.record?
  named : ∀ x ∈ l.notes, x.what.isEntry = true → ∃ n, x.task = some n
  numbered : ∀ later call earlier, l.calls = later ++ call :: earlier →
    call.number = earlier.length + 1
  once : (l.running.map Prod.fst).Nodup
  count : l.calls.length = l.records.length + l.running.length + l.cuts.length + owed

/-- **NOTHING BUT REMARKS**: nothing has to do with calls, and all that was noted was noted of one
task, or of none. -/
structure Jots (m : Option Nat) (l l' : Ledger) : Prop where
  calls : l'.calls = l.calls
  records : l'.records = l.records
  running : l'.running = l.running
  notes : ∃ more, l'.notes = more ++ l.notes ∧
    ∀ x ∈ more, (x.task = none ∨ x.task = m) ∧ x.what.isEntry = false

variable {l l' l'' : Ledger} {m : Option Nat} {n owed : Nat}

/-- Whatever was noted of the calls of a task is a step of an attempt, or cut it off. -/
theorem step_or_cut_of_entry {x : Note} (hx : x ∈ l.notes) (hn : x.task = some n)
    (hentry : x.what.isEntry = true) :
    x.what ∈ l.stepsOf n ∨ ∃ number ∈ l.cutsOf n, x.what = .cut number := by
  have hown : x ∈ l.notesOf n := List.mem_filter.mpr ⟨hx, by simp [hn]⟩
  have hstep : x.what.isStep = true → x.what ∈ l.stepsOf n := fun h =>
    List.mem_filter.mpr ⟨List.mem_map_of_mem (List.mem_reverse.mpr hown), h⟩
  cases hwhat : x.what with
  | called | answered | recorded =>
      rw [hwhat] at hstep
      exact Or.inl (hstep rfl)
  | cut number =>
      refine Or.inr ⟨number, List.mem_filterMap.mpr ⟨x, hown, ?_⟩, rfl⟩
      rw [Note.cut?, hwhat]
  | _ =>
      rw [hwhat] at hentry
      cases hentry

/-! ## Remarks -/

namespace Jots

/-- Nothing is noted at all. -/
theorem of_same (hcalls : l'.calls = l.calls) (hrecords : l'.records = l.records)
    (hrunning : l'.running = l.running) (hnotes : l'.notes = l.notes) : Jots m l l' :=
  ⟨hcalls, hrecords, hrunning, [], hnotes, fun _ hx => nomatch hx⟩

theorem refl (m : Option Nat) (l : Ledger) : Jots m l l :=
  .of_same rfl rfl rfl rfl

theorem trans (h : Jots m l l') (h' : Jots m l' l'') : Jots m l l'' := by
  obtain ⟨more, hmore, hall⟩ := h.notes
  obtain ⟨more', hmore', hall'⟩ := h'.notes
  refine ⟨h'.calls.trans h.calls, h'.records.trans h.records, h'.running.trans h.running,
    more' ++ more, by rw [hmore', hmore, List.append_assoc], fun x hx => ?_⟩
  exact (List.mem_append.mp hx).elim (hall' x) (hall x)

/-- What is noted outside all tasks is noted of none. -/
theorem mono (h : Jots none l l') (m : Option Nat) : Jots m l l' := by
  obtain ⟨more, hmore, hall⟩ := h.notes
  exact ⟨h.calls, h.records, h.running, more, hmore,
    fun x hx => ⟨Or.inl ((hall x hx).1.elim id id), (hall x hx).2⟩⟩

theorem mark (l : Ledger) {task : Option Nat} (hm : task = none ∨ task = m) {what : Happening}
    (hwhat : what.isEntry = false) : Jots m l (l.mark task what) :=
  ⟨rfl, rfl, rfl, [⟨l.elapsed, task, what⟩], rfl, List.forall_mem_singleton.mpr ⟨hm, hwhat⟩⟩

theorem tellAll (l : Ledger) {task : Option Nat} (hm : task = none ∨ task = m)
    (entries : List Log) : Jots m l (l.tellAll task entries) := by
  rw [Ledger.tellAll]
  induction entries generalizing l with
  | nil => exact .refl m l
  | cons entry rest ih => exact (Jots.mark l hm rfl).trans (ih (l.tell task entry))

/-- Remarks of a task spare all others. -/
theorem spares (h : Jots m l l') (hm : m ≠ some n) : l.Spares n l' := by
  obtain ⟨more, hmore, hall⟩ := h.notes
  refine ⟨?_, by rw [Ledger.inside, Ledger.inside, h.running]⟩
  have hothers : more.filter (·.task == some n) = [] := by
    refine List.filter_eq_nil_iff.mpr fun x hx => ?_
    rcases (hall x hx).1 with hnone | hown
    · simp [hnone]
    · simp [hown, hm]
  rw [notesOf, notesOf, hmore, List.filter_append, hothers, List.nil_append]

/-- Remarks are no steps of an attempt, and cut nobody off. -/
theorem own (h : Jots m l l') (n : Nat) :
    l'.stepsOf n = l.stepsOf n ∧ l'.cutsOf n = l.cutsOf n ∧ l'.inside n = l.inside n := by
  obtain ⟨more, hmore, hall⟩ := h.notes
  have hnotes : l'.notesOf n = more.filter (·.task == some n) ++ l.notesOf n := by
    rw [notesOf, notesOf, hmore, List.filter_append]
  refine ⟨?_, ?_, by rw [Ledger.inside, Ledger.inside, h.running]⟩
  · have hsteps : ((more.filter (·.task == some n)).reverse.map Note.what).filter Happening.isStep
        = [] := by
      refine List.filter_eq_nil_iff.mpr fun what hwhat => ?_
      obtain ⟨x, hx, rfl⟩ := List.mem_map.mp hwhat
      have hx' := List.mem_of_mem_filter (List.mem_reverse.mp hx)
      rw [Happening.isStep_of_isEntry (hall x hx').2]
      exact Bool.false_ne_true
    rw [stepsOf, stepsOf, hnotes, List.reverse_append, List.map_append, List.filter_append, hsteps,
      List.append_nil]
  · have hcuts : (more.filter (·.task == some n)).filterMap Note.cut? = [] := by
      refine List.filterMap_eq_nil_iff.mpr fun x hx => ?_
      exact (Note.entry_of_not (hall x (List.mem_of_mem_filter hx)).2).2.2
    rw [cutsOf, cutsOf, hnotes, List.filterMap_append, hcuts, List.nil_append]

/-- Remarks leave the books as they are. -/
theorem sound (h : Jots m l l') (hl : l.Sound owed) : l'.Sound owed := by
  obtain ⟨more, hmore, hall⟩ := h.notes
  have hnone : ∀ {γ : Type} (read : Note → Option γ),
      (∀ x : Note, x.what.isEntry = false → read x = none) →
      l'.notes.filterMap read = l.notes.filterMap read := by
    intro γ read hread
    have hmore' : more.filterMap read = [] :=
      List.filterMap_eq_nil_iff.mpr fun x hx => hread x (hall x hx).2
    rw [hmore, List.filterMap_append, hmore', List.nil_append]
  have hcuts : l'.cuts = l.cuts := hnone Note.cut? fun x hx => (Note.entry_of_not hx).2.2
  refine ⟨?_, ?_, ?_, ?_, ?_, ?_⟩
  · rw [h.calls, hnone Note.call? fun x hx => (Note.entry_of_not hx).1]
    exact hl.calls
  · rw [h.records, hnone Note.record? fun x hx => (Note.entry_of_not hx).2.1]
    exact hl.records
  · rw [hmore]
    intro x hx hentry
    rcases List.mem_append.mp hx with hnew | hold
    · cases hentry.symm.trans (hall x hnew).2
    · exact hl.named x hold hentry
  · rw [h.calls]
    exact hl.numbered
  · rw [h.running]
    exact hl.once
  · rw [h.calls, h.records, h.running, hcuts]
    exact hl.count

end Jots

/-! ## Calls -/

/-- A task that is inside a call is there once. -/
theorem length_left {running : List (Nat × Nat)} (honce : (running.map Prod.fst).Nodup)
    {number : Nat} (h : running.lookup n = some number) :
    (running.filter (·.1 != n)).length + 1 = running.length := by
  induction running with
  | nil => cases h
  | cons x rest ih =>
      obtain ⟨k, c⟩ := x
      obtain ⟨hfirst, hrest⟩ := List.nodup_cons.mp honce
      by_cases hk : n = k
      · subst hk
        have hothers : rest.filter (·.1 != n) = rest := by
          refine List.filter_eq_self.mpr fun y hy => bne_iff_ne.mpr fun heq => hfirst ?_
          exact List.mem_map.mpr ⟨y, hy, heq⟩
        rw [List.filter_cons_of_neg (by simp), hothers, List.length_cons]
      · rw [List.lookup_cons, beq_false_of_ne hk] at h
        rw [List.filter_cons_of_pos (by simpa using Ne.symm hk), List.length_cons, ih hrest h,
          List.length_cons]

theorem once_filter {running : List (Nat × Nat)} (honce : (running.map Prod.fst).Nodup)
    (keep : Nat × Nat → Bool) : ((running.filter keep).map Prod.fst).Nodup :=
  (List.filter_sublist.map Prod.fst).nodup honce

/-- Whatever a task notes is noted of it. -/
theorem Sound.named_mark (h : l.Sound owed) (n : Nat) (what : Happening) :
    ∀ x ∈ (l.mark (some n) what).notes, x.what.isEntry = true → ∃ n, x.task = some n := by
  intro x hx hentry
  rcases List.mem_cons.mp hx with rfl | hold
  · exact ⟨n, rfl⟩
  · exact h.named x hold hentry

theorem Sound.call (h : l.Sound owed) (hn : l.inside n = none) (parts : Parts)
    (request : Request) : (l.call parts n request).1.Sound owed := by
  refine ⟨?_, ?_, h.named_mark n _, ?_, ?_, ?_⟩
  · exact congrArg (l.nextCall request :: ·) h.calls
  · exact h.records
  · intro later call earlier heq
    cases later with
    | nil =>
        cases heq
        rfl
    | cons x later => exact h.numbered later call earlier (List.cons.inj heq).2
  · refine List.nodup_cons.mpr ⟨fun hmem => ?_, h.once⟩
    obtain ⟨x, hx, rfl⟩ := List.mem_map.mp hmem
    simpa using List.lookup_eq_none_iff.mp hn x hx
  · show l.calls.length + 1 = l.records.length + (l.running.length + 1) + l.cuts.length + owed
    rw [h.count]
    omega

theorem Sound.answered (h : l.Sound owed) {number : Nat} (hn : l.inside n = some number) :
    (l.answered n).Sound (owed + 1) := by
  have hlookup : l.running.lookup n = some number := hn
  have hlength := length_left h.once hlookup
  rw [Ledger.answered, hlookup]
  refine ⟨h.calls, h.records, h.named_mark n _, h.numbered, once_filter h.once _, ?_⟩
  show l.calls.length = l.records.length + (l.running.filter (·.1 != n)).length + l.cuts.length
    + (owed + 1)
  rw [h.count]
  omega

theorem Sound.record (h : l.Sound (owed + 1)) (parts : Parts) (r : Record) :
    (l.record parts n r).1.Sound owed := by
  have hrecorded : (Ledger.mark { l with records := r :: l.records } (some n)
      (.recorded r)).Sound owed := by
    refine ⟨h.calls, congrArg (r :: ·) h.records, h.named_mark n _, h.numbered, h.once, ?_⟩
    show l.calls.length = (l.records.length + 1) + l.running.length + l.cuts.length + owed
    rw [h.count]
    omega
  rw [Ledger.record]
  dsimp only
  split
  · exact (Jots.mark _ (Or.inr rfl) rfl).sound hrecorded
  · exact hrecorded

/-- What is noted when a call is cut off. -/
theorem notesOf_cut (l : Ledger) (n : Nat) :
    (l.cut n).notesOf n = (l.inside n).toList.map (fun call => ⟨l.elapsed, some n, .cut call⟩)
        ++ l.notesOf n ∧
      (l.cut n).inside n = none := by
  have hinside : l.inside n = l.running.lookup n := rfl
  rw [cut]
  cases hlookup : l.running.lookup n with
  | none =>
      rw [hinside, hlookup]
      exact ⟨rfl, rfl⟩
  | some call =>
      rw [hinside, hlookup]
      exact ⟨List.filter_cons_of_pos (by simp), lookup_forgotten n l.running⟩

/-- A call that is cut off is accounted for by that. -/
theorem Sound.cut (h : l.Sound owed) (n : Nat) : (l.cut n).Sound owed := by
  rw [Ledger.cut]
  split
  · exact h
  · rename_i number hlookup
    have hlength := length_left h.once hlookup
    refine ⟨h.calls, h.records, h.named_mark n _, h.numbered, once_filter h.once _, ?_⟩
    show l.calls.length = l.records.length + (l.running.filter (·.1 != n)).length
      + (l.cuts.length + 1) + owed
    rw [h.count]
    omega

/-! ## Whose calls they are -/

theorem mem_callsOf {call : Call} :
    call ∈ l.callsOf n ↔ ∃ x ∈ l.notes, x.task = some n ∧ x.call? = some call := by
  simp [callsOf, notesOf, and_assoc]

/-- No two calls are the same, for each has its number. -/
theorem Sound.calls_nodup (h : l.Sound owed) : l.calls.Nodup := by
  -- the number of a call is the length of the list that begins with it, so none comes before it
  have hsuffix : ∀ earlier later, l.calls = later ++ earlier →
      earlier.Nodup ∧ ∀ call ∈ earlier, call.number ≤ earlier.length := by
    intro earlier
    induction earlier with
    | nil => exact fun _ _ => ⟨List.nodup_nil, List.forall_mem_nil _⟩
    | cons call rest ih =>
        intro later heq
        obtain ⟨hnodup, hle⟩ := ih (later ++ [call]) (by rw [heq, List.append_assoc]; rfl)
        have hnumber := h.numbered later call rest heq
        refine ⟨List.nodup_cons.mpr ⟨fun hmem => ?_, hnodup⟩, fun other hother => ?_⟩
        · have hfits := hle call hmem
          rw [hnumber] at hfits
          exact Nat.not_succ_le_self _ hfits
        · rcases List.mem_cons.mp hother with rfl | hother
          · exact Nat.le_of_eq hnumber
          · exact Nat.le_succ_of_le (hle other hother)
  exact (hsuffix l.calls [] rfl).1

/-- A call was noted once. -/
theorem Sound.note_eq (h : l.Sound owed) {x y : Note} (hx : x ∈ l.notes) (hy : y ∈ l.notes)
    {call : Call} (hxcall : x.call? = some call) (hycall : y.call? = some call) : x = y := by
  have hcalls := h.calls_nodup
  rw [h.calls] at hcalls
  let Apart (x y : Note) : Prop := ∀ c, x.call? = some c → ∀ c', y.call? = some c' → c ≠ c'
  have hpairs : l.notes.Pairwise Apart := List.pairwise_filterMap.mp hcalls
  have : Std.Symm Apart := ⟨fun x y hxy c hc c' hc' heq => hxy c' hc' c hc heq.symm⟩
  by_contra hne
  exact hpairs.forall hx hy hne call hxcall call hycall rfl

/-- **EVERY CALL BELONGS TO ONE TASK**: the calls of all tasks are all the calls there are. -/
theorem Sound.perm_callsOf (h : l.Sound owed) {tasks : List Nat} (htasks : tasks.Nodup)
    (hall : ∀ x ∈ l.notes, x.what.isEntry = true → ∃ n ∈ tasks, x.task = some n) :
    (tasks.flatMap l.callsOf).Perm l.calls := by
  have hcalls := h.calls_nodup
  have hread := hcalls
  rw [h.calls] at hread
  have hown : ∀ n, (l.callsOf n).Nodup := fun n =>
    (List.filter_sublist.filterMap Note.call?).nodup hread
  have hapart : tasks.Pairwise (Function.onFun List.Disjoint l.callsOf) := by
    refine htasks.imp fun hne call hcall hcall' => hne ?_
    obtain ⟨x, hx, hn, hxcall⟩ := mem_callsOf.mp hcall
    obtain ⟨y, hy, hm, hycall⟩ := mem_callsOf.mp hcall'
    rw [h.note_eq hx hy hxcall hycall] at hn
    exact Option.some.inj (hn.symm.trans hm)
  refine (List.perm_ext_iff_of_nodup (List.nodup_flatMap.mpr ⟨fun n _ => hown n, hapart⟩)
    hcalls).mpr fun call => ?_
  rw [List.mem_flatMap, h.calls, List.mem_filterMap]
  constructor
  · rintro ⟨n, -, hcall⟩
    obtain ⟨x, hx, -, hread⟩ := mem_callsOf.mp hcall
    exact ⟨x, hx, hread⟩
  · rintro ⟨x, hx, hread⟩
    have hentry : x.what.isEntry = true := by
      refine Bool.of_not_eq_false fun hno => ?_
      exact nomatch hread.symm.trans (Note.entry_of_not hno).1
    obtain ⟨n, hn, htask⟩ := hall x hx hentry
    exact ⟨n, hn, mem_callsOf.mpr ⟨x, hx, htask, hread⟩⟩

/-! ## What is added to the calls -/

/-- Calls are only ever added. -/
def Grows (l l' : Ledger) : Prop :=
  ∃ more, l'.calls = more ++ l.calls

theorem Grows.refl (l : Ledger) : l.Grows l :=
  ⟨[], rfl⟩

theorem Grows.trans (h : l.Grows l') (h' : l'.Grows l'') : l.Grows l'' := by
  obtain ⟨more, hmore⟩ := h
  obtain ⟨more', hmore'⟩ := h'
  exact ⟨more' ++ more, by rw [hmore', hmore, List.append_assoc]⟩

theorem Grows.of_eq (h : l'.calls = l.calls) : l.Grows l' :=
  ⟨[], h⟩

theorem calls_cut (l : Ledger) (n : Nat) : (l.cut n).calls = l.calls := by
  rw [cut]
  split <;> rfl

end Ledger

/-- A task that runs makes calls, and takes none back. -/
theorem Program.grows_run (parts : Parts) (n : Nat) (l : Ledger) (p : Program β) :
    l.Grows (p.run parts n l).1 := by
  induction p generalizing l with
  | done value => exact .refl l
  | panic text => exact .refl l
  | stall => exact .refl l
  | note what next ih => exact ih (l.mark (some n) what)
  | clock next ih => exact ih _ l
  | sleep length next ih =>
      rw [run]
      split
      · exact ih l
      · exact .refl l
  | pause attempt next ih =>
      rw [run]
      dsimp only
      split
      · exact ih (l.pause parts n attempt).1
      · exact .of_eq rfl
  | closed next ih => exact ih _ l
  | slot next ih =>
      rw [run]
      split
      · rename_i pool _
        exact ih true { l with pool := pool }
      · rename_i pool _
        exact ih false { l with pool := pool }
      · exact .of_eq rfl
  | call request next ih =>
      have hcall : l.Grows (l.call parts n request).1 := ⟨[l.nextCall request], rfl⟩
      exact hcall.trans (ih _ _)
  | answered next ih =>
      have hsame : (l.answered n).calls = l.calls := by
        rw [Ledger.answered]
        split <;> rfl
      exact (Ledger.Grows.of_eq hsame).trans (ih _)
  | record r next ih =>
      have hsame : (l.record parts n r).1.calls = l.calls := by
        rw [Ledger.record]
        dsimp only
        split <;> rfl
      exact (Ledger.Grows.of_eq hsame).trans (ih _ _)

end Courier
