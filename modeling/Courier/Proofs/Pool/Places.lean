import Courier.SlotPool
import Mathlib.Data.List.Nodup

/-!
# Places — where a task stands with a pool

A task is away from a pool, waits for a slot, was given one, or has taken it.  Whatever one task
does to a sound pool, the pool stays sound and keeps its slots, the others keep their places, except
that the first who waits may be given a slot (`Passes`), and nobody is overtaken (`Fair`).
-/

namespace Courier.SlotPool

/-- Where a task stands with a pool. -/
inductive Place where
  | away
  | waiting
  /-- It was given a slot and has not taken it yet. -/
  | given
  | holding
  deriving Repr, DecidableEq

/-- Where a task stands with this pool. -/
def place (p : SlotPool) (n : Nat) : Place :=
  if n ∈ p.holders then .holding
  else if n ∈ p.granted then .given
  else if n ∈ p.waiting then .waiting
  else .away

/-- A pool in which every task has one place, no slot is free while someone waits, and nobody waits
    in vain. -/
structure Sound (p : SlotPool) : Prop where
  once : (p.holders ++ p.granted ++ p.waiting).Nodup
  idle : p.waiting ≠ [] → p.free = 0
  shut : p.closed = true → p.waiting = []

/-- Those who came before a task, and wait. -/
def ahead (p : SlotPool) (a : Nat) : List Nat :=
  p.waiting.takeWhile (· ≠ a)

/-- Whether a task has a slot, taken or not. -/
def Has (p : SlotPool) (n : Nat) : Prop :=
  n ∈ p.holders ∨ n ∈ p.granted

/-- Between two states of a pool nobody overtook a task that waits: whoever is ahead of it was, and
    whoever got a slot was ahead of it. -/
structure Fair (p p' : SlotPool) (a : Nat) : Prop where
  ahead : ∀ c ∈ p'.ahead a, c ∈ p.ahead a
  slots : ∀ c, p'.Has c → p.Has c ∨ c ∈ p.ahead a

theorem Fair.refl (p : SlotPool) (a : Nat) : p.Fair p a :=
  ⟨fun _ h => h, fun _ h => Or.inl h⟩

theorem Fair.trans {p p' p'' : SlotPool} {a : Nat} (h : p.Fair p' a) (h' : p'.Fair p'' a) :
    p.Fair p'' a := by
  refine ⟨fun c hc => h.ahead c (h'.ahead c hc), fun c hc => ?_⟩
  rcases h'.slots c hc with hc | hc
  · exact h.slots c hc
  · exact Or.inr (h.ahead c hc)

/-- What one task does to a pool, and who is given a slot by that. -/
structure Passes (p p' : SlotPool) (n : Nat) (given : Option Nat) : Prop where
  sound : p'.Sound
  total : p'.total = p.total
  closed : p'.closed = p.closed
  others : ∀ m, m ≠ n → p'.place m = p.place m ∨
    (given = some m ∧ p.place m = .waiting ∧ p'.place m = .given)
  fair : ∀ a ∈ p.waiting, a ∈ p'.waiting → p.Fair p' a

theorem Passes.refl {p : SlotPool} (hp : p.Sound) (n : Nat) (given : Option Nat) :
    p.Passes p n given :=
  ⟨hp, rfl, rfl, fun _ _ => Or.inl rfl, fun a _ _ => .refl p a⟩

section Places

variable {p : SlotPool} {n : Nat}

theorem place_eq_holding : p.place n = .holding ↔ n ∈ p.holders := by
  rw [place]
  split_ifs with h <;> simp [h]

theorem Sound.place_eq_given (hp : p.Sound) : p.place n = .given ↔ n ∈ p.granted := by
  have hn := hp.once
  simp only [List.nodup_append, List.mem_append] at hn
  rw [place]
  split_ifs with h h' <;> simp only [false_iff, true_iff]
  · exact fun h' => hn.1.2.2 n h n h' rfl
  · exact h'
  · exact h'
  · exact h'

theorem Sound.place_eq_waiting (hp : p.Sound) : p.place n = .waiting ↔ n ∈ p.waiting := by
  have hn := hp.once
  simp only [List.nodup_append, List.mem_append] at hn
  rw [place]
  split_ifs with h h' h'' <;> simp only [false_iff, true_iff]
  · exact fun hw => hn.2.2 n (Or.inl h) n hw rfl
  · exact fun hw => hn.2.2 n (Or.inr h') n hw rfl
  · exact h''
  · exact h''

theorem place_eq_away :
    p.place n = .away ↔ n ∉ p.holders ∧ n ∉ p.granted ∧ n ∉ p.waiting := by
  rw [place]
  split_ifs with h h' h'' <;> simp [*]

/-- A place is told by the lists a task is on. -/
theorem place_congr {p' : SlotPool} {m : Nat} (hh : m ∈ p'.holders ↔ m ∈ p.holders)
    (hg : m ∈ p'.granted ↔ m ∈ p.granted) (hw : m ∈ p'.waiting ↔ m ∈ p.waiting) :
    p'.place m = p.place m := by
  simp only [place, hh, hg, hw]

theorem sound_new (size : Nat) : (new size).Sound :=
  ⟨List.nodup_nil, fun h => absurd rfl h, fun _ => rfl⟩

theorem ahead_append {a : Nat} (ha : a ∈ p.waiting) (more : List Nat) :
    (p.waiting ++ more).takeWhile (· ≠ a) = p.ahead a := by
  rw [ahead]
  generalize p.waiting = waiting at ha
  induction waiting with
  | nil => exact nomatch ha
  | cons b rest ih =>
      by_cases hb : b = a
      · simp [hb]
      · have hrest : a ∈ rest := (List.mem_cons.mp ha).resolve_left (Ne.symm hb)
        simpa [hb] using ih hrest

/-- Whoever is ahead of a task is so too when others are gone. -/
theorem mem_takeWhile_of_sublist {a c : Nat} {xs ys : List Nat} (h : xs.Sublist ys)
    (hn : ys.Nodup) (ha : a ∈ xs) (hc : c ∈ xs.takeWhile (· ≠ a)) :
    c ∈ ys.takeWhile (· ≠ a) := by
  induction h with
  | slnil => exact nomatch ha
  | cons b h ih =>
      obtain ⟨hb, hn⟩ := List.nodup_cons.mp hn
      have hba : b ≠ a := fun heq => hb (heq ▸ h.subset ha)
      rw [List.takeWhile_cons_of_pos (by simpa using hba)]
      exact List.mem_cons_of_mem _ (ih hn ha hc)
  | cons_cons b h ih =>
      obtain ⟨hb, hn⟩ := List.nodup_cons.mp hn
      by_cases hba : b = a
      · simp [hba] at hc
      · rw [List.takeWhile_cons_of_pos (by simpa using hba)] at hc ⊢
        have ha := (List.mem_cons.mp ha).resolve_left (Ne.symm hba)
        rcases List.mem_cons.mp hc with rfl | hc
        · exact List.mem_cons_self
        · exact List.mem_cons_of_mem _ (ih hn ha hc)

end Places

/-! ## Asking for a slot -/

/-- What a task is told that asks for a slot, and where it stands after that. -/
inductive Asks (p : SlotPool) (n : Nat) : SlotPool → Reception → Prop where
  | taken {p' : SlotPool} : p.closed = false → p'.place n = .holding → Asks p n p' .taken
  | turnedDown {p' : SlotPool} : p.closed = true → p'.place n = .away → Asks p n p' .turnedDown
  | wait {p' : SlotPool} : p.closed = false → p.place n ≠ .given → p'.place n = .waiting →
      Asks p n p' .wait

section Asking

variable {p : SlotPool} {n : Nat}

/-- A task takes the slot it was given. -/
theorem Sound.takeGiven (hp : p.Sound) (hn : n ∈ p.granted) :
    p.Passes { p with granted := p.granted.erase n, holders := n :: p.holders } n none := by
  have hnodup := hp.once
  simp only [List.nodup_append, List.mem_append] at hnodup
  obtain ⟨⟨hh, hg, hhg⟩, hw, hhgw⟩ := hnodup
  have herase : ∀ m, m ∈ p.granted.erase n ↔ m ≠ n ∧ m ∈ p.granted :=
    fun m => hg.mem_erase_iff
  refine ⟨⟨?_, hp.idle, hp.shut⟩, ?_, rfl, ?_, ?_⟩
  · simp only [List.nodup_append, List.mem_append, List.nodup_cons, List.mem_cons, herase]
    grind [List.Nodup.erase]
  · have := List.length_erase_of_mem hn
    have := List.length_pos_of_mem hn
    simp only [SlotPool.total, List.length_cons]
    omega
  · intro m hm
    refine Or.inl (place_congr ?_ ?_ Iff.rfl)
    · simp [hm]
    · simp [herase, hm]
  · intro a _ _
    refine ⟨fun _ h => h, fun c hc => Or.inl ?_⟩
    simp only [Has, List.mem_cons, herase] at hc ⊢
    grind

/-- A task gives back the slot it was given, when nobody waits. -/
theorem Sound.giveBack (hp : p.Sound) (hn : n ∈ p.granted) (hc : p.closed = true) :
    p.Passes { p with granted := p.granted.erase n, free := p.free + 1 } n none := by
  have hnodup := hp.once
  simp only [List.nodup_append, List.mem_append] at hnodup
  obtain ⟨⟨hh, hg, hhg⟩, hw, hhgw⟩ := hnodup
  have herase : ∀ m, m ∈ p.granted.erase n ↔ m ≠ n ∧ m ∈ p.granted :=
    fun m => hg.mem_erase_iff
  have hnobody := hp.shut hc
  refine ⟨⟨?_, fun h => absurd hnobody h, hp.shut⟩, ?_, rfl, ?_, ?_⟩
  · simp only [List.nodup_append, List.mem_append, herase]
    grind [List.Nodup.erase]
  · have := List.length_erase_of_mem hn
    have := List.length_pos_of_mem hn
    simp only [SlotPool.total]
    omega
  · intro m hm
    refine Or.inl (place_congr Iff.rfl ?_ Iff.rfl)
    simp [herase, hm]
  · intro a ha _
    rw [hnobody] at ha
    exact nomatch ha

/-- A task takes a free slot, when nobody waits. -/
theorem Sound.takeFree (hp : p.Sound) (hn : p.place n = .away) {free : Nat}
    (hf : p.free = free + 1) :
    p.Passes { p with free := free, holders := n :: p.holders } n none := by
  have hnobody : p.waiting = [] := by
    by_contra hw
    have := hp.idle hw
    omega
  obtain ⟨hnh, hng, hnw⟩ := place_eq_away.mp hn
  refine ⟨⟨?_, fun h => absurd hnobody h, hp.shut⟩, ?_, rfl, ?_, ?_⟩
  · refine List.nodup_cons.mpr ⟨?_, hp.once⟩
    simp [hnh, hng, hnw]
  · simp only [SlotPool.total, List.length_cons]
    omega
  · intro m hm
    exact Or.inl (place_congr (by simp [hm]) Iff.rfl Iff.rfl)
  · intro a ha _
    rw [hnobody] at ha
    exact nomatch ha

/-- A task waits behind all others, when no slot is free. -/
theorem Sound.queueUp (hp : p.Sound) (hn : p.place n = .away) (hf : p.free = 0)
    (hc : p.closed = false) : p.Passes { p with waiting := p.waiting ++ [n] } n none := by
  obtain ⟨hnh, hng, hnw⟩ := place_eq_away.mp hn
  refine ⟨⟨?_, fun _ => hf, fun h => absurd h (by simp [hc])⟩, rfl, rfl, ?_, ?_⟩
  · show (p.holders ++ p.granted ++ (p.waiting ++ [n])).Nodup
    rw [← List.append_assoc]
    refine List.nodup_append.mpr ⟨hp.once, List.nodup_singleton n, ?_⟩
    rintro a ha b hb rfl
    rw [List.mem_singleton.mp hb] at ha
    simp [hnh, hng, hnw] at ha
  · intro m hm
    exact Or.inl (place_congr Iff.rfl Iff.rfl (by simp [hm]))
  · intro a ha _
    refine ⟨fun c hc => ?_, fun c hc => Or.inl hc⟩
    rw [← ahead_append ha [n]]
    exact hc

end Asking

/-- **ASKING FOR A SLOT**, by a task that has not taken one. -/
theorem Sound.acquire {p : SlotPool} (hp : p.Sound) {n : Nat} (hn : p.place n ≠ .holding) :
    p.Passes (p.acquire n).1 n none ∧ p.Asks n (p.acquire n).1 (p.acquire n).2 := by
  have hnh : n ∉ p.holders := fun h => hn (place_eq_holding.mpr h)
  have hnobody : p.closed = true → n ∉ p.waiting := by
    intro hc
    rw [hp.shut hc]
    exact List.not_mem_nil
  rw [SlotPool.acquire]
  simp only [List.contains_iff_mem]
  split
  · -- it was given a slot, and takes it, unless the pool was closed since
    rename_i hg
    have hnodup := hp.once
    simp only [List.nodup_append] at hnodup
    split
    · rename_i hc
      refine ⟨hp.giveBack hg hc, .turnedDown hc (place_eq_away.mpr ⟨hnh, ?_, hnobody hc⟩)⟩
      exact hnodup.1.2.1.not_mem_erase
    · rename_i hc
      have hopen : p.closed = false := by simpa using hc
      exact ⟨hp.takeGiven hg, .taken hopen (place_eq_holding.mpr List.mem_cons_self)⟩
  · rename_i hg
    have hng : p.place n ≠ .given := fun h => hg (hp.place_eq_given.mp h)
    split
    · rename_i hc
      exact ⟨.refl hp n none, .turnedDown hc (place_eq_away.mpr ⟨hnh, hg, hnobody hc⟩)⟩
    · rename_i hc
      have hopen : p.closed = false := by simpa using hc
      split
      · -- it is in the line already, and keeps its place there
        rename_i hw
        exact ⟨.refl hp n none, .wait hopen hng (hp.place_eq_waiting.mpr hw)⟩
      · rename_i hw
        have haway : p.place n = .away := place_eq_away.mpr ⟨hnh, hg, hw⟩
        split
        · rename_i free hf
          exact ⟨hp.takeFree haway hf, .taken hopen (place_eq_holding.mpr List.mem_cons_self)⟩
        · rename_i hf
          have hpass := hp.queueUp haway hf hopen
          refine ⟨hpass, .wait hopen hng (hpass.sound.place_eq_waiting.mpr ?_)⟩
          exact List.mem_append_right _ List.mem_cons_self

/-! ## Leaving -/

section Leaving

variable {p q : SlotPool} {n : Nat}

/-- A slot that is put back goes to the first who waits, or is free. -/
theorem Sound.putBack (hq : q.Sound) : q.putBack.1.Sound ∧ q.putBack.1.total = q.total + 1 ∧
    q.putBack.1.closed = q.closed ∧
    (∀ m, q.putBack.1.place m = q.place m ∨
      (q.putBack.2 = some m ∧ q.place m = .waiting ∧ q.putBack.1.place m = .given)) ∧
    ∀ a ∈ q.waiting, a ∈ q.putBack.1.waiting → q.Fair q.putBack.1 a := by
  rw [SlotPool.putBack]
  split
  · rename_i hnobody
    refine ⟨⟨hq.once, fun h => absurd hnobody h, hq.shut⟩, ?_, rfl, fun m => Or.inl rfl, ?_⟩
    · simp only [SlotPool.total]
      omega
    · intro a ha _
      rw [hnobody] at ha
      exact nomatch ha
  · -- the first in the line gets it, so whoever still waits stood behind that one
    rename_i t rest hwaiting
    have hopen : q.closed = true → False := by
      intro hc
      have := hq.shut hc
      rw [hwaiting] at this
      exact nomatch this
    have hidle : q.free = 0 := hq.idle (by simp [hwaiting])
    have hnodup := hq.once
    rw [hwaiting] at hnodup
    have hsound : Sound { q with granted := q.granted ++ [t], waiting := rest } := by
      refine ⟨?_, fun _ => hidle, fun hc => (hopen hc).elim⟩
      show (q.holders ++ (q.granted ++ [t]) ++ rest).Nodup
      simpa using hnodup
    have hhead : ∀ m, m ∈ q.waiting ↔ m = t ∨ m ∈ rest := by
      intro m
      rw [hwaiting, List.mem_cons]
    refine ⟨hsound, ?_, rfl, ?_, ?_⟩
    · simp only [SlotPool.total, List.length_append, List.length_singleton]
      omega
    · intro m
      by_cases hm : m = t
      · subst hm
        refine Or.inr ⟨rfl, hq.place_eq_waiting.mpr ((hhead m).mpr (Or.inl rfl)), ?_⟩
        exact hsound.place_eq_given.mpr (List.mem_append_right _ List.mem_cons_self)
      · exact Or.inl (place_congr Iff.rfl (by simp [hm]) (by simp [hhead, hm]))
    · intro a ha har
      have hrest : (t :: rest).Nodup := (List.nodup_append.mp hnodup).2.1
      have hta : t ≠ a := by
        rintro rfl
        exact (List.nodup_cons.mp hrest).1 har
      refine ⟨fun c hc => ?_, fun c hc => ?_⟩
      · rw [ahead, hwaiting]
        exact mem_takeWhile_of_sublist (List.sublist_cons_self t rest) hrest har hc
      · rcases hc with hc | hc
        · exact Or.inl (Or.inl hc)
        · rcases List.mem_append.mp hc with hc | hc
          · exact Or.inl (Or.inr hc)
          · refine Or.inr ?_
            rw [List.mem_singleton.mp hc, ahead, hwaiting,
              List.takeWhile_cons_of_pos (by simpa using hta)]
            exact List.mem_cons_self

/-- A task that had a slot leaves, and its slot is put back. -/
theorem Sound.passes_putBack (hq : q.Sound) (htotal : q.total + 1 = p.total)
    (hclosed : q.closed = p.closed) (hwaiting : q.waiting = p.waiting)
    (hothers : ∀ m, m ≠ n → q.place m = p.place m) (hhas : ∀ m, q.Has m → p.Has m)
    (hn : q.place n = .away) :
    p.Passes q.putBack.1 n q.putBack.2 ∧ q.putBack.1.place n = .away := by
  obtain ⟨hs, ht, hc, ho, hf⟩ := hq.putBack
  refine ⟨⟨hs, ht.trans htotal, hc.trans hclosed, ?_, ?_⟩, ?_⟩
  · intro m hm
    rw [← hothers m hm]
    exact ho m
  · intro a ha ha'
    have hfair := hf a (hwaiting ▸ ha) ha'
    have hahead : q.ahead a = p.ahead a := by rw [ahead, ahead, hwaiting]
    refine ⟨fun c hc => hahead ▸ hfair.ahead c hc, fun c hc => ?_⟩
    exact (hfair.slots c hc).imp (hhas c) fun hc => hahead ▸ hc
  · rcases ho n with h | ⟨-, h, -⟩
    · rw [h, hn]
    · rw [hn] at h
      exact nomatch h

/-- A task that holds a slot leaves. -/
theorem Sound.leaveHolding (hp : p.Sound) (hn : n ∈ p.holders) :
    p.Passes (SlotPool.putBack { p with holders := p.holders.erase n }).1 n
        (SlotPool.putBack { p with holders := p.holders.erase n }).2 ∧
      (SlotPool.putBack { p with holders := p.holders.erase n }).1.place n = .away := by
  have hnodup := hp.once
  simp only [List.nodup_append, List.mem_append] at hnodup
  obtain ⟨⟨hh, hg, hhg⟩, hw, hhgw⟩ := hnodup
  have herase : ∀ m, m ∈ p.holders.erase n ↔ m ≠ n ∧ m ∈ p.holders :=
    fun m => hh.mem_erase_iff
  have hng : n ∉ p.granted := fun h => hhg n hn n h rfl
  have hnw : n ∉ p.waiting := fun h => hhgw n (Or.inl hn) n h rfl
  refine Sound.passes_putBack ⟨?_, hp.idle, hp.shut⟩ ?_ rfl rfl ?_ ?_ ?_
  · simp only [List.nodup_append, List.mem_append, herase]
    grind [List.Nodup.erase]
  · have := List.length_erase_of_mem hn
    have := List.length_pos_of_mem hn
    simp only [SlotPool.total]
    omega
  · intro m hm
    exact place_congr (by simp [herase, hm]) Iff.rfl Iff.rfl
  · exact fun m hm => hm.imp (fun h => List.mem_of_mem_erase h) id
  · exact place_eq_away.mpr ⟨hh.not_mem_erase, hng, hnw⟩

/-- A task leaves that was given a slot and has not taken it. -/
theorem Sound.leaveGiven (hp : p.Sound) (hn : n ∈ p.granted) :
    p.Passes (SlotPool.putBack { p with granted := p.granted.erase n }).1 n
        (SlotPool.putBack { p with granted := p.granted.erase n }).2 ∧
      (SlotPool.putBack { p with granted := p.granted.erase n }).1.place n = .away := by
  have hnodup := hp.once
  simp only [List.nodup_append, List.mem_append] at hnodup
  obtain ⟨⟨hh, hg, hhg⟩, hw, hhgw⟩ := hnodup
  have herase : ∀ m, m ∈ p.granted.erase n ↔ m ≠ n ∧ m ∈ p.granted :=
    fun m => hg.mem_erase_iff
  have hnh : n ∉ p.holders := fun h => hhg n h n hn rfl
  have hnw : n ∉ p.waiting := fun h => hhgw n (Or.inr hn) n h rfl
  refine Sound.passes_putBack ⟨?_, hp.idle, hp.shut⟩ ?_ rfl rfl ?_ ?_ ?_
  · simp only [List.nodup_append, List.mem_append, herase]
    grind [List.Nodup.erase]
  · have := List.length_erase_of_mem hn
    have := List.length_pos_of_mem hn
    simp only [SlotPool.total]
    omega
  · intro m hm
    exact place_congr Iff.rfl (by simp [herase, hm]) Iff.rfl
  · exact fun m hm => hm.imp id fun h => List.mem_of_mem_erase h
  · exact place_eq_away.mpr ⟨hnh, hg.not_mem_erase, hnw⟩

/-- A task leaves that has no slot, and no slot goes on. -/
theorem Sound.leaveLine (hp : p.Sound) (hnh : n ∉ p.holders) (hng : n ∉ p.granted) :
    p.Passes { p with waiting := p.waiting.erase n } n none ∧
      SlotPool.place { p with waiting := p.waiting.erase n } n = .away := by
  have hnodup := hp.once
  simp only [List.nodup_append, List.mem_append] at hnodup
  obtain ⟨⟨hh, hg, hhg⟩, hw, hhgw⟩ := hnodup
  have herase : ∀ m, m ∈ p.waiting.erase n ↔ m ≠ n ∧ m ∈ p.waiting :=
    fun m => hw.mem_erase_iff
  -- if someone is left in the line, someone was there before
  have hidle : p.waiting.erase n ≠ [] → p.free = 0 := by
    refine fun h => hp.idle fun hnil => h ?_
    rw [hnil]
    rfl
  have hshut : p.closed = true → p.waiting.erase n = [] := by
    intro hc
    rw [hp.shut hc]
    rfl
  refine ⟨⟨⟨?_, hidle, hshut⟩, rfl, rfl, ?_, ?_⟩, ?_⟩
  · simp only [List.nodup_append, List.mem_append, herase]
    grind [List.Nodup.erase]
  · intro m hm
    exact Or.inl (place_congr Iff.rfl Iff.rfl (by simp [herase, hm]))
  · intro a _ ha'
    refine ⟨fun c hc => ?_, fun c hc => Or.inl hc⟩
    exact mem_takeWhile_of_sublist List.erase_sublist hw ha' hc
  · exact place_eq_away.mpr ⟨hnh, hng, hw.not_mem_erase⟩

/-- **LEAVING A POOL**: a task has no place with it any more, and the slot it had goes on. -/
theorem Sound.leave (hp : p.Sound) (n : Nat) :
    p.Passes (p.leave n).1 n (p.leave n).2 ∧ (p.leave n).1.place n = .away := by
  rw [SlotPool.leave]
  simp only [List.contains_iff_mem]
  split
  · exact hp.leaveHolding ‹_›
  · split
    · exact hp.leaveGiven ‹_›
    · exact hp.leaveLine ‹_› ‹_›

end Leaving

/-- **CLOSING A POOL** sends those who wait away, and leaves everyone else where they are. -/
theorem Sound.close {p : SlotPool} (hp : p.Sound) :
    p.close.1.Sound ∧ p.close.1.total = p.total ∧ p.close.1.closed = true ∧
      ∀ m, p.close.1.place m = p.place m ∨
        (p.place m = .waiting ∧ p.close.1.place m = .away ∧ m ∈ p.close.2) := by
  have hsound : p.close.1.Sound := by
    refine ⟨?_, fun h => absurd rfl h, fun _ => rfl⟩
    show (p.holders ++ p.granted ++ []).Nodup
    rw [List.append_nil]
    exact (List.nodup_append.mp hp.once).1
  refine ⟨hsound, rfl, rfl, fun m => ?_⟩
  by_cases hm : m ∈ p.waiting
  · have hplace := hp.place_eq_waiting.mpr hm
    refine Or.inr ⟨hplace, place_eq_away.mpr ⟨?_, ?_, List.not_mem_nil⟩, hm⟩
    · exact fun h => nomatch hplace.symm.trans (place_eq_holding.mpr h)
    · exact fun h => nomatch hplace.symm.trans (hp.place_eq_given.mpr h)
  · refine Or.inl (place_congr Iff.rfl Iff.rfl ?_)
    exact iff_of_false List.not_mem_nil hm

end Courier.SlotPool
