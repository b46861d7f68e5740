import Courier.Proofs.Cache.Entries

/-!
# Operations — what the operations of a cache do to its entries

Every operation is described by the entry that each request has afterwards (`find?`).  Making room
and purging take entries away that no load is running for; a load that gave an outcome changes the
entry of its request, and only where that entry is of its own generation.  The rest of a cache, its
configuration and what it has drawn, is the same after all of them (`Alike`).
-/

namespace Courier

namespace Cache

open Entries

variable {c c' : Cache} {now : Nat} {r r' : Request} {e : CacheEntry} {t : Ticket}

/-- Two caches that agree in their configuration and in what they have drawn; where no request
    occurs twice in one, none does in the other. -/
structure Alike (c c' : Cache) : Prop where
  config : c'.config = c.config
  generations : c'.generations = c.generations
  loads : c'.loads = c.loads
  distinct : Distinct c.entries → Distinct c'.entries

/-- A cache is like itself. -/
theorem Alike.refl (c : Cache) : Alike c c :=
  ⟨rfl, rfl, rfl, id⟩

/-- Likeness goes on. -/
theorem Alike.trans {c'' : Cache} (h : Alike c c') (h' : Alike c' c'') : Alike c c'' :=
  ⟨h'.config.trans h.config, h'.generations.trans h.generations, h'.loads.trans h.loads,
    h'.distinct ∘ h.distinct⟩

/-- Other entries with the same requests, or with fewer. -/
theorem alike_of_sublist {entries : Entries}
    (h : (entries.map Prod.fst).Sublist (c.entries.map Prod.fst)) :
    Alike c { c with entries := entries } :=
  ⟨rfl, rfl, rfl, h.nodup⟩

/-- Counting changes counters only. -/
theorem count_eq (c : Cache) (change : CacheStats → CacheStats) :
    ∃ stats, c.count change = { c with stats := stats } := by
  unfold count
  split
  · exact ⟨_, rfl⟩
  · exact ⟨c.stats, rfl⟩

/-- To count something changes nothing else. -/
theorem alike_count (c : Cache) (change : CacheStats → CacheStats) :
    Alike c (c.count change) := by
  obtain ⟨stats, h⟩ := c.count_eq change
  rw [h]
  exact ⟨rfl, rfl, rfl, id⟩

theorem alike_countEvictions (c : Cache) (n : Nat) : Alike c (c.countEvictions n) :=
  alike_count c _

/-- What is counted is no entry. -/
@[simp] theorem entries_count (c : Cache) (change : CacheStats → CacheStats) :
    (c.count change).entries = c.entries := by
  obtain ⟨stats, h⟩ := c.count_eq change
  rw [h]

/-- Nor does a count change which entry a request has. -/
@[simp] theorem find?_count (c : Cache) (change : CacheStats → CacheStats) :
    (c.count change).find? = c.find? := by
  obtain ⟨stats, h⟩ := c.count_eq change
  rw [h]
  rfl

/-! ## Changing and dropping entries -/

/-- An entry may be changed. -/
theorem alike_adjust (c : Cache) (r : Request) (change : CacheEntry → CacheEntry) :
    Alike c { c with entries := c.entries.adjust r change } := by
  have hkeys : (c.entries.adjust r change).map Prod.fst = c.entries.map Prod.fst :=
    keys_adjust change
  exact alike_of_sublist (hkeys ▸ List.Sublist.refl _)

/-- The entry of one request is changed, and no other. -/
theorem find?_adjust (change : CacheEntry → CacheEntry) :
    ({ c with entries := c.entries.adjust r change } : Cache).find? r'
      = if r' = r then (c.find? r').map change else c.find? r' :=
  lookup_adjust change

/-- An entry may be dropped. -/
theorem alike_invalidate (c : Cache) (r : Request) : Alike c (c.invalidate r) :=
  alike_of_sublist (List.filter_sublist.map Prod.fst)

/-- The entry of one request is dropped, and no other. -/
theorem find?_invalidate :
    (c.invalidate r).find? r' = if r' = r then none else c.find? r' :=
  lookup_remove

/-- All entries may be dropped. -/
theorem alike_invalidateAll (c : Cache) : Alike c c.invalidateAll :=
  alike_of_sublist (List.nil_sublist _)

/-- Purging drops what is stale. -/
theorem find?_purge (hd : Distinct c.entries) :
    (c.purge now).1.find? r = (c.find? r).filter fun e => !c.isStale now e := by
  rw [purge, countEvictions, find?_count]
  exact lookup_filter (fun e => !c.isStale now e) hd

/-- A cleanup only drops entries. -/
theorem alike_purge (c : Cache) (now : Nat) : Alike c (c.purge now).1 := by
  have hkeep : Alike c { c with entries := c.entries.filter fun p => !c.isStale now p.2 } :=
    alike_of_sublist (List.filter_sublist.map Prod.fst)
  exact hkeep.trans (alike_countEvictions _ _)

/-- Eviction only drops entries. -/
theorem alike_evict (n : Nat) (c : Cache) : Alike c (evict n c).1 := by
  induction n generalizing c with
  | zero => exact Alike.refl c
  | succ n ih =>
      rw [evict]
      split
      · exact Alike.refl c
      · rename_i req _ _
        exact ((alike_invalidate c req).trans (alike_countEvictions _ 1)).trans (ih _)

/-- Making room drops only entries that no load is running for. -/
theorem find?_evict (n : Nat) (hd : Distinct c.entries) :
    (evict n c).1.find? r = c.find? r ∨
      ((evict n c).1.find? r = none ∧ ∃ e, c.find? r = some e ∧ e.isLoading = false) := by
  induction n generalizing c with
  | zero => exact Or.inl rfl
  | succ n ih =>
      rw [evict]
      split
      · exact Or.inl rfl
      · rename_i req x hold
        obtain ⟨hmem, hidle⟩ := oldest?_mem hold
        have hone : ({ c with entries := c.entries.remove req }.countEvictions 1).find? r
            = if r = req then none else c.find? r := by
          rw [countEvictions, find?_count]
          exact lookup_remove
        have hd1 := ((alike_invalidate c req).trans (alike_countEvictions _ 1)).distinct hd
        by_cases hr : r = req
        · subst hr
          rw [if_pos rfl] at hone
          refine Or.inr ⟨?_, x, lookup_of_mem hd hmem, hidle⟩
          rcases ih hd1 with hsame | ⟨hnone, -⟩
          · exact hsame.trans hone
          · exact hnone
        · rw [if_neg hr] at hone
          rcases ih hd1 with hsame | ⟨hnone, y, hy, hidle'⟩
          · exact Or.inl (hsame.trans hone)
          · exact Or.inr ⟨hnone, y, hone.symm.trans hy, hidle'⟩

theorem alike_enforceCapacity (c : Cache) : Alike c c.enforceCapacity.1 :=
  alike_evict _ c

/-- An entry stays as it is when room is made, or is dropped, unless it is loading. -/
theorem find?_enforceCapacity (hd : Distinct c.entries) :
    c.enforceCapacity.1.find? r = c.find? r ∨
      (c.enforceCapacity.1.find? r = none ∧ ∃ e, c.find? r = some e ∧ e.isLoading = false) :=
  find?_evict _ hd

/-! ## Asking -/

/-- A request without an entry gets one, with a load. -/
theorem ask_of_absent (h : c.find? r = none) : c.ask now r = c.askAbsent now r := by
  rw [ask, h]

/-- A request whose value has expired gets a load. -/
theorem ask_of_expired (h : c.find? r = some e) (he : e.isExpired now c.config.expire = true) :
    c.ask now r = c.askExpired now r e := by
  rw [ask, h]
  exact if_pos he

/-- A request whose value has not expired gets that value. -/
theorem ask_of_live (h : c.find? r = some e) (he : e.isExpired now c.config.expire = false) :
    c.ask now r = c.askLive now r e := by
  rw [ask, h]
  exact if_neg (ne_true_of_eq_false he)

/-- An absent request gets an entry that a new load of a new generation is running for. -/
theorem askAbsent_eq (c : Cache) (now : Nat) (r : Request) :
    ∃ stats, c.askAbsent now r =
      ({ c with
        entries := c.entries ++ [(r, .loading c.loads c.generations now)]
        generations := c.generations + 1
        loads := c.loads + 1
        stats := stats },
      ⟨c.loads, some ⟨c.loads, r, c.generations⟩, []⟩) := by
  obtain ⟨stats, h⟩ := c.count_eq fun s => { s with misses := s.misses + 1 }
  rw [askAbsent, countMiss, h]
  exact ⟨stats, rfl⟩

/-- An expired entry that is refreshed waits for its refresh. -/
theorem askExpired_eq_join (c : Cache) (now : Nat) (r : Request) {load : Nat}
    (h : e.refresh = some load) :
    ∃ stats, c.askExpired now r e =
      ({ c with
        entries := c.entries.adjust r fun _ =>
          { e with load := load, writtenAt := none, accessedAt := now }
        stats := stats },
      ⟨load, none, [.joiningRefresh r.urlText]⟩) := by
  obtain ⟨s₁, h₁⟩ := c.count_eq fun s => { s with evictions := s.evictions + 1 }
  obtain ⟨s₂, h₂⟩ := { c with stats := s₁ }.count_eq fun s => { s with misses := s.misses + 1 }
  rw [askExpired, countEvictions, countMiss, h₁, h₂, h]
  exact ⟨s₂, rfl⟩

/-- An expired entry that is not refreshed is replaced, as if it were absent. -/
theorem askExpired_eq_start (c : Cache) (now : Nat) (r : Request) (h : e.refresh = none) :
    ∃ stats, c.askExpired now r e =
      ({ c with
        entries := c.entries.adjust r fun _ => .loading c.loads c.generations now
        generations := c.generations + 1
        loads := c.loads + 1
        stats := stats },
      ⟨c.loads, some ⟨c.loads, r, c.generations⟩, [.reloading r.urlText]⟩) := by
  obtain ⟨s₁, h₁⟩ := c.count_eq fun s => { s with evictions := s.evictions + 1 }
  obtain ⟨s₂, h₂⟩ := { c with stats := s₁ }.count_eq fun s => { s with misses := s.misses + 1 }
  rw [askExpired, countEvictions, countMiss, h₁, h₂, h]
  exact ⟨s₂, rfl⟩

/-- A live entry that is old enough is refreshed by a new load of its own generation. -/
theorem askLive_eq_refresh (c : Cache) (r : Request)
    (h : e.needsRefresh now c.config.refresh = true) :
    ∃ stats, c.askLive now r e =
      ({ c with
        entries := c.entries.adjust r fun _ =>
          { e with accessedAt := now, refresh := some c.loads }
        loads := c.loads + 1
        stats := stats },
      ⟨e.load, some ⟨c.loads, r, e.generation⟩, [.refreshing r.urlText]⟩) := by
  obtain ⟨stats, hs⟩ := c.count_eq fun s => { s with hits := s.hits + 1 }
  rw [askLive, countHit, hs]
  exact ⟨stats, if_pos h⟩

/-- Any other live entry is served as it is. -/
theorem askLive_eq_touch (c : Cache) (r : Request)
    (h : e.needsRefresh now c.config.refresh = false) :
    ∃ stats, c.askLive now r e =
      ({ c with
        entries := c.entries.adjust r fun e => { e with accessedAt := now }
        stats := stats },
      ⟨e.load, none, []⟩) := by
  obtain ⟨stats, hs⟩ := c.count_eq fun s => { s with hits := s.hits + 1 }
  rw [askLive, countHit, hs]
  exact ⟨stats, if_neg (ne_true_of_eq_false h)⟩

/-! ## The end of a load -/

/-- A response is written to the entry of the load's generation. -/
theorem find?_written :
    (c.written now t).find? r = if r = t.request then
      (c.find? r).map fun e => if e.generation = t.generation then
        { e with load := t.load, writtenAt := some now, refresh := none } else e
      else c.find? r := by
  rw [written]
  by_cases hr : r = t.request
  · subst hr
    rw [if_pos rfl]
    split
    · rename_i e he
      rw [he, Option.map_some]
      split
      · rw [find?_adjust, if_pos rfl, he, Option.map_some]
      · exact he
    · rename_i he
      rw [he]
      rfl
  · rw [if_neg hr]
    split
    · split
      · rw [find?_adjust, if_neg hr]
      · rfl
    · rfl

/-- A failed load leaves no refresh behind in the entry of its generation, and no entry without a
    value. -/
theorem find?_failed :
    (c.failed t).1.find? r = if r = t.request then
      (c.find? r).bind fun e => if e.generation = t.generation then
        (if e.writtenAt.isSome then some { e with refresh := none } else none) else some e
      else c.find? r := by
  rw [failed]
  by_cases hr : r = t.request
  · subst hr
    rw [if_pos rfl]
    split
    · rename_i he
      rw [he]
      rfl
    · rename_i e he
      rw [he, Option.bind_some]
      by_cases hg : e.generation = t.generation
      · rw [if_neg (not_not_intro hg), if_pos hg]
        split
        · rw [find?_adjust, if_pos rfl, he, Option.map_some]
        · exact find?_invalidate.trans (if_pos rfl)
      · rw [if_pos hg, if_neg hg]
        exact he
  · rw [if_neg hr]
    split
    · rfl
    · split
      · rfl
      · split
        · rw [find?_adjust, if_neg hr]
        · exact find?_invalidate.trans (if_neg hr)

/-- A load that gives a response writes it into the entry that waits for it. -/
theorem find?_finish_ok (response : Response) (length : Duration) :
    (c.finish now t (.ok response) length).1.find? r = if r = t.request then
      (c.find? r).map fun e => if e.generation = t.generation then
        { e with load := t.load, writtenAt := some now, refresh := none } else e
      else c.find? r := by
  show ((c.countLoad true length).written now t).find? r = _
  rw [find?_written, countLoad, find?_count]

/-- A load that fails drops an entry without a value, and ends the refresh of one with a value. -/
theorem find?_finish_error (cause : Failure) (length : Duration) :
    (c.finish now t (.error cause) length).1.find? r = if r = t.request then
      (c.find? r).bind fun e => if e.generation = t.generation then
        (if e.writtenAt.isSome then some { e with refresh := none } else none) else some e
      else c.find? r := by
  show ((c.countLoad false length).failed t).1.find? r = _
  rw [find?_failed, countLoad, find?_count]

/-- The end of a load matters to the entry of its request only. -/
theorem find?_finish_of_ne (outcome : Outcome Response) (length : Duration)
    (hr : r ≠ t.request) : (c.finish now t outcome length).1.find? r = c.find? r := by
  cases outcome with
  | ok response => exact (find?_finish_ok response length).trans (if_neg hr)
  | error cause => exact (find?_finish_error cause length).trans (if_neg hr)

theorem alike_written (c : Cache) (now : Nat) (t : Ticket) : Alike c (c.written now t) := by
  rw [written]
  split
  · split
    · exact alike_adjust c _ _
    · exact Alike.refl c
  · exact Alike.refl c

theorem alike_failed (c : Cache) (t : Ticket) : Alike c (c.failed t).1 := by
  rw [failed]
  split
  · exact Alike.refl c
  · split
    · exact Alike.refl c
    · split
      · exact alike_adjust c _ _
      · exact alike_invalidate c _

/-- However a load ends, the cache stays like it was. -/
theorem alike_finish (c : Cache) (now : Nat) (t : Ticket) (outcome : Outcome Response)
    (length : Duration) : Alike c (c.finish now t outcome length).1 := by
  cases outcome with
  | ok response => exact (alike_count _ _).trans (alike_written _ _ _)
  | error f => exact (alike_count _ _).trans (alike_failed _ _)

/-- A load whose entry is gone, or was replaced by one of another generation, changes no entry. -/
theorem entries_finish_of_superseded {outcome : Outcome Response} {length : Duration}
    (h : ∀ e, c.find? t.request = some e → e.generation ≠ t.generation) :
    (c.finish now t outcome length).1.entries = c.entries := by
  cases outcome with
  | ok response =>
      show ((c.countLoad true length).written now t).entries = _
      rw [written, countLoad, find?_count]
      cases he : c.find? t.request with
      | none => exact entries_count _ _
      | some e =>
          show (if e.generation = t.generation then _ else _ : Cache).entries = _
          rw [if_neg (h e he)]
          exact entries_count _ _
  | error f =>
      show ((c.countLoad false length).failed t).1.entries = _
      rw [failed, countLoad, find?_count]
      cases he : c.find? t.request with
      | none => exact entries_count _ _
      | some e =>
          show (if e.generation ≠ t.generation then _ else _ : Cache × Bool).1.entries = _
          rw [if_pos (h e he)]
          exact entries_count _ _

end Cache

end Courier
