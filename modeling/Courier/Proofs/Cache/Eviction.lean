import Courier.Proofs.Cache.Counting

/-!
# Eviction — which entries go when room is made

Room is made in rounds.  As long as there are more entries than are allowed, a round drops one that
no load is running for and that was asked for no later than any other of these (`Cache.Round`);
which one of several is left open.  Every row of rounds ends (`wellFounded_round`), and whatever it
takes, the entries that are left are those that `Cache.Evicted` says (`Evicts.evicted`).  A cache
makes room by such rounds (`evicts_enforceCapacity`), and so does every get once it has asked
(`eviction_exact`).
-/

namespace Courier

namespace Entries

variable {entries : Entries} {x y : Request × CacheEntry}

theorem accessedAt_older (x y : Request × CacheEntry) :
    (older x y).2.accessedAt ≤ x.2.accessedAt ∧ (older x y).2.accessedAt ≤ y.2.accessedAt := by
  rw [older]
  split
  · rename_i h
    exact ⟨Nat.le_of_lt h, Nat.le_refl _⟩
  · rename_i h
    exact ⟨Nat.le_refl _, Nat.le_of_not_lt h⟩

theorem accessedAt_foldl_older (rest : Entries) (first : Request × CacheEntry) :
    ∀ y ∈ first :: rest, (rest.foldl older first).2.accessedAt ≤ y.2.accessedAt := by
  induction rest generalizing first with
  | nil =>
      intro y hy
      rw [List.mem_singleton.mp hy]
      exact Nat.le_refl _
  | cons z rest ih =>
      intro y hy
      rw [List.foldl_cons]
      have hfirst := ih (older first z) (older first z) List.mem_cons_self
      rcases List.mem_cons.mp hy with rfl | hy
      · exact Nat.le_trans hfirst (accessedAt_older y z).1
      · rcases List.mem_cons.mp hy with rfl | hy
        · exact Nat.le_trans hfirst (accessedAt_older first y).2
        · exact ih _ y (List.mem_cons_of_mem _ hy)

/-- Nothing that no load is running for was asked for earlier. -/
theorem oldest?_le (h : oldest? entries = some x) (hy : y ∈ entries)
    (hidle : y.2.isLoading = false) : x.2.accessedAt ≤ y.2.accessedAt := by
  have hmem : y ∈ entries.filter fun p => !p.2.isLoading :=
    List.mem_filter.mpr ⟨hy, by simp [hidle]⟩
  rw [oldest?] at h
  split at h
  · cases h
  · rename_i first rest hfilter
    rw [hfilter] at hmem
    exact Option.some.inj h ▸ accessedAt_foldl_older rest first y hmem

/-- There is none if a load is running for each. -/
theorem oldest?_eq_none (h : oldest? entries = none) : ∀ y ∈ entries, y.2.isLoading = true := by
  intro y hy
  rw [oldest?] at h
  split at h
  · rename_i hfilter
    simpa using List.filter_eq_nil_iff.mp hfilter y hy
  · cases h

end Entries

namespace Cache

open Entries

variable {c c' c'' : Cache} {now : Nat} {r : Request} {x : Request × CacheEntry}
  {dropped : List (Request × CacheEntry)}

/-- Whether an entry is one to drop first: no load is running for it, and it was asked for no later
    than any other of these. -/
structure IsOldest (c : Cache) (x : Request × CacheEntry) : Prop where
  mem : x ∈ c.entries
  idle : x.2.isLoading = false
  le : ∀ y ∈ c.entries, y.2.isLoading = false → x.2.accessedAt ≤ y.2.accessedAt

/-- One round: there are too many entries, and one to drop first is dropped and counted. -/
inductive Round (c : Cache) : Request × CacheEntry → Cache → Prop where
  | drop {x : Request × CacheEntry} (hover : c.config.maximumSize < c.size) (hx : c.IsOldest x) :
      Round c x ((c.invalidate x.1).countEvictions 1)

/-- A row of rounds, with what they drop, up to where there is room or nothing to drop. -/
inductive Evicts : Cache → List (Request × CacheEntry) → Cache → Prop where
  | rest {c : Cache}
      (h : c.size ≤ c.config.maximumSize ∨ ∀ x ∈ c.entries, x.2.isLoading = true) : Evicts c [] c
  | round {c c' c'' : Cache} {x : Request × CacheEntry} {dropped : List (Request × CacheEntry)}
      (h : Round c x c') (hrest : Evicts c' dropped c'') : Evicts c (x :: dropped) c''

/-! ## A round -/

theorem Round.exceeds (h : Round c x c') : c.config.maximumSize < c.size := by
  cases h with
  | drop hover hx => exact hover

theorem Round.isOldest (h : Round c x c') : c.IsOldest x := by
  cases h with
  | drop hover hx => exact hx

theorem Round.eq (h : Round c x c') : c' = { c with
    entries := c.entries.remove x.1
    stats := if c.config.recordStats then
      { c.stats with evictions := c.stats.evictions + 1 } else c.stats } := by
  cases h with
  | drop hover hx =>
      rw [countEvictions, count]
      cases hc : c.config.recordStats with
      | true => rw [if_pos (show (c.invalidate x.1).config.recordStats = true from hc)]; rfl
      | false =>
          rw [if_neg (by rw [show (c.invalidate x.1).config.recordStats = false from hc]; simp)]
          rfl

/-- **EVERY ROW OF ROUNDS ENDS**, whatever the rounds drop. -/
theorem wellFounded_round : WellFounded fun c' c : Cache => ∃ x, Round c x c' := by
  refine Subrelation.wf (r := fun c' c : Cache => c'.size < c.size) ?_ (measure Cache.size).wf
  rintro c' c ⟨x, h⟩
  rw [h.eq]
  exact List.length_filter_lt_length_iff_exists.mpr ⟨x, h.isOldest.mem, by simp⟩

/-- How many entries may be dropped: those that no load is running for. -/
def idle (c : Cache) : Nat :=
  c.entries.countP fun x => !x.2.isLoading

/-- A round leaves one entry less, of those that may be dropped. -/
structure OneLess (c : Cache) (x : Request × CacheEntry) (c' : Cache) : Prop where
  entries : c'.entries = c.entries.filter fun y => y ≠ x
  size : c'.size + 1 = c.size
  idle : c'.idle + 1 = c.idle

theorem Round.oneLess (hd : Distinct c.entries) (h : Round c x c') : OneLess c x c' := by
  have hx := h.isOldest
  have hnodup : c.entries.Nodup := List.Nodup.of_map Prod.fst hd
  -- no request occurs twice, so to drop the entry of a request is to drop one entry
  have hentries : c'.entries = c.entries.filter fun y => y ≠ x := by
    rw [h.eq]
    refine List.filter_congr fun y hy => decide_eq_decide.mpr (not_congr ⟨fun hreq => ?_, ?_⟩)
    · have hfound := lookup_of_mem hd hy
      rw [hreq, lookup_of_mem hd hx.mem] at hfound
      exact Prod.ext hreq (Option.some.inj hfound).symm
    · rintro rfl
      rfl
  have herase : c'.entries = c.entries.erase x := by
    rw [hentries, hnodup.erase_eq_filter]
    refine List.filter_congr fun y _ => ?_
    rw [decide_not, ← beq_eq_decide]
    rfl
  have hperm : c.entries.Perm (x :: c'.entries) := by
    rw [herase]
    exact List.perm_cons_erase hx.mem
  refine ⟨hentries, hperm.length_eq.symm, ?_⟩
  rw [Cache.idle, Cache.idle, hperm.countP_eq, List.countP_cons_of_pos (by simp [hx.idle])]

/-- No request occurs twice after a round, if none did before. -/
theorem OneLess.distinct (h : OneLess c x c') (hd : Distinct c.entries) : Distinct c'.entries :=
  h.entries ▸ (List.filter_sublist.map Prod.fst).nodup hd

/-! ## All rounds -/

/-- **WHAT IS LEFT WHEN ROOM IS MADE**, and what is dropped. -/
structure Evicted (c : Cache) (dropped : List (Request × CacheEntry)) (c' : Cache) : Prop where
  /-- As many entries are dropped as are too many, as far as there are any that may be dropped. -/
  count : dropped.length = min (c.size - c.config.maximumSize) c.idle
  size : c'.size + dropped.length = c.size
  room : c'.size ≤ c.config.maximumSize ∨ ∀ x ∈ c'.entries, x.2.isLoading = true
  /-- No load is running for what is dropped. -/
  mem : ∀ x ∈ dropped, x ∈ c.entries ∧ x.2.isLoading = false
  kept : c'.entries = c.entries.filter fun x => x ∉ dropped
  /-- What is dropped was asked for no later than what is left and may be dropped. -/
  order : ∀ x ∈ dropped, ∀ y ∈ c'.entries, y.2.isLoading = false →
    x.2.accessedAt ≤ y.2.accessedAt
  rest : c' = { c with
    entries := c'.entries
    stats := if c.config.recordStats then
      { c.stats with evictions := c.stats.evictions + dropped.length } else c.stats }

/-- Where there is room, or nothing to drop, nothing is dropped. -/
theorem evicted_nil (h : c.size ≤ c.config.maximumSize ∨ ∀ x ∈ c.entries, x.2.isLoading = true) :
    Evicted c [] c := by
  refine
    { count := ?count
      size := rfl
      room := h
      mem := fun x hx => nomatch hx
      kept := (List.filter_eq_self.mpr fun x _ => by simp).symm
      order := fun x hx => nomatch hx
      rest := ?rest }
  case count =>
    rcases h with hroom | hloading
    · rw [Nat.sub_eq_zero_of_le hroom, Nat.zero_min]
      rfl
    · have hnone : c.idle = 0 := List.countP_eq_zero.mpr fun x hx => by simp [hloading x hx]
      rw [hnone, Nat.min_zero]
      rfl
  case rest => cases c; simp

/-- One round, and then what is left by the others. -/
theorem Evicted.cons (hd : Distinct c.entries) (h : Round c x c') (hr : Evicted c' dropped c'') :
    Evicted c (x :: dropped) c'' := by
  obtain ⟨hentries, hsize, hidle⟩ := h.oneLess hd
  have hover := h.exceeds
  have hx := h.isOldest
  have hconfig : c'.config = c.config := by rw [h.eq]
  have hmem : ∀ y ∈ c'.entries, y ∈ c.entries := fun y hy =>
    (List.mem_filter.mp (hentries ▸ hy)).1
  refine
    { count := ?count
      size := ?size
      room := hconfig ▸ hr.room
      mem := ?mem
      kept := ?kept
      order := ?order
      rest := ?rest }
  case count =>
    have hcount := hr.count
    rw [hconfig] at hcount
    rw [List.length_cons]
    omega
  case size =>
    have hrest := hr.size
    rw [List.length_cons]
    omega
  case mem =>
    intro y hy
    rcases List.mem_cons.mp hy with rfl | hy
    · exact ⟨hx.mem, hx.idle⟩
    · exact ⟨hmem y (hr.mem y hy).1, (hr.mem y hy).2⟩
  case kept =>
    rw [hr.kept, hentries, List.filter_filter]
    refine List.filter_congr fun y _ => ?_
    rw [← Bool.decide_and, decide_eq_decide, List.mem_cons, not_or, and_comm]
  case order =>
    intro y hy z hz hzidle
    rcases List.mem_cons.mp hy with rfl | hy
    · rw [hr.kept] at hz
      exact hx.le z (hmem z (List.mem_filter.mp hz).1) hzidle
    · exact hr.order y hy z hz hzidle
  case rest =>
    rw [hr.rest, h.eq]
    cases c.config.recordStats with
    | true => simp [Nat.add_assoc, Nat.add_comm 1]
    | false => rfl

/-- **ROUNDS LEAVE WHAT IS SAID**, whatever they drop. -/
theorem Evicts.evicted (hd : Distinct c.entries) (h : Evicts c dropped c') :
    Evicted c dropped c' := by
  induction h with
  | rest h => exact evicted_nil h
  | round h hrest ih => exact (ih ((h.oneLess hd).distinct hd)).cons hd h

/-- Up to as many rounds as there are entries too many. -/
theorem evicts_evict (n : Nat) (c : Cache) (hn : c.size - c.config.maximumSize = n)
    (hd : Distinct c.entries) : ∃ dropped, Evicts c dropped (evict n c).1 ∧
      (evict n c).2 = dropped.map fun x => .evicted x.1.urlText := by
  -- as many rounds are left as there are entries too many, and each takes one of these
  induction n generalizing c with
  | zero => exact ⟨[], .rest (Or.inl (Nat.le_of_sub_eq_zero hn)), rfl⟩
  | succ n ih =>
      rw [evict]
      split
      · rename_i hold
        exact ⟨[], .rest (Or.inr (oldest?_eq_none hold)), rfl⟩
      · rename_i r e hold
        obtain ⟨hmem, hidle⟩ := oldest?_mem hold
        have hround : Round c (r, e) ((c.invalidate r).countEvictions 1) :=
          .drop (by omega) ⟨hmem, hidle, fun y hy => oldest?_le hold hy⟩
        have hless := hround.oneLess hd
        have hconfig : ((c.invalidate r).countEvictions 1).config = c.config := by rw [hround.eq]
        obtain ⟨dropped, hevicts, htold⟩ := ih ((c.invalidate r).countEvictions 1)
          (by rw [hconfig]; have := hless.size; omega) (hless.distinct hd)
        exact ⟨(r, e) :: dropped, .round hround hevicts, congrArg (_ :: ·) htold⟩

/-- **A CACHE MAKES ROOM IN ROUNDS**, and tells of each. -/
theorem evicts_enforceCapacity (hd : Distinct c.entries) :
    ∃ dropped, Evicts c dropped c.enforceCapacity.1 ∧
      c.enforceCapacity.2 = dropped.map fun x => .evicted x.1.urlText :=
  evicts_evict _ c rfl hd

/-! ## The end of a get -/

/-- What asking for a request does to the entries: that of the request was asked for now, and the
    others are as they were. -/
structure AskedNow (c : Cache) (now : Nat) (r : Request) (c' : Cache) : Prop where
  distinct : Distinct c'.entries
  own : ∃ e, c'.find? r = some e ∧ e.accessedAt = now
  others : ∀ r', r' ≠ r → c'.find? r' = c.find? r'

theorem askedNow (hd : Distinct c.entries) (now : Nat) (r : Request) :
    AskedNow c now r (c.ask now r).1 := by
  -- what is known of asking is known of histories, and every cache is that of some
  let h : History := ⟨c, now, List.replicate c.loads (.begin now ⟨0, r, 0⟩)⟩
  have ho : h.Orderly := ⟨hd, List.length_replicate.symm⟩
  have hasked := History.asked ho r
  have hfind : (c.ask now r).1.find? = (h.view.ask c.config r).find? :=
    congrArg CacheView.find? hasked.view
  refine ⟨hasked.orderly.distinct, ?_, ?_⟩
  · rw [hfind]
    refine CacheView.ask_cases (P := fun v => ∃ e, v.find? r = some e ∧ e.accessedAt = now)
      c.config h.view r ?_ ?_ ?_ ?_
    · intro _
      exact ⟨_, CacheView.put_find?_self _ _ _, rfl⟩
    · intro e load _ _ _
      exact ⟨_, CacheView.put_find?_self _ _ _, rfl⟩
    · intro e _ _ _
      exact ⟨_, CacheView.put_find?_self _ _ _, rfl⟩
    · intro e _ _ _
      exact ⟨_, CacheView.put_find?_self _ _ _, rfl⟩
  · intro r' hr
    rw [hfind]
    exact CacheView.find?_ask_of_ne c.config h.view hr

/-- The entry of a request that was just asked for is dropped only if no other is left that was
    asked for earlier and may be dropped. -/
theorem AskedNow.newest (ha : AskedNow c now r c') (he : Evicted c' dropped c'')
    (hx : x ∈ dropped) (hr : x.1 = r) {y : Request × CacheEntry} (hy : y ∈ c''.entries)
    (hidle : y.2.isLoading = false) : now ≤ y.2.accessedAt ∧
      ((∀ z ∈ c.entries, z.2.accessedAt ≤ now) → y.2.accessedAt = now) := by
  obtain ⟨e, hown, hnow⟩ := ha.own
  have hfound : ∀ z ∈ c'.entries, z.1 = r → z.2.accessedAt = now := by
    rintro ⟨k, f⟩ hz rfl
    rw [show c'.find? k = some f from lookup_of_mem ha.distinct hz] at hown
    exact Option.some.inj hown ▸ hnow
  have hle : now ≤ y.2.accessedAt := by
    rw [← hfound x (he.mem x hx).1 hr]
    exact he.order x hx y hy hidle
  refine ⟨hle, fun hpast => Nat.le_antisymm ?_ hle⟩
  rw [he.kept] at hy
  have hmem := (List.mem_filter.mp hy).1
  by_cases hyr : y.1 = r
  · exact Nat.le_of_eq (hfound y hmem hyr)
  · have hold := ha.others y.1 hyr
    rw [show c'.find? y.1 = some y.2 from lookup_of_mem ha.distinct hmem] at hold
    obtain ⟨before, after, hsplit, -⟩ := List.lookup_eq_some_iff.mp hold.symm
    exact hpast (y.1, y.2) (by rw [hsplit]; simp)

/-- **MAKING ROOM DROPS WHAT WAS NOT ASKED FOR FOR THE LONGEST TIME**, whatever a cache holds.  The
    rounds come to an end, and where a cache is in the end is said by `Evicted`, whichever entry
    they drop of several that were asked for at the same time; so it is at the end of every get.
    There the entry that was asked for goes only with all others that may go, unless these were
    asked for at the same time. -/
theorem eviction_exact (hd : Distinct c.entries) :
    (WellFounded fun c' c : Cache => ∃ x, Round c x c') ∧
    (∃ dropped, Evicts c dropped c.enforceCapacity.1) ∧
    (∀ dropped c', Evicts c dropped c' → Evicted c dropped c') ∧
    ∀ now r,
      (∃ dropped, Evicts (c.ask now r).1 dropped (c.get now r).1 ∧
        (c.get now r).2.told
          = (c.ask now r).2.told ++ dropped.map fun x => .evicted x.1.urlText) ∧
      ∀ dropped c', Evicts (c.ask now r).1 dropped c' →
        Evicted (c.ask now r).1 dropped c' ∧
        ∀ x ∈ dropped, x.1 = r → ∀ y ∈ c'.entries, y.2.isLoading = false →
          now ≤ y.2.accessedAt ∧
            ((∀ z ∈ c.entries, z.2.accessedAt ≤ now) → y.2.accessedAt = now) := by
  refine ⟨wellFounded_round, ?_, fun dropped c' h => h.evicted hd, fun now r => ?_⟩
  · obtain ⟨dropped, hevicts, -⟩ := evicts_enforceCapacity hd
    exact ⟨dropped, hevicts⟩
  · have ha := askedNow hd now r
    constructor
    · obtain ⟨dropped, hevicts, htold⟩ := evicts_enforceCapacity ha.distinct
      exact ⟨dropped, hevicts, congrArg ((c.ask now r).2.told ++ ·) htold⟩
    · intro dropped c' h
      have he := h.evicted ha.distinct
      exact ⟨he, fun x hx hr y hy hidle => ha.newest he hx hr hy hidle⟩

/-- A cache with room for one entry.  Its first entry is loading and its third is refreshed; the
    second has expired, and the fourth was asked for last. -/
def crowded : Cache :=
  { new ⟨10, some 5, 1, true, 60000⟩ with
    entries := [(default, ⟨0, 0, none, 1000000, none⟩),
      ({ (default : Request) with maxRetries := 1 }, ⟨1, 1, some 0, 3000000, none⟩),
      ({ (default : Request) with maxRetries := 2 }, ⟨2, 2, some 1000000, 2000000, some 4⟩),
      ({ (default : Request) with maxRetries := 3 }, ⟨3, 3, some 9000000, 15000000, none⟩)]
    generations := 4
    loads := 5 }

/-- A get of a fifth request drops the second entry and the fourth, and is still above the bound. -/
theorem eviction_exact_of_crowded :
    Distinct crowded.entries ∧
    let now := 20000000
    let r : Request := { (default : Request) with maxRetries := 4 }
    (∃ dropped, Evicted (crowded.ask now r).1 dropped (crowded.get now r).1 ∧
      (crowded.get now r).2.told = dropped.map fun x => .evicted x.1.urlText) ∧
    (crowded.get now r).1.size = 3 ∧ (crowded.get now r).1.stats.evictions = 2 := by
  have hd : (crowded.entries.map Prod.fst).Nodup := by decide
  obtain ⟨-, -, -, hget⟩ := eviction_exact hd
  obtain ⟨⟨dropped, hevicts, htold⟩, hall⟩ :=
    hget 20000000 { (default : Request) with maxRetries := 4 }
  exact ⟨hd, ⟨dropped, (hall dropped _ hevicts).1, htold⟩, by decide, by decide⟩

end Cache

end Courier
