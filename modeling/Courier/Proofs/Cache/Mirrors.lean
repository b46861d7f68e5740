import Courier.Proofs.Cache.Room

/-!
# Mirrors — a cache that one request has for itself

All requests share one count of loads and one of generations.  A view mirrors another for a request
(`CacheView.Mirrors`) if it has the loads and the entry of that request, and nothing else: its loads
are numbered among themselves (`CacheView.rank`), and its generations are renamed.  Starting and
ending a load of the request in both views keeps this, and so does whatever happens to others in the
first one.
-/

namespace Courier

/-! ## Places in a list after others were dropped -/

section

variable {α : Type} {β : Type} [DecidableEq β] {key : α → β} {k : β} {l : List α} {i : Nat} {a b : α}

/-- Where an element goes when the elements with other keys are dropped. -/
theorem getElem?_filter_key (h : l[i]? = some a) (ha : key a = k) :
    (l.filter fun x => key x = k)[((l.map key).take i).count k]? = some a := by
  induction l generalizing i with
  | nil => exact nomatch h
  | cons x tl ih =>
      cases i with
      | zero =>
          cases Option.some.inj h
          rw [List.filter_cons, if_pos (decide_eq_true ha)]
          rfl
      | succ i =>
          have hrest := ih (i := i) h
          rw [List.map_cons, List.take_succ_cons, List.count_cons, List.filter_cons]
          by_cases hx : key x = k
          · rw [if_pos (decide_eq_true hx), if_pos (beq_iff_eq.mpr hx), List.getElem?_cons_succ]
            exact hrest
          · rw [if_neg (mt of_decide_eq_true hx), if_neg (mt beq_iff_eq.mp hx)]
            exact hrest

/-- An element is changed where it is when the elements with other keys are dropped. -/
theorem filter_set_of_key (h : l[i]? = some a) (ha : key a = k) (hb : key b = k) :
    (l.set i b).filter (fun x => key x = k)
      = (l.filter fun x => key x = k).set (((l.map key).take i).count k) b := by
  induction l generalizing i with
  | nil => exact nomatch h
  | cons x tl ih =>
      cases i with
      | zero =>
          cases Option.some.inj h
          rw [List.set_cons_zero, List.filter_cons, List.filter_cons, if_pos (decide_eq_true ha),
            if_pos (decide_eq_true hb)]
          rfl
      | succ i =>
          have hrest := ih (i := i) h
          rw [List.set_cons_succ, List.map_cons, List.take_succ_cons, List.count_cons,
            List.filter_cons, List.filter_cons, hrest]
          by_cases hx : key x = k
          · rw [if_pos (decide_eq_true hx), if_pos (decide_eq_true hx), if_pos (beq_iff_eq.mpr hx),
              List.set_cons_succ]
          · rw [if_neg (mt of_decide_eq_true hx), if_neg (mt of_decide_eq_true hx),
              if_neg (mt beq_iff_eq.mp hx)]
            rfl

/-- A change of an element with another key is not seen. -/
theorem filter_set_of_ne (h : l[i]? = some a) (ha : key a ≠ k) (hb : key b ≠ k) :
    (l.set i b).filter (fun x => key x = k) = l.filter fun x => key x = k := by
  induction l generalizing i with
  | nil => rfl
  | cons x tl ih =>
      cases i with
      | zero =>
          cases Option.some.inj h
          rw [List.set_cons_zero, List.filter_cons, List.filter_cons,
            if_neg (mt of_decide_eq_true ha), if_neg (mt of_decide_eq_true hb)]
      | succ i => rw [List.set_cons_succ, List.filter_cons, List.filter_cons, ih (i := i) h]

end

/-! ## Renaming -/

/-- An entry with other numbers for its loads and its generation. -/
def CacheEntry.rename (load generation : Nat → Nat) (e : CacheEntry) : CacheEntry :=
  { e with
    load := load e.load
    generation := generation e.generation
    refresh := e.refresh.map load }

theorem CacheEntry.needsRefresh_rename (load generation : Nat → Nat) (e : CacheEntry) (now : Nat)
    (age : Option Duration) :
    (e.rename load generation).needsRefresh now age = e.needsRefresh now age := by
  obtain ⟨_, _, _, _, refresh⟩ := e
  cases refresh with
  | none => rfl
  | some _ => rfl

/-- A load with another number and generation. -/
def Flight.rename (load generation : Nat → Nat) (f : Flight) : Flight :=
  { f with ticket := ⟨load f.ticket.load, f.ticket.request, generation f.ticket.generation⟩ }

namespace CacheView

variable {config : CacheConfig} {v w : CacheView} {k r : Request} {ρ ρ' : Nat → Nat}
  {e : CacheEntry} {f : Flight} {load generation : Nat} {how : LoadEnd}

/-- The requests of the loads. -/
def requests (v : CacheView) : List Request :=
  v.flights.map (·.ticket.request)

/-- The loads of a request. -/
def loadsOf (v : CacheView) (k : Request) : List Flight :=
  v.flights.filter fun f => f.ticket.request = k

/-- The number of a load among the loads of a request. -/
def rank (v : CacheView) (k : Request) (load : Nat) : Nat :=
  (v.requests.take load).count k

/-- The second view has the loads and the entry that a request has in the first one, renamed, and
    nothing else. -/
structure Mirrors (k : Request) (ρ : Nat → Nat) (v w : CacheView) : Prop where
  now : w.now = v.now
  flights : w.flights = (v.loadsOf k).map (·.rename (v.rank k) ρ)
  entry : w.find? k = (v.find? k).map (·.rename (v.rank k) ρ)
  others : ∀ r, r ≠ k → w.find? r = none
  injective : ∀ f f', f ∈ v.loadsOf k → f' ∈ v.loadsOf k →
    ρ f.ticket.generation = ρ f'.ticket.generation → f.ticket.generation = f'.ticket.generation
  drawn : ∀ f ∈ v.loadsOf k, ρ f.ticket.generation < w.generations

theorem mem_loadsOf : f ∈ v.loadsOf k ↔ ∃ load, v.flight? load = some f ∧ f.ticket.request = k := by
  constructor
  · intro h
    obtain ⟨hmem, hk⟩ := List.mem_filter.mp h
    obtain ⟨load, hf⟩ := List.mem_iff_getElem?.mp hmem
    exact ⟨load, hf, of_decide_eq_true hk⟩
  · rintro ⟨load, hf, hk⟩
    exact List.mem_filter.mpr ⟨List.mem_of_getElem? hf, decide_eq_true hk⟩

/-! ## Numbers of loads -/

theorem requests_begin (v : CacheView) (r : Request) (generation : Nat) :
    (v.begin r generation).requests = v.requests ++ [r] :=
  List.map_append

theorem requests_land (hf : v.flight? load = some f) (how : LoadEnd) :
    (v.land load f how).requests = v.requests := by
  obtain ⟨hlt, rfl⟩ := List.getElem?_eq_some_iff.mp hf
  have hlt' : load < v.requests.length := Nat.lt_of_lt_of_eq hlt (List.length_map _).symm
  have hsame : v.requests[load] = v.flights[load].ticket.request := List.getElem_map _
  calc (v.land load v.flights[load] how).requests
      = v.requests.set load v.flights[load].ticket.request := List.map_set
    _ = v.requests := by rw [← hsame]; exact List.set_getElem_self hlt'

theorem rank_land (hf : v.flight? load = some f) (how : LoadEnd) :
    (v.land load f how).rank k = v.rank k := by
  funext load'
  rw [rank, requests_land hf, rank]

/-- A load that is started does not change the numbers of those before it, nor its own. -/
theorem rank_begin (h : load ≤ v.flights.length) :
    (v.begin r generation).rank k load = v.rank k load := by
  have hle : load ≤ v.requests.length := Nat.le_trans h (Nat.le_of_eq (List.length_map _).symm)
  rw [rank, requests_begin, List.take_append_of_le_length hle, rank]

/-- The requests of the loads that were started stay what they are. -/
theorem requests_move {ev : CacheEvent} (hm : Move config ev v w) {before : List Request}
    (h : before <+: v.requests) : before <+: w.requests := by
  have hcongr : ∀ {u : CacheView}, w.flights = u.flights → w.requests = u.requests :=
    fun hw => congrArg (List.map _) hw
  rcases flights_move hm with hw | ⟨r, g, hw⟩ | ⟨load, f, how, -, hf, -, hw⟩
  · rw [hcongr hw]
    exact h
  · rw [hcongr hw, requests_begin]
    exact h.trans (List.prefix_append _ _)
  · rw [hcongr hw, requests_land hf]
    exact h

/-- The next load of a request comes after all others of the request. -/
theorem rank_length (v : CacheView) (k : Request) :
    v.rank k v.flights.length = (v.loadsOf k).length := by
  have hall : v.requests.take v.flights.length = v.requests :=
    List.take_of_length_le (Nat.le_of_eq (List.length_map _))
  rw [rank, hall, requests, List.count_eq_countP, List.countP_map, List.countP_eq_length_filter]
  rfl

/-- Where a load of a request goes among the loads of the request. -/
theorem loadsOf_rank (hf : v.flight? load = some f) (hk : f.ticket.request = k) :
    (v.loadsOf k)[v.rank k load]? = some f :=
  getElem?_filter_key hf hk

theorem loadsOf_begin (v : CacheView) (k : Request) (generation : Nat) :
    (v.begin k generation).loadsOf k
      = v.loadsOf k ++ [Flight.begin v.now ⟨v.flights.length, k, generation⟩] := by
  rw [loadsOf, begin, List.filter_append, loadsOf]
  exact congrArg _ (List.filter_cons_of_pos (decide_eq_true rfl))

theorem loadsOf_begin_of_ne (hr : r ≠ k) : (v.begin r generation).loadsOf k = v.loadsOf k := by
  have hnone : [Flight.begin v.now ⟨v.flights.length, r, generation⟩].filter
      (fun f => f.ticket.request = k) = [] :=
    List.filter_cons_of_neg (mt of_decide_eq_true hr)
  rw [loadsOf, begin, List.filter_append, hnone, List.append_nil, loadsOf]

theorem loadsOf_land (hf : v.flight? load = some f) (hk : f.ticket.request = k) (how : LoadEnd) :
    (v.land load f how).loadsOf k = (v.loadsOf k).set (v.rank k load) (f.land v.now how) :=
  filter_set_of_key hf hk hk

theorem loadsOf_land_of_ne (hf : v.flight? load = some f) (hk : f.ticket.request ≠ k)
    (how : LoadEnd) : (v.land load f how).loadsOf k = v.loadsOf k :=
  filter_set_of_ne hf hk hk

/-- A load that ends stays a load of its request and generation. -/
theorem mem_loadsOf_land (hf : v.flight? load = some f) {f' : Flight}
    (h : f' ∈ (v.land load f how).loadsOf k) :
    ∃ f₀ ∈ v.loadsOf k, f₀.ticket.generation = f'.ticket.generation := by
  obtain ⟨load', hf', hk⟩ := mem_loadsOf.mp h
  rcases flights_land hf' with ⟨-, hold⟩ | ⟨-, rfl⟩
  · exact ⟨f', mem_loadsOf.mpr ⟨load', hold, hk⟩, rfl⟩
  · exact ⟨f, mem_loadsOf.mpr ⟨load, hf, hk⟩, rfl⟩

/-! ## What keeps the mirror -/

/-- Only the names of what there is matter. -/
theorem rename_congr (hs : v.Sound) {number : Nat → Nat}
    (hnumber : ∀ load, load < v.flights.length → number load = v.rank k load)
    (hρ : ∀ g, g < v.generations → ρ' g = ρ g) :
    (v.loadsOf k).map (·.rename number ρ') = (v.loadsOf k).map (·.rename (v.rank k) ρ) ∧
      (v.find? k).map (·.rename number ρ') = (v.find? k).map (·.rename (v.rank k) ρ) := by
  constructor
  · refine List.map_congr_left fun f hmem => ?_
    obtain ⟨load, hf, -⟩ := mem_loadsOf.mp hmem
    have hlt := (List.getElem?_eq_some_iff.mp hf).1
    rw [Flight.rename, Flight.rename, hs.logged.number load f hf, hnumber load hlt,
      hρ _ (hs.logged.drawn load f hf)]
  · cases he : v.find? k with
    | none => rfl
    | some e =>
        have ht := hs.tracks k e he
        obtain ⟨f, hf, -⟩ := ht.load
        have hrefresh : e.refresh.map number = e.refresh.map (v.rank k) := by
          cases hr : e.refresh with
          | none => rfl
          | some load =>
              obtain ⟨-, f', hf', -⟩ := ht.refresh load hr
              exact congrArg some (hnumber load (List.getElem?_eq_some_iff.mp hf').1)
        rw [Option.map_some, Option.map_some, CacheEntry.rename, CacheEntry.rename, hrefresh,
          hnumber _ (List.getElem?_eq_some_iff.mp hf).1, hρ _ ht.drawn]

/-- Generations that are yet to be drawn may be renamed in any way. -/
theorem Mirrors.congr (hm : Mirrors k ρ v w) (hs : v.Sound)
    (hρ : ∀ g, g < v.generations → ρ' g = ρ g) : Mirrors k ρ' v w := by
  obtain ⟨hflights, hentry⟩ := rename_congr (k := k) hs (fun _ _ => rfl) hρ
  have hdrawn : ∀ f ∈ v.loadsOf k, ρ' f.ticket.generation = ρ f.ticket.generation := by
    intro f hmem
    obtain ⟨load, hf, -⟩ := mem_loadsOf.mp hmem
    exact hρ _ (hs.logged.drawn load f hf)
  refine ⟨hm.now, hm.flights.trans hflights.symm, hm.entry.trans hentry.symm, hm.others, ?_, ?_⟩
  · intro f f' hf hf' heq
    rw [hdrawn f hf, hdrawn f' hf'] at heq
    exact hm.injective f f' hf hf' heq
  · intro f hf
    rw [hdrawn f hf]
    exact hm.drawn f hf

/-- Both views give the request an entry. -/
theorem Mirrors.put (hm : Mirrors k ρ v w) (x : Option CacheEntry) :
    Mirrors k ρ (v.put k x) (w.put k (x.map (·.rename (v.rank k) ρ))) := by
  refine ⟨hm.now, hm.flights, ?_, ?_, hm.injective, hm.drawn⟩
  · rw [put_find?_self, put_find?_self]
    rfl
  · intro r hr
    exact (put_find?_of_ne w _ hr).trans (hm.others r hr)

/-- Other requests have the entries they like. -/
theorem Mirrors.put_other (hm : Mirrors k ρ v w) (hr : r ≠ k) (x : Option CacheEntry) :
    Mirrors k ρ (v.put r x) w := by
  refine ⟨hm.now, hm.flights, ?_, hm.others, hm.injective, hm.drawn⟩
  rw [put_find?_of_ne v x hr.symm]
  exact hm.entry

/-- Both views start a load of the request. -/
theorem Mirrors.begin (hm : Mirrors k ρ v w) (hs : v.Sound) (generation : Nat)
    (hinj : ∀ f ∈ v.loadsOf k, ρ f.ticket.generation = ρ generation →
      f.ticket.generation = generation) (hdrawn : ρ generation < w.generations) :
    Mirrors k ρ (v.begin k generation) (w.begin k (ρ generation)) := by
  have hrank : ∀ load, load < v.flights.length →
      (v.begin k generation).rank k load = v.rank k load :=
    fun load hlt => rank_begin (Nat.le_of_lt hlt)
  obtain ⟨hflights, hentry⟩ := rename_congr hs hrank (fun g _ => rfl : ∀ g, _ → ρ g = ρ g)
  have hlen : w.flights.length = v.rank k v.flights.length := by
    rw [hm.flights, List.length_map, rank_length]
  refine ⟨hm.now, ?_, ?_, hm.others, ?_, ?_⟩
  · have hown : (v.begin k generation).rank k v.flights.length = v.rank k v.flights.length :=
      rank_begin (Nat.le_refl _)
    rw [loadsOf_begin, List.map_append, hflights, ← hm.flights]
    show w.flights ++ [Flight.begin w.now ⟨w.flights.length, k, ρ generation⟩] = _
    rw [hlen, hm.now, ← hown]
    rfl
  · exact hm.entry.trans hentry.symm
  · intro f f' hf hf' heq
    rw [loadsOf_begin] at hf hf'
    rcases List.mem_append.mp hf with hf | hf
    · rcases List.mem_append.mp hf' with hf' | hf'
      · exact hm.injective f f' hf hf' heq
      · cases List.mem_singleton.mp hf'
        exact hinj f hf heq
    · cases List.mem_singleton.mp hf
      rcases List.mem_append.mp hf' with hf' | hf'
      · exact (hinj f' hf' heq.symm).symm
      · cases List.mem_singleton.mp hf'
        rfl
  · intro f hf
    rw [loadsOf_begin] at hf
    rcases List.mem_append.mp hf with hf | hf
    · exact hm.drawn f hf
    · cases List.mem_singleton.mp hf
      exact hdrawn

/-- A load of another request is started. -/
theorem Mirrors.begin_other (hm : Mirrors k ρ v w) (hs : v.Sound) (hr : r ≠ k) :
    Mirrors k ρ (v.begin r generation) w := by
  have hrank : ∀ load, load < v.flights.length →
      (v.begin r generation).rank k load = v.rank k load :=
    fun load hlt => rank_begin (Nat.le_of_lt hlt)
  obtain ⟨hflights, hentry⟩ := rename_congr hs hrank (fun g _ => rfl : ∀ g, _ → ρ g = ρ g)
  have hloads : (v.begin r generation).loadsOf k = v.loadsOf k := loadsOf_begin_of_ne hr
  refine ⟨hm.now, ?_, hm.entry.trans hentry.symm, hm.others, ?_, ?_⟩
  · rw [hloads]
    exact hm.flights.trans hflights.symm
  · rw [hloads]
    exact hm.injective
  · rw [hloads]
    exact hm.drawn

/-- Both views have a load of the request. -/
theorem Mirrors.flight? (hm : Mirrors k ρ v w) (hf : v.flight? load = some f)
    (hk : f.ticket.request = k) :
    w.flight? (v.rank k load) = some (f.rename (v.rank k) ρ) := by
  rw [CacheView.flight?, hm.flights, List.getElem?_map, loadsOf_rank hf hk]
  rfl

/-- A load of the request ends in both views. -/
theorem Mirrors.land (hm : Mirrors k ρ v w) (hf : v.flight? load = some f)
    (hk : f.ticket.request = k) (how : LoadEnd) : Mirrors k ρ (v.land load f how)
      (w.land (v.rank k load) (f.rename (v.rank k) ρ) how) := by
  refine ⟨hm.now, ?_, ?_, hm.others, ?_, ?_⟩
  · show w.flights.set _ ((f.rename (v.rank k) ρ).land w.now how) = _
    rw [rank_land hf, loadsOf_land hf hk, List.map_set, hm.flights, hm.now]
    rfl
  · rw [rank_land hf]
    exact hm.entry
  · intro f₁ f₂ h₁ h₂ heq
    obtain ⟨g₁, hg₁, hgen₁⟩ := mem_loadsOf_land hf h₁
    obtain ⟨g₂, hg₂, hgen₂⟩ := mem_loadsOf_land hf h₂
    rw [← hgen₁, ← hgen₂] at heq ⊢
    exact hm.injective g₁ g₂ hg₁ hg₂ heq
  · intro f₁ h₁
    obtain ⟨g₁, hg₁, hgen₁⟩ := mem_loadsOf_land hf h₁
    rw [← hgen₁]
    exact hm.drawn g₁ hg₁

/-- A load of another request ends. -/
theorem Mirrors.land_other (hm : Mirrors k ρ v w) (hf : v.flight? load = some f)
    (hk : f.ticket.request ≠ k) (how : LoadEnd) : Mirrors k ρ (v.land load f how) w := by
  have hloads := loadsOf_land_of_ne hf hk how
  refine ⟨hm.now, ?_, ?_, hm.others, ?_, ?_⟩
  · rw [hloads, rank_land hf]
    exact hm.flights
  · rw [rank_land hf]
    exact hm.entry
  · rw [hloads]
    exact hm.injective
  · rw [hloads]
    exact hm.drawn

end CacheView

end Courier
