import Courier.Proofs.Cache.Mirrors

/-!
# Isolation — requests do not interfere

Take away from a run everything that is about other requests: their gets and invalidations, and the
ends of their loads (`History.only`).  What is left is a run of a cache that one request has for
itself, and it mirrors the whole run, step by step (`mirrors_next`): an event of the request does the
same in both, and an event of another request leaves the mirror as it is.  The one thing that
requests share is room, so the whole run has to have enough of it.
-/

namespace Courier

namespace CacheView

variable {config : CacheConfig} {v w : CacheView} {k r : Request} {ρ : Nat → Nat}
  {e : CacheEntry} {load : Nat}

/-- What is left of an event if only one request matters.  The loads of that request are numbered among
    themselves. -/
def only (v : CacheView) (k : Request) : CacheEvent → Option CacheEvent
  | .get r => if r = k then some (.get k) else none
  | .invalidate r => if r = k then some (.invalidate k) else none
  | .land load how =>
    if (v.flight? load).any fun f => f.ticket.request = k then some (.land (v.rank k load) how)
    else none
  | ev => some ev

/-- Only a get of the request leaves a get. -/
theorem only_eq_get {ev : CacheEvent} (h : v.only k ev = some (.get r)) : ev = .get k ∧ r = k := by
  cases ev with
  | get r' =>
      rw [only] at h
      split at h
      · rename_i hr
        cases h
        exact ⟨congrArg _ hr, rfl⟩
      · exact nomatch h
  | invalidate r' =>
      rw [only] at h
      split at h <;> exact nomatch h
  | land load how =>
      rw [only] at h
      split at h <;> exact nomatch h
  | _ => exact nomatch h

/-! ## Asking -/

theorem Mirrors.find?_none (hm : Mirrors k ρ v w) (he : v.find? k = none) : w.find? k = none := by
  rw [hm.entry, he]
  rfl

theorem Mirrors.find?_some (hm : Mirrors k ρ v w) (he : v.find? k = some e) :
    w.find? k = some (e.rename (v.rank k) ρ) := by
  rw [hm.entry, he]
  rfl

/-- The next load of the request has its own number in the mirror. -/
theorem Mirrors.length (hm : Mirrors k ρ v w) : w.flights.length = v.rank k v.flights.length := by
  rw [hm.flights, List.length_map, rank_length]

/-- Both views replace the entry of the request, and the generations that they draw for it are named
    after each other. -/
theorem Mirrors.renew (hm : Mirrors k ρ v w) (hs : v.Sound) :
    ∃ ρ', (∀ g, g < v.generations → ρ' g = ρ g) ∧ Mirrors k ρ' (v.renew k) (w.renew k) := by
  let ρ' : Nat → Nat := fun g => if g = v.generations then w.generations else ρ g
  have hnew : ρ' v.generations = w.generations := if_pos rfl
  have hold : ∀ g, g < v.generations → ρ' g = ρ g := fun g hg => if_neg (Nat.ne_of_lt hg)
  refine ⟨ρ', hold, ?_⟩
  have hm' := hm.congr hs hold
  have hdrawn : ∀ f ∈ v.loadsOf k, f.ticket.generation < v.generations := by
    intro f hmem
    obtain ⟨load, hf, -⟩ := mem_loadsOf.mp hmem
    exact hs.logged.drawn load f hf
  have hroom : Mirrors k ρ' v { w with generations := w.generations + 1 } :=
    ⟨hm'.now, hm'.flights, hm'.entry, hm'.others, hm'.injective,
      fun f hf => Nat.lt_succ_of_lt (hm'.drawn f hf)⟩
  have hfresh : ∀ f ∈ v.loadsOf k, ρ' f.ticket.generation = ρ' v.generations →
      f.ticket.generation = v.generations := by
    intro f hf heq
    rw [hold _ (hdrawn f hf), hnew] at heq
    exact absurd heq (Nat.ne_of_lt (hm.drawn f hf))
  have hbegun := hroom.begin hs v.generations hfresh (hnew ▸ Nat.lt_succ_self _)
  have hput := hbegun.put (some (.loading v.flights.length v.generations v.now))
  have hentry : (some (CacheEntry.loading v.flights.length v.generations v.now)).map
      (·.rename ((v.begin k v.generations).rank k) ρ')
      = some (.loading w.flights.length w.generations w.now) := by
    rw [hm.length, hm.now, ← hnew, ← rank_begin (Nat.le_refl _)]
    rfl
  rw [hentry, hnew] at hput
  exact ⟨hput.now, hput.flights, hput.entry, hput.others, hput.injective, hput.drawn⟩

/-- Both views start a refresh of the entry of the request. -/
theorem Mirrors.refresh (hm : Mirrors k ρ v w) (hs : v.Sound) (he : v.find? k = some e) :
    Mirrors k ρ ((v.begin k e.generation).put k
        (some { e with accessedAt := v.now, refresh := some v.flights.length }))
      ((w.begin k (ρ e.generation)).put k (some { e.rename (v.rank k) ρ with
        accessedAt := w.now, refresh := some w.flights.length })) := by
  obtain ⟨f, hf, hreq, hgen⟩ := (hs.tracks k e he).load
  have hmem : f ∈ v.loadsOf k := mem_loadsOf.mpr ⟨_, hf, hreq⟩
  have hinj : ∀ f' ∈ v.loadsOf k, ρ f'.ticket.generation = ρ e.generation →
      f'.ticket.generation = e.generation := by
    intro f' hf' heq
    rw [← hgen] at heq ⊢
    exact hm.injective f' f hf' hmem heq
  have hbegun := hm.begin hs e.generation hinj (hgen ▸ hm.drawn f hmem)
  have hput := hbegun.put (some { e with accessedAt := v.now, refresh := some v.flights.length })
  have hload : (v.begin k e.generation).rank k e.load = v.rank k e.load :=
    rank_begin (Nat.le_of_lt (List.getElem?_eq_some_iff.mp hf).1)
  have hnext : (v.begin k e.generation).rank k v.flights.length = v.rank k v.flights.length :=
    rank_begin (Nat.le_refl _)
  rw [Option.map_some, CacheEntry.rename, hload, Option.map_some, hnext] at hput
  rw [hm.now, hm.length]
  exact hput

/-- Asking for the request comes to the same in both views. -/
theorem Mirrors.ask (hm : Mirrors k ρ v w) (hs : v.Sound) (config : CacheConfig) :
    ∃ ρ', (∀ g, g < v.generations → ρ' g = ρ g) ∧
      Mirrors k ρ' (v.ask config k) (w.ask config k) := by
  cases he : v.find? k with
  | none =>
      rw [ask_of_none he, ask_of_none (hm.find?_none he)]
      exact hm.renew hs
  | some e =>
      have he' := hm.find?_some he
      have hexpired : (e.rename (v.rank k) ρ).isExpired w.now config.expire
          = e.isExpired v.now config.expire := by
        rw [hm.now]
        rfl
      cases hx : e.isExpired v.now config.expire with
      | true =>
          rw [hx] at hexpired
          cases hr : e.refresh with
          | none =>
              have hr' : (e.rename (v.rank k) ρ).refresh = none := congrArg (Option.map _) hr
              rw [ask_of_stale he hx hr, ask_of_stale he' hexpired hr']
              exact hm.renew hs
          | some load =>
              have hr' : (e.rename (v.rank k) ρ).refresh = some (v.rank k load) :=
                congrArg (Option.map _) hr
              rw [ask_of_joined he hx hr, ask_of_joined he' hexpired hr', hm.now]
              exact ⟨ρ, fun _ _ => rfl, hm.put _⟩
      | false =>
          rw [hx] at hexpired
          have hneeds := e.needsRefresh_rename (v.rank k) ρ w.now config.refresh
          rw [hm.now] at hneeds
          cases hn : e.needsRefresh v.now config.refresh with
          | true =>
              rw [hn, ← hm.now] at hneeds
              rw [ask_of_refreshed he hx hn, ask_of_refreshed he' hexpired hneeds]
              exact ⟨ρ, fun _ _ => rfl, hm.refresh hs he⟩
          | false =>
              rw [hn, ← hm.now] at hneeds
              rw [ask_of_live he hx hn, ask_of_live he' hexpired hneeds, hm.now]
              exact ⟨ρ, fun _ _ => rfl, hm.put _⟩

/-- Asking for another request is not seen. -/
theorem Mirrors.ask_other (hm : Mirrors k ρ v w) (hs : v.Sound) (config : CacheConfig)
    (hr : r ≠ k) : Mirrors k ρ (v.ask config r) w := by
  refine ask_cases (P := fun v' => Mirrors k ρ v' w) config v r ?_ ?_ ?_ ?_
  · intro _
    have hbegin : Mirrors k ρ (v.begin r v.generations) w := hm.begin_other hs hr
    have hput := hbegin.put_other hr (some (.loading v.flights.length v.generations v.now))
    exact ⟨hput.now, hput.flights, hput.entry, hput.others, hput.injective, hput.drawn⟩
  · intro e load _ _ _
    exact hm.put_other hr _
  · intro e _ _ _
    exact (hm.begin_other hs hr).put_other hr _
  · intro e _ _ _
    exact hm.put_other hr _

/-! ## The end of a load -/

/-- A load leaves the same of an entry, whatever the names. -/
theorem leaves_rename {number : Nat → Nat} {t : Ticket} (how : LoadEnd) (now : Nat)
    (hg : ρ e.generation = ρ t.generation → e.generation = t.generation) :
    how.leaves now ⟨number t.load, t.request, ρ t.generation⟩ (e.rename number ρ)
      = (how.leaves now t e).map (·.rename number ρ) := by
  by_cases heq : e.generation = t.generation
  · have heq' : (e.rename number ρ).generation = ρ t.generation := congrArg ρ heq
    cases how with
    | died how => rw [LoadEnd.leaves_of_died, LoadEnd.leaves_of_died]; rfl
    | gave outcome length =>
        cases outcome with
        | ok response => rw [LoadEnd.leaves_of_ok heq', LoadEnd.leaves_of_ok heq]; rfl
        | error cause =>
            rw [LoadEnd.leaves_of_error heq', LoadEnd.leaves_of_error heq]
            show (if e.writtenAt.isSome = true then
              some ({ e with refresh := none }.rename number ρ) else none) = _
            cases e.writtenAt.isSome with
            | true => rfl
            | false => rfl
  · have heq' : (e.rename number ρ).generation ≠ ρ t.generation := fun h => heq (hg h)
    rw [LoadEnd.leaves_of_ne how heq, LoadEnd.leaves_of_ne how heq']
    rfl

/-- The end of a load of the request comes to the same in both views. -/
theorem Mirrors.finish (hm : Mirrors k ρ v w) (hs : v.Sound) {f : Flight}
    (hf : v.flight? load = some f) (hk : f.ticket.request = k) (how : LoadEnd) :
    Mirrors k ρ (v.finish load how) (w.finish (v.rank k load) how) := by
  have hf' := hm.flight? hf hk
  by_cases hr : f.landing = none
  · rw [finish_of_running hf hr, finish_of_running hf' hr]
    have hput := (hm.land hf hk how).put ((v.find? k).bind (how.leaves v.now f.ticket))
    have hentry : (w.find? k).bind (how.leaves w.now (f.rename (v.rank k) ρ).ticket)
        = ((v.find? k).bind (how.leaves v.now f.ticket)).map (·.rename (v.rank k) ρ) := by
      cases he : v.find? k with
      | none => rw [hm.find?_none he]; rfl
      | some e =>
          rw [hm.find?_some he, hm.now, Option.bind_some, Option.bind_some]
          refine leaves_rename how v.now fun heq => ?_
          obtain ⟨f₀, hf₀, hreq, hgen⟩ := (hs.tracks k e he).load
          rw [← hgen] at heq ⊢
          exact hm.injective f₀ f (mem_loadsOf.mpr ⟨_, hf₀, hreq⟩) (mem_loadsOf.mpr ⟨_, hf, hk⟩) heq
    rw [rank_land hf, ← hentry] at hput
    have hk' : (f.rename (v.rank k) ρ).ticket.request = k := hk
    rw [hk, hk']
    exact hput
  · rw [finish_of_not_running, finish_of_not_running]
    · exact hm
    · intro f₁ hf₁
      cases Option.some.inj (hf'.symm.trans hf₁)
      exact hr
    · intro f₁ hf₁
      cases Option.some.inj (hf.symm.trans hf₁)
      exact hr

/-- The end of a load of another request is not seen. -/
theorem Mirrors.finish_other (hm : Mirrors k ρ v w)
    (hk : ∀ f, v.flight? load = some f → f.ticket.request ≠ k) (how : LoadEnd) :
    Mirrors k ρ (v.finish load how) w := by
  rcases v.running_or_not load with ⟨f, hf, hr⟩ | hn
  · rw [finish_of_running hf hr]
    exact (hm.land_other hf (hk f hf) how).put_other (hk f hf) _
  · rw [finish_of_not_running hn]
    exact hm

/-! ## What callers see -/

/-- Whoever asks for the request gets the same load in both views. -/
theorem Mirrors.answer (hm : Mirrors k ρ v w) (config : CacheConfig) :
    w.answer config k = v.rank k (v.answer config k) := by
  cases he : v.find? k with
  | none => rw [answer_of_none he, answer_of_none (hm.find?_none he), hm.length]
  | some e =>
      have he' := hm.find?_some he
      have hexpired : (e.rename (v.rank k) ρ).isExpired w.now config.expire
          = e.isExpired v.now config.expire := by
        rw [hm.now]
        rfl
      cases hx : e.isExpired v.now config.expire with
      | true =>
          rw [answer_of_expired he hx, answer_of_expired he' (hexpired.trans hx), hm.length]
          show (e.refresh.map (v.rank k)).getD _ = _
          cases e.refresh with
          | none => rfl
          | some load => rfl
      | false =>
          rw [answer_of_live he hx, answer_of_live he' (hexpired.trans hx)]
          rfl

theorem Mirrors.isHit (hm : Mirrors k ρ v w) (config : CacheConfig) :
    w.isHit config k = v.isHit config k := by
  rw [CacheView.isHit, CacheView.isHit, hm.entry, hm.now, Option.any_map]
  rfl

/-! ## Every event -/

/-- **AN EVENT KEEPS THE MIRROR**, if what is left of it happens there. -/
theorem mirrors_next (hm : Mirrors k ρ v w) (hs : v.Sound) (config : CacheConfig)
    (ev : CacheEvent) : ∃ ρ', (∀ g, g < v.generations → ρ' g = ρ g) ∧
      Mirrors k ρ' (v.next config ev) ((v.only k ev).elim w (w.next config)) := by
  cases ev with
  | pass nanos =>
      refine ⟨ρ, fun _ _ => rfl, ?_, hm.flights, hm.entry, hm.others, hm.injective, hm.drawn⟩
      exact congrArg (· + nanos) hm.now
  | get r =>
      by_cases hr : r = k
      · subst hr
        rw [only, if_pos rfl]
        exact hm.ask hs config
      · rw [only, if_neg hr]
        exact ⟨ρ, fun _ _ => rfl, hm.ask_other hs config hr⟩
  | invalidate r =>
      by_cases hr : r = k
      · subst hr
        rw [only, if_pos rfl]
        exact ⟨ρ, fun _ _ => rfl, hm.put none⟩
      · rw [only, if_neg hr]
        exact ⟨ρ, fun _ _ => rfl, hm.put_other hr none⟩
  | invalidateAll =>
      exact ⟨ρ, fun _ _ => rfl, hm.now, hm.flights, rfl, fun _ _ => rfl, hm.injective, hm.drawn⟩
  | purge =>
      refine ⟨ρ, fun _ _ => rfl, hm.now, hm.flights, ?_, ?_, hm.injective, hm.drawn⟩
      · show (w.find? k).filter _ = ((v.find? k).filter _).map _
        rw [hm.entry, hm.now, Option.filter_map]
        refine congrArg (fun p => ((v.find? k).filter p).map _) (funext fun e => ?_)
        show (!(e.isExpired v.now config.expire && (e.refresh.map _).isNone)) = _
        rw [Option.isNone_map]
      · intro r hr
        show (w.find? r).filter _ = none
        rw [hm.others r hr]
        rfl
  | land load how =>
      cases hf : v.flight? load with
      | none =>
          rw [only, hf]
          exact ⟨ρ, fun _ _ => rfl, hm.finish_other (fun f hf' => nomatch hf.symm.trans hf') how⟩
      | some f =>
          by_cases hk : f.ticket.request = k
          · rw [only, hf, Option.any_some, if_pos (decide_eq_true hk)]
            exact ⟨ρ, fun _ _ => rfl, hm.finish hs hf hk how⟩
          · rw [only, hf, Option.any_some, if_neg (mt of_decide_eq_true hk)]
            refine ⟨ρ, fun _ _ => rfl, hm.finish_other (fun f' hf' => ?_) how⟩
            exact Option.some.inj (hf.symm.trans hf') ▸ hk

end CacheView

namespace History

variable {config : CacheConfig} {h h' : History} {k : Request} {ρ : Nat → Nat}
  {events : List CacheEvent}

/-- What is left of some events if only one request matters. -/
def only (h : History) (k : Request) : List CacheEvent → List CacheEvent
  | [] => []
  | ev :: rest => (h.view.only k ev).toList ++ (h.step ev).only k rest

/-- A cache that one request has for itself has room if the other has. -/
theorem hasRoom_of_mirrors (hp : h.Proper config) (hp' : h'.Proper config)
    (hm : CacheView.Mirrors k ρ h.view h'.view) {ev ev' : CacheEvent}
    (honly : h.view.only k ev = some ev') (hroom : h.HasRoom ev) : h'.HasRoom ev' := by
  cases ev' with
  | get r =>
      obtain ⟨rfl, rfl⟩ := CacheView.only_eq_get honly
      obtain ⟨ρ', -, hasked⟩ := hm.ask hp.sound config
      rw [← hp.view_ask, ← hp'.view_ask] at hasked
      have hone : (h'.ask r).cache.size ≤ 1 := by
        refine Cache.size_le_of_keys (asked hp'.orderly r).orderly.distinct [r] ?_
        intro r' hfound
        refine List.mem_singleton.mpr (Decidable.byContradiction fun hne => ?_)
        exact hfound (hasked.others r' hne)
      have hpos : 1 ≤ (h.ask r).cache.size := by
        obtain ⟨e, he, -⟩ := (asked hp.orderly r).entry
        exact Cache.size_pos_of_find? he
      have hmax : h'.cache.config.maximumSize = h.cache.config.maximumSize := by
        rw [hp.config, hp'.config]
      exact Nat.le_trans hone (Nat.le_trans hpos (Nat.le_trans hroom (Nat.le_of_eq hmax.symm)))
  | _ => trivial

/-- **WHAT IS LEFT OF A RUN MIRRORS THE RUN**, from beginning to end and under the same names. -/
theorem mirrors_steps (hp : h.Proper config) (hp' : h'.Proper config)
    (hm : CacheView.Mirrors k ρ h.view h'.view) (hroom : h.Roomy events) :
    ∃ ρ', (∀ g, g < h.view.generations → ρ' g = ρ g) ∧ ∀ before, before <+: events →
      CacheView.Mirrors k ρ' (h.steps before).view (h'.steps (h.only k before)).view := by
  induction events generalizing h h' ρ with
  | nil =>
      refine ⟨ρ, fun _ _ => rfl, fun before hbefore => ?_⟩
      rw [List.prefix_nil.mp hbefore]
      exact hm
  | cons ev rest ih =>
      obtain ⟨ρ₁, hρ₁, hm₁⟩ := CacheView.mirrors_next hm hp.sound config ev
      have hview := view_step_of_room hp ev hroom.1
      have hview' : (h'.steps (h.view.only k ev).toList).view
          = (h.view.only k ev).elim h'.view (h'.view.next config) := by
        cases honly : h.view.only k ev with
        | none => rfl
        | some ev' => exact view_step_of_room hp' ev' (hasRoom_of_mirrors hp hp' hm honly hroom.1)
      rw [← hview, ← hview'] at hm₁
      obtain ⟨ρ', hρ', hmirrors⟩ := ih (hp.step ev) (hp'.steps _) hm₁ hroom.2
      -- what was drawn before the event keeps its name
      have hdrawn : ∀ g, g < h.view.generations → ρ' g = ρ g := by
        intro g hg
        have hlater : g < (h.step ev).view.generations := generations_steps hp.orderly [ev] hg
        exact (hρ' g hlater).trans (hρ₁ g hg)
      refine ⟨ρ', hdrawn, fun before hbefore => ?_⟩
      cases before with
      | nil => exact hm.congr hp.sound hdrawn
      | cons ev' before =>
          obtain ⟨rfl, hrest⟩ := List.cons_prefix_cons.mp hbefore
          have hsteps : h'.steps (h.only k (ev' :: before))
              = (h'.steps (h.view.only k ev').toList).steps ((h.step ev').only k before) :=
            steps_append h' _ _
          rw [hsteps]
          exact hmirrors before hrest

/-- A cache starts as the mirror of itself. -/
theorem mirrors_start (config : CacheConfig) (k : Request) :
    CacheView.Mirrors k id (start config).view (start config).view :=
  ⟨rfl, rfl, rfl, fun _ _ => rfl, fun _ _ hf => (nomatch hf), fun _ hf => (nomatch hf)⟩

/-- Loads keep their numbers among the loads of a request. -/
theorem rank_steps (ho : h.Orderly) (events : List CacheEvent) {load : Nat}
    (hle : load ≤ h.flights.length) :
    (h.steps events).view.rank k load = h.view.rank k load := by
  obtain ⟨more, hmore⟩ := steps_keep (P := fun v => h.view.requests <+: v.requests) ho events
    (fun _ _ _ _ hm hprefix => CacheView.requests_move hm hprefix) (List.prefix_refl _)
  have hlen : load ≤ h.view.requests.length :=
    Nat.le_trans hle (Nat.le_of_eq (List.length_map _).symm)
  rw [CacheView.rank, ← hmore, List.take_append_of_le_length hlen, CacheView.rank]

/-- The callers of a load of the request get the same in the mirror. -/
theorem result?_of_mirrors (hm : CacheView.Mirrors k ρ h.view h'.view) {load : Nat} {f : Flight}
    (hf : h.flight? load = some f) (hk : f.ticket.request = k) :
    h'.result? (h.view.rank k load) = h.result? load := by
  have hf' : h'.flight? (h.view.rank k load) = some (f.rename (h.view.rank k) ρ) :=
    hm.flight? hf hk
  obtain ⟨ticket, started, landing⟩ := f
  rw [result?, result?, hf, hf']
  cases landing with
  | none => rfl
  | some l => rfl

/-- A history is for one request what another one is: at the same time it has the same entry and the
    same loads, under other names, and whoever asks gets the same load. -/
structure Reflects (k : Request) (ρ : Nat → Nat) (h h' : History) : Prop where
  now : h'.now = h.now
  entry : h'.cache.find? k = (h.cache.find? k).map (·.rename (h.view.rank k) ρ)
  flights : h'.flights
    = (h.flights.filter fun f => f.ticket.request = k).map (·.rename (h.view.rank k) ρ)
  hit : h'.isHit k = h.isHit k
  answer : h'.answer k = h.view.rank k (h.answer k)

theorem reflects_of_mirrors (hp : h.Proper config) (hp' : h'.Proper config)
    (hm : CacheView.Mirrors k ρ h.view h'.view) : Reflects k ρ h h' := by
  refine ⟨hm.now, hm.entry, hm.flights, ?_, ?_⟩
  · rw [isHit, isHit, hp.config, hp'.config]
    exact hm.isHit config
  · rw [hp.answer, hp'.answer]
    exact hm.answer config

/-- **REQUESTS DO NOT INTERFERE.**  Take a run that has room, and what is left of it for one request.
    At any time the two have the same entry of the request and the same loads, but for the numbers of
    the loads and the names of the generations; the names are the same all along, and no two
    generations of the request have one name.  A get of the request is a hit in both or in neither, and has
    the same outcome in both at any later time. -/
theorem requests_do_not_interfere (config : CacheConfig) (events : List CacheEvent) (k : Request)
    (hroom : (start config).Roomy events) :
    ∃ ρ : Nat → Nat,
      (∀ f f', f ∈ (run config events).flights → f' ∈ (run config events).flights →
        f.ticket.request = k → f'.ticket.request = k →
        ρ f.ticket.generation = ρ f'.ticket.generation →
        f.ticket.generation = f'.ticket.generation) ∧
      (∀ before, before <+: events →
        Reflects k ρ (run config before) (run config ((start config).only k before))) ∧
      ∀ before later, before ++ .get k :: later <+: events →
        (run config ((start config).only k (before ++ .get k :: later))).result?
            ((run config ((start config).only k before)).answer k)
          = (run config (before ++ .get k :: later)).result? ((run config before).answer k) := by
  have hp := proper_start config
  obtain ⟨ρ, -, hmirrors⟩ := mirrors_steps hp hp (mirrors_start config k) hroom
  have hreflects : ∀ before, before <+: events →
      Reflects k ρ (run config before) (run config ((start config).only k before)) :=
    fun before hbefore =>
      reflects_of_mirrors (hp.steps before) (hp.steps _) (hmirrors before hbefore)
  refine ⟨ρ, ?_, hreflects, ?_⟩
  · intro f f' hf hf' hk hk' heq
    have hinj := (hmirrors events (List.prefix_refl _)).injective
    exact hinj f f' (List.mem_filter.mpr ⟨hf, decide_eq_true hk⟩)
      (List.mem_filter.mpr ⟨hf', decide_eq_true hk'⟩) heq
  · intro before later hbefore
    have hp₁ := proper_run config before
    have hanswer := (hreflects before ((List.prefix_append _ _).trans hbefore)).answer
    obtain ⟨f, hf, hk⟩ := answered_of hp₁.orderly hp₁.sound k
    obtain ⟨f', hf', hticket, -⟩ := flown_steps (hp₁.step (.get k)).orderly later hf
    have hrun : ((run config before).step (.get k)).steps later
        = run config (before ++ .get k :: later) :=
      (run_append config before (.get k :: later)).symm
    rw [hrun] at hf'
    have hle : (run config before).answer k ≤ (run config before).flights.length := by
      rw [hp₁.answer]
      exact CacheView.answer_le hp₁.sound config k
    have hrank := rank_steps (k := k) hp₁.orderly (.get k :: later) hle
    rw [← run_append] at hrank
    rw [hanswer, ← hrank]
    exact result?_of_mirrors (hmirrors _ hbefore) hf' (hticket ▸ hk)

/-- Two requests are loaded at the same time.  The second has the second load and the second generation,
    and the first of each when it is alone. -/
theorem requests_do_not_interfere_of_two :
    let config : CacheConfig := ⟨30, some 10, 2, true, 60000⟩
    let a : Request := default
    let b : Request := { a with maxRetries := 1 }
    let events := [.get a, .get b, .land 0 (.gave (.error .cancelled) ⟨0⟩),
      .land 1 (.gave (.ok default) ⟨0⟩), .invalidate a, .pass 5]
    let alone := [.get b, .land 0 (.gave (.ok default) ⟨0⟩), .pass 5]
    (run config events).answer b = 1 ∧ (run config alone).answer b = 0 ∧
      ∃ ρ : Nat → Nat, ρ 1 = 0 ∧ Reflects b ρ (run config events) (run config alone) := by
  obtain ⟨ρ, -, hreflects, -⟩ := requests_do_not_interfere ⟨30, some 10, 2, true, 60000⟩
    [.get default, .get { (default : Request) with maxRetries := 1 },
      .land 0 (.gave (.error .cancelled) ⟨0⟩), .land 1 (.gave (.ok default) ⟨0⟩),
      .invalidate default, .pass 5]
    { (default : Request) with maxRetries := 1 } (by decide)
  have hall := hreflects _ (List.prefix_refl _)
  have hname : some 0 = some (ρ 1) := congrArg (Option.map CacheEntry.generation) hall.entry
  exact ⟨rfl, rfl, ρ, (Option.some.inj hname).symm, hall⟩

end History

end Courier
