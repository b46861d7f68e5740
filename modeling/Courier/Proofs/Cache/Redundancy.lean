import Courier.Proofs.Cache.Room

/-!
# Redundancy — no load is started that is not needed

Once a value was written it is served until it expires, or is old enough to be refreshed
(`CacheConfig.span`).  No load that ends, no refresh that fails and no cleanup takes it away before,
or makes it older than it is (`held_next`); so while its entry is not dropped, no load of the request
is started (`started_of_held`).  And nothing but a get starts a load, of its own request, then and
there (`begun_step`).
-/

namespace Courier

/-- For how long after a write no load is needed: until the value expires, or is old enough to be
    refreshed. -/
def CacheConfig.span (config : CacheConfig) : Nat :=
  match config.refresh with
  | none => config.expire.nanos
  | some age => min config.expire.nanos age.nanos

namespace CacheEntry

variable {config : CacheConfig} {e : CacheEntry} {now w : Nat}

/-- A value that has expired is old. -/
theorem span_le_of_isExpired (hw : e.writtenAt = some w)
    (hx : e.isExpired now config.expire = true) : config.span ≤ now - w := by
  rw [isExpired_of_written hw] at hx
  have hold := of_decide_eq_true hx
  rw [CacheConfig.span]
  split
  · exact hold
  · exact Nat.le_trans (Nat.min_le_left _ _) hold

/-- A value that is to be refreshed is old. -/
theorem span_le_of_needsRefresh (hw : e.writtenAt = some w)
    (hn : e.needsRefresh now config.refresh = true) : config.span ≤ now - w := by
  rw [CacheConfig.span]
  unfold needsRefresh at hn
  cases ha : config.refresh with
  | none =>
      rw [ha] at hn
      exact nomatch hn
  | some age =>
      rw [ha, hw] at hn
      have hold := of_decide_eq_true (Bool.and_eq_true_iff.mp hn).2
      exact Nat.le_trans (Nat.min_le_right _ _) hold

end CacheEntry

namespace CacheView

variable {config : CacheConfig} {ev : CacheEvent} {v w : CacheView} {r r' : Request}
  {load written : Nat}

/-- A value that was written at some time needs no load: the entry still has it, or a later one,
    or it is old enough. -/
def Held (config : CacheConfig) (v : CacheView) (r : Request) (written : Nat) : Prop :=
  written + config.span ≤ v.now ∨
    ∃ e w, v.find? r = some e ∧ e.writtenAt = some w ∧ written ≤ w ∧ w ≤ v.now

/-- The entry of a request after it was asked for is old enough to be loaded anew, or it has its value. -/
theorem held_ask (h : v.Held config r written) (r' : Request) :
    (v.ask config r').Held config r written := by
  rw [Held, now_ask]
  rcases h with hold | ⟨e, w, he, hw, hle, hpast⟩
  · exact Or.inl hold
  · by_cases hr : r = r'
    · subst hr
      refine ask_cases (P := fun v' => written + config.span ≤ v.now ∨
        ∃ e w, v'.find? r = some e ∧ e.writtenAt = some w ∧ written ≤ w ∧ w ≤ v.now)
        config v r ?_ ?_ ?_ ?_
      · intro hstale
        have hspan := CacheEntry.span_le_of_isExpired hw (hstale e he).1
        exact Or.inl (by omega)
      · intro e' load he' hx _
        cases Option.some.inj (he.symm.trans he')
        have hspan := CacheEntry.span_le_of_isExpired hw hx
        exact Or.inl (by omega)
      · intro e' he' _ _
        cases Option.some.inj (he.symm.trans he')
        exact Or.inr ⟨_, w, put_find?_self _ _ _, hw, hle, hpast⟩
      · intro e' he' _ _
        cases Option.some.inj (he.symm.trans he')
        exact Or.inr ⟨_, w, put_find?_self _ _ _, hw, hle, hpast⟩
    · exact Or.inr ⟨e, w, (find?_ask_of_ne config v hr).trans he, hw, hle, hpast⟩

/-- Every event leaves a value alone that needs no load, or writes a newer one. -/
theorem held_next (h : v.Held config r written)
    (hi : ev.invalidates r = true → v.find? r = none) :
    (v.next config ev).Held config r written := by
  cases ev with
  | pass nanos =>
      rcases h with hold | ⟨e, w, he, hw, hle, hpast⟩
      · exact Or.inl (Nat.le_trans hold (Nat.le_add_right _ _))
      · exact Or.inr ⟨e, w, he, hw, hle, Nat.le_trans hpast (Nat.le_add_right _ _)⟩
  | get r' => exact held_ask h r'
  | invalidate r' =>
      rcases h with hold | ⟨e, w, he, hrest⟩
      · exact Or.inl hold
      · by_cases hr : r = r'
        · exact nomatch he.symm.trans (hi (decide_eq_true hr))
        · exact Or.inr ⟨e, w, (put_find?_of_ne v none hr).trans he, hrest⟩
  | invalidateAll =>
      rcases h with hold | ⟨e, w, he, hrest⟩
      · exact Or.inl hold
      · exact nomatch he.symm.trans (hi rfl)
  | purge =>
      rcases h with hold | ⟨e, w, he, hw, hle, hpast⟩
      · exact Or.inl hold
      · cases hx : e.isExpired v.now config.expire with
        | true =>
            have hspan := CacheEntry.span_le_of_isExpired hw hx
            refine Or.inl ?_
            show written + config.span ≤ v.now
            omega
        | false =>
            refine Or.inr ⟨e, w, ?_, hw, hle, hpast⟩
            show (v.find? r).filter _ = _
            rw [he, Option.filter_some, hx]
            rfl
  | land load how =>
      show (v.finish load how).Held config r written
      rcases v.running_or_not load with ⟨f, hf, hr⟩ | hn
      · rw [finish_of_running hf hr]
        rcases h with hold | ⟨e, w, he, hw, hle, hpast⟩
        · exact Or.inl hold
        · by_cases hreq : r = f.ticket.request
          · subst hreq
            obtain ⟨e', he', hw'⟩ := how.written_of_leaves v.now f.ticket hw
            refine Or.inr ⟨e', ?_⟩
            rw [put_find?_self, he, Option.bind_some, he']
            rcases hw' with hw' | hw'
            · exact ⟨w, rfl, hw', hle, hpast⟩
            · exact ⟨v.now, rfl, hw', Nat.le_trans hle hpast, Nat.le_refl _⟩
          · exact Or.inr ⟨e, w, (put_find?_of_ne _ _ hreq).trans he, hw, hle, hpast⟩
      · rw [finish_of_not_running hn]
        exact h

/-! ## Loads that are started -/

/-- A load that is started by asking is one of the request, starts now, and finds no value that needs
    no load. -/
theorem begun_ask {f : Flight} (hnew : v.flight? load = none)
    (hf : (v.ask config r).flight? load = some f) : f.ticket.request = r ∧ f.started = v.now ∧
      ∀ written, v.Held config r written → written + config.span ≤ v.now := by
  have hbegun : ∀ {g}, (v.begin r g).flight? load = some f →
      f.ticket.request = r ∧ f.started = v.now := by
    intro g hg
    rcases flights_begin hg with hold | ⟨-, rfl⟩
    · exact nomatch hnew.symm.trans hold
    · exact ⟨rfl, rfl⟩
  revert hf
  refine ask_cases (P := fun v' => v'.flight? load = some f → _) config v r ?_ ?_ ?_ ?_
  · intro hstale hf
    obtain ⟨hreq, hstarted⟩ := hbegun (g := v.generations) hf
    refine ⟨hreq, hstarted, ?_⟩
    rintro written (hold | ⟨e, w, he, hw, hle, hpast⟩)
    · exact hold
    · have hspan := CacheEntry.span_le_of_isExpired hw (hstale e he).1
      omega
  · intro e load' _ _ _ hf
    exact nomatch hnew.symm.trans hf
  · intro e he _ hn hf
    obtain ⟨hreq, hstarted⟩ := hbegun (g := e.generation) hf
    refine ⟨hreq, hstarted, ?_⟩
    rintro written (hold | ⟨e', w, he', hw, hle, hpast⟩)
    · exact hold
    · cases Option.some.inj (he.symm.trans he')
      have hspan := CacheEntry.span_le_of_needsRefresh hw hn
      omega
  · intro e _ _ _ hf
    exact nomatch hnew.symm.trans hf

end CacheView

namespace History

variable {config : CacheConfig} {h : History} {ev : CacheEvent} {r : Request} {f : Flight}
  {load written : Nat}

/-- An event drops the entry of a request: it is invalidated, or room is made. -/
def Drops (h : History) (ev : CacheEvent) (r : Request) : Prop :=
  match ev with
  | .get r' => (h.ask r').cache.find? r ≠ none ∧ (h.get r').cache.find? r = none
  | ev => ev.invalidates r = true ∧ h.cache.find? r ≠ none

/-- None of some events drops the entry of a request. -/
def Spares (h : History) (r : Request) : List CacheEvent → Prop
  | [] => True
  | ev :: rest => ¬ h.Drops ev r ∧ (h.step ev).Spares r rest

instance (h : History) (ev : CacheEvent) (r : Request) : Decidable (h.Drops ev r) :=
  match ev with
  | .get r' => inferInstanceAs
      (Decidable ((h.ask r').cache.find? r ≠ none ∧ (h.get r').cache.find? r = none))
  | .pass _ | .invalidate _ | .invalidateAll | .purge | .land _ _ => inferInstanceAs
      (Decidable (_ = true ∧ h.cache.find? r ≠ none))

instance decidableSpares :
    (h : History) → (r : Request) → (events : List CacheEvent) → Decidable (h.Spares r events)
  | _, _, [] => .isTrue trivial
  | h, r, ev :: rest =>
    have := decidableSpares (h.step ev) r rest
    inferInstanceAs (Decidable (¬ h.Drops ev r ∧ (h.step ev).Spares r rest))

/-- An event that does not drop the entry of a request leaves a value alone that needs no load. -/
theorem held_step (hp : h.Proper config) (hheld : h.view.Held config r written)
    (hspared : ¬ h.Drops ev r) : (h.step ev).view.Held config r written := by
  cases ev with
  | get r' =>
      have hask : (h.ask r').view.Held config r written := by
        rw [hp.view_ask]
        exact CacheView.held_ask hheld r'
      rcases hask with hold | ⟨e, w, he, hrest⟩
      · exact Or.inl hold
      · refine Or.inr ⟨e, w, ?_, hrest⟩
        rcases Cache.find?_enforceCapacity (asked hp.orderly r').orderly.distinct with
          hsame | ⟨hnone, -⟩
        · exact hsame.trans he
        · exact absurd ⟨Option.ne_none_iff_exists'.mpr ⟨e, he⟩, hnone⟩ hspared
  | _ =>
      rw [view_step_of_room hp]
      · refine CacheView.held_next hheld fun hi => ?_
        exact Decidable.byContradiction fun hne => hspared ⟨hi, hne⟩
      · trivial

/-- **NOTHING BUT A GET STARTS A LOAD**, and it starts one of its own request at once, and only where
    there is no value that needs no load. -/
theorem begun_step (hp : h.Proper config) (hnew : h.flight? load = none)
    (hf : (h.step ev).flight? load = some f) : ev = .get f.ticket.request ∧ f.started = h.now ∧
      ∀ written, h.view.Held config f.ticket.request written →
        written + config.span ≤ f.started := by
  cases ev with
  | get r =>
      have hask : (h.view.ask config r).flight? load = some f := by
        rw [← hp.view_ask]
        exact hf
      obtain ⟨hreq, hstarted, hheld⟩ := CacheView.begun_ask (v := h.view) hnew hask
      rw [hreq, hstarted]
      exact ⟨rfl, rfl, hheld⟩
  | land load' how =>
      rcases h.running_or_not load' with ⟨f', hf', hr⟩ | hn
      · have hland : (h.view.land load' f' how).flight? load = some f := by
          have hf := hf
          rw [show h.step (.land load' how) = h.land load' how from rfl,
            land_of_running how hf' hr] at hf
          exact hf
        rcases CacheView.flights_land hland with ⟨-, hold⟩ | ⟨rfl, -⟩
        · exact nomatch hnew.symm.trans hold
        · exact nomatch hnew.symm.trans hf'
      · rw [show h.step (.land load' how) = h.land load' how from rfl,
          land_of_not_running how hn] at hf
        exact nomatch hnew.symm.trans hf
  | _ => exact nomatch hnew.symm.trans hf

/-- While a value needs no load, and its entry is not dropped, no load is started. -/
theorem started_of_held (hp : h.Proper config) {events : List CacheEvent}
    (hheld : h.view.Held config f.ticket.request written)
    (hspared : h.Spares f.ticket.request events) (hnew : h.flight? load = none)
    (hf : (h.steps events).flight? load = some f) : written + config.span ≤ f.started := by
  induction events generalizing h with
  | nil => exact nomatch hnew.symm.trans hf
  | cons ev rest ih =>
      cases hev : (h.step ev).flight? load with
      | none => exact ih (hp.step ev) (held_step hp hheld hspared.1) hspared.2 hev hf
      | some f₀ =>
          -- the load was started here, and is still the same
          obtain ⟨f₁, hf₁, hticket, hstarted, -⟩ := flown_steps (hp.step ev).orderly rest hev
          cases Option.some.inj (hf.symm.trans hf₁)
          rw [hticket] at hheld
          rw [hstarted]
          exact (begun_step hp hnew hev).2.2 _ hheld

/-- **NO REDUNDANT LOADS.**  If a load writes its response to the cache, then while the entry is not
    dropped no load of its request is started before the value has expired or is old enough to be
    refreshed; and every load is started by a get of its request, when that happens. -/
theorem no_redundant_loads (config : CacheConfig) (events : List CacheEvent) (h : History)
    (hh : h = run config events) :
    (∀ load f e response length, h.flight? load = some f → f.landing = none →
      h.cache.find? f.ticket.request = some e → e.generation = f.ticket.generation →
      ∀ h', h' = h.step (.land load (.gave (.ok response) length)) →
      ∀ later, h'.Spares f.ticket.request later →
      ∀ next f', h'.flight? next = none → (h'.steps later).flight? next = some f' →
        f'.ticket.request = f.ticket.request → h.now + config.span ≤ f'.started) ∧
    ∀ ev load f, h.flight? load = none → (h.step ev).flight? load = some f →
      ev = .get f.ticket.request ∧ f.started = h.now := by
  have hp : h.Proper config := hh ▸ proper_run config events
  constructor
  · intro load f e response length hf hr he hg h' hh' later hspared next f' hnew hf' hreq
    have hheld : h'.view.Held config f'.ticket.request h.now := by
      rw [hh', view_step_of_room hp (.land load _) trivial, hreq]
      refine Or.inr ⟨{ e with load := f.ticket.load, writtenAt := some h.now, refresh := none },
        h.now, ?_, rfl, Nat.le_refl _, ?_⟩
      · show (h.view.finish load _).find? _ = _
        rw [CacheView.finish_of_running (v := h.view) hf hr, CacheView.put_find?_self]
        rw [show h.view.find? f.ticket.request = some e from he, Option.bind_some]
        exact LoadEnd.leaves_of_ok hg response length
      · show h.now ≤ (h.view.finish load _).now
        rw [CacheView.finish_of_running (v := h.view) hf hr]
        exact Nat.le_refl _
    rw [← hreq] at hspared
    exact started_of_held (hh' ▸ hp.step _) hheld hspared hnew hf'
  · intro ev load f hnew hf
    obtain ⟨hev, hstarted, -⟩ := begun_step hp hnew hf
    exact ⟨hev, hstarted⟩

/-- A value is served for ten milliseconds; then the next load starts, and not a nanosecond before. -/
theorem no_redundant_loads_of_refreshed :
    let config : CacheConfig := ⟨30, some 10, 1, false, 60000⟩
    let h := (run config [.get default]).step (.land 0 (.gave (.ok default) ⟨0⟩))
    let later := [.pass 9999999, .get default, .pass 1, .get default]
    (h.steps (later.take 3)).flight? 1 = none ∧
      ∃ f, (h.steps later).flight? 1 = some f ∧ f.started = 0 + config.span := by
  have hstarted := (no_redundant_loads ⟨30, some 10, 1, false, 60000⟩ [.get default] _ rfl).1
    0 ⟨⟨0, default, 0⟩, 0, none⟩ (.loading 0 0 0) default ⟨0⟩ rfl rfl rfl rfl _ rfl
    [.pass 9999999, .get default, .pass 1, .get default] (by decide) 1
    ⟨⟨1, default, 0⟩, 10000000, none⟩ rfl rfl rfl
  exact ⟨rfl, _, rfl, Nat.le_antisymm (by decide) hstarted⟩

end History

end Courier
