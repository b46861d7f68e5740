import Courier.Proofs.Cache.Room
import Courier.Proofs.Cache.ReadOrder

/-!
# Cleanup — nobody notices

A cleanup drops the entries whose value has expired and which no load is running for.  Whoever asks
for such a request gets the next load, as if there were no entry, and no load that ends finds its
generation in one.  So a cleanup commutes with every event (`sweep_next`), up to another cleanup
afterwards; and two runs that differ in their cleanups only are the same after a cleanup
(`sweep_steps`).  Both have to be runs for which no room has to be made: with an expired entry in the
way, a cache that is full drops one that is still good (`cleanup_makes_room`).
-/

namespace Courier

namespace CacheEntry

/-- Whether an entry survives a cleanup: its value has not expired, or it is being refreshed. -/
def lasts (config : CacheConfig) (now : Nat) (e : CacheEntry) : Bool :=
  !(e.isExpired now config.expire && e.refresh.isNone)

variable {config : CacheConfig} {e : CacheEntry} {now now' : Nat}

theorem lasts_of_live (hx : e.isExpired now config.expire = false) : e.lasts config now = true := by
  rw [lasts, hx]
  rfl

/-- What does not survive a cleanup has expired and is not being refreshed. -/
theorem stale_of_not_lasts (h : e.lasts config now = false) :
    e.isExpired now config.expire = true ∧ e.refresh = none := by
  rw [lasts, Bool.not_eq_eq_eq_not, Bool.not_false, Bool.and_eq_true, Option.isNone_iff_eq_none] at h
  exact h

/-- What survives a cleanup would have survived an earlier one. -/
theorem lasts_of_later (hn : now ≤ now') (h : e.lasts config now' = true) :
    e.lasts config now = true := by
  cases hl : e.lasts config now with
  | true => rfl
  | false =>
      obtain ⟨hx, hr⟩ := stale_of_not_lasts hl
      rw [lasts, isExpired_mono hn hx, hr] at h
      exact nomatch h

end CacheEntry

namespace CacheView

variable {config : CacheConfig} {ev : CacheEvent} {v w : CacheView} {r : Request}
  {e : CacheEntry} {load : Nat}

/-! ## What a cleanup leaves -/

theorem sweep_find? (config : CacheConfig) (v : CacheView) (r : Request) :
    (v.sweep config).find? r = (v.find? r).filter (·.lasts config v.now) := rfl

/-- An entry that survives is there after a cleanup, and no other. -/
theorem sweep_find?_of_lasts (he : v.find? r = some e) (hl : e.lasts config v.now = true) :
    (v.sweep config).find? r = some e := by
  rw [sweep_find?, he, Option.filter_some, if_pos hl]

theorem sweep_find?_of_stale (he : v.find? r = some e) (hl : e.lasts config v.now = false) :
    (v.sweep config).find? r = none := by
  rw [sweep_find?, he, Option.filter_some, if_neg (ne_true_of_eq_false hl)]

theorem sweep_find?_of_none (he : v.find? r = none) : (v.sweep config).find? r = none := by
  rw [sweep_find?, he]
  rfl

/-- A second cleanup finds nothing to drop. -/
theorem sweep_sweep (config : CacheConfig) (v : CacheView) :
    (v.sweep config).sweep config = v.sweep config := by
  refine eq_of_parts rfl rfl rfl fun r => ?_
  cases hs : (v.sweep config).find? r with
  | none => exact sweep_find?_of_none hs
  | some e => exact sweep_find?_of_lasts hs (Option.filter_eq_some_iff.mp hs).2

/-- Views whose entries are the same after a cleanup, but for one request, are the same after a cleanup
    if that has entries which are. -/
theorem sweep_put {x y : Option CacheEntry}
    (h : x.filter (·.lasts config v.now) = y.filter (·.lasts config v.now)) :
    (v.put r x).sweep config = ((v.sweep config).put r y).sweep config := by
  refine eq_of_parts rfl rfl rfl fun r' => ?_
  rw [sweep_find?, sweep_find?]
  by_cases hr : r' = r
  · rw [hr, put_find?_self, put_find?_self]
    exact h
  · rw [put_find?_of_ne _ _ hr, put_find?_of_ne _ _ hr]
    exact (congrFun (congrArg CacheView.find? (sweep_sweep config v)) r').symm

/-! ## A cleanup commutes with every event -/

/-- Asking for a request whose entry would not survive is asking for one that has none. -/
theorem sweep_ask (config : CacheConfig) (v : CacheView) (r : Request) :
    (v.ask config r).sweep config = ((v.sweep config).ask config r).sweep config := by
  have hrenew : (v.renew r).sweep config = ((v.sweep config).renew r).sweep config :=
    sweep_put (v := { v.begin r v.generations with generations := v.generations + 1 }) rfl
  cases he : v.find? r with
  | none => rw [ask_of_none he, ask_of_none (sweep_find?_of_none he), hrenew]
  | some e =>
      cases hl : e.lasts config v.now with
      | false =>
          obtain ⟨hx, hr⟩ := CacheEntry.stale_of_not_lasts hl
          rw [ask_of_stale he hx hr, ask_of_none (sweep_find?_of_stale he hl), hrenew]
      | true =>
          have he' := sweep_find?_of_lasts he hl
          cases hx : e.isExpired v.now config.expire with
          | true =>
              cases hr : e.refresh with
              | none => exact absurd hl (by rw [CacheEntry.lasts, hx, hr]; exact Bool.false_ne_true)
              | some load =>
                  rw [ask_of_joined he hx hr, ask_of_joined he' hx hr]
                  exact sweep_put rfl
          | false =>
              cases hn : e.needsRefresh v.now config.refresh with
              | true =>
                  rw [ask_of_refreshed he hx hn, ask_of_refreshed he' hx hn]
                  exact sweep_put (v := v.begin r e.generation) rfl
              | false =>
                  rw [ask_of_live he hx hn, ask_of_live he' hx hn]
                  exact sweep_put rfl

/-- A load that ends finds its generation in no entry that would not survive. -/
theorem sweep_finish (hs : v.Sound) (config : CacheConfig) (load : Nat) (how : LoadEnd) :
    (v.finish load how).sweep config
      = ((v.sweep config).finish load how).sweep config := by
  rcases v.running_or_not load with ⟨f, hf, hr⟩ | hn
  · rw [finish_of_running hf hr, finish_of_running (v := v.sweep config) hf hr]
    refine sweep_put (v := v.land load f how) ?_
    cases he : v.find? f.ticket.request with
    | none => rw [sweep_find?_of_none he]; rfl
    | some e =>
        cases hl : e.lasts config v.now with
        | true => rw [sweep_find?_of_lasts he hl]; rfl
        | false =>
            obtain ⟨hx, hnone⟩ := CacheEntry.stale_of_not_lasts hl
            have hg : e.generation ≠ f.ticket.generation := by
              intro hg
              exact (hs.tracks _ e he).idle (CacheEntry.idle_of_isExpired hx hnone) hf ⟨rfl, hg.symm⟩ hr
            rw [sweep_find?_of_stale he hl, Option.bind_some, LoadEnd.leaves_of_ne how hg]
            exact (Option.filter_some.trans (if_neg (ne_true_of_eq_false hl)))
  · rw [finish_of_not_running hn, finish_of_not_running (v := v.sweep config) hn, sweep_sweep]

/-- **A CLEANUP COMMUTES WITH EVERY EVENT**, up to a cleanup afterwards. -/
theorem sweep_next (hs : v.Sound) (config : CacheConfig) (ev : CacheEvent) :
    (v.next config ev).sweep config = ((v.sweep config).next config ev).sweep config := by
  cases ev with
  | pass nanos =>
      refine eq_of_parts rfl rfl rfl fun r => ?_
      show (v.find? r).filter (·.lasts config (v.now + nanos))
        = ((v.find? r).filter (·.lasts config v.now)).filter (·.lasts config (v.now + nanos))
      rw [Option.filter_filter]
      refine congrArg (fun p => (v.find? r).filter p) (funext fun e => ?_)
      cases hl : e.lasts config (v.now + nanos) with
      | false => exact (Bool.and_false _).symm
      | true => rw [CacheEntry.lasts_of_later (Nat.le_add_right _ _) hl]; rfl
  | get r => exact sweep_ask config v r
  | invalidate r => exact sweep_put rfl
  | invalidateAll => rfl
  | purge => exact congrArg (sweep config) (sweep_sweep config v).symm
  | land load how => exact sweep_finish hs config load how

/-! ## What is the same after a cleanup -/

theorem answer_sweep (config : CacheConfig) (v : CacheView) (r : Request) :
    (v.sweep config).answer config r = v.answer config r := by
  cases he : v.find? r with
  | none => rw [answer_of_none he, answer_of_none (sweep_find?_of_none he)]; rfl
  | some e =>
      cases hl : e.lasts config v.now with
      | true =>
          rw [answer, answer, he, sweep_find?_of_lasts he hl]
          rfl
      | false =>
          obtain ⟨hx, hr⟩ := CacheEntry.stale_of_not_lasts hl
          rw [answer_of_expired he hx, hr, answer_of_none (sweep_find?_of_stale he hl)]
          rfl

theorem isHit_sweep (config : CacheConfig) (v : CacheView) (r : Request) :
    (v.sweep config).isHit config r = v.isHit config r := by
  cases he : v.find? r with
  | none => rw [isHit, isHit, he, sweep_find?_of_none he]; rfl
  | some e =>
      cases hl : e.lasts config v.now with
      | true =>
          rw [isHit, isHit, he, sweep_find?_of_lasts he hl]
          rfl
      | false =>
          obtain ⟨hx, hr⟩ := CacheEntry.stale_of_not_lasts hl
          rw [isHit, isHit, he, sweep_find?_of_stale he hl, Option.any_some, hx]
          rfl

/-! ## More cleanups leave more room -/

/-- Every request that has an entry in the second view has one in the first. -/
def Covers (v w : CacheView) : Prop :=
  ∀ r, v.find? r = none → w.find? r = none

/-- A load that ends leaves nothing of a smaller view if it leaves nothing of a larger one. -/
theorem bind_leaves_of_covers {how : LoadEnd} {t : Ticket} {now : Nat} (hc : v.Covers w)
    (hsame : (v.sweep config).find? r = (w.sweep config).find? r)
    (h : (v.find? r).bind (how.leaves now t) = none) :
    (w.find? r).bind (how.leaves now t) = none := by
  cases he : v.find? r with
  | none => rw [hc r he]; rfl
  | some e =>
      rw [he, Option.bind_some] at h
      cases hw : e.writtenAt with
      | some w =>
          obtain ⟨e', he', -⟩ := how.written_of_leaves now t hw
          exact nomatch h.symm.trans he'
      | none =>
          -- an entry without a value survives, so the two views share it
          have hx : e.isExpired v.now config.expire = false := CacheEntry.isExpired_of_unwritten hw
          rw [sweep_find?_of_lasts he (CacheEntry.lasts_of_live hx)] at hsame
          rw [Option.eq_some_of_filter_eq_some hsame.symm, Option.bind_some, h]

theorem covers_next (hc : v.Covers w) (hsame : v.sweep config = w.sweep config)
    (ev : CacheEvent) : (v.next config ev).Covers (w.next config ev) := by
  intro r h
  have hfind : (v.sweep config).find? r = (w.sweep config).find? r :=
    congrFun (congrArg CacheView.find? hsame) r
  cases ev with
  | pass nanos => exact hc r h
  | get r' =>
      by_cases hr : r = r'
      · obtain ⟨e, he, -⟩ := find?_ask config v r'
        rw [hr] at h
        exact nomatch he.symm.trans h
      · exact (find?_ask_of_ne config w hr).trans (hc r ((find?_ask_of_ne config v hr).symm.trans h))
  | invalidate r' =>
      by_cases hr : r = r'
      · exact if_pos hr
      · exact (put_find?_of_ne w none hr).trans (hc r ((put_find?_of_ne v none hr).symm.trans h))
  | invalidateAll => rfl
  | purge => exact hfind.symm.trans h
  | land load how =>
      have hflight : w.flight? load = v.flight? load :=
        flight?_congr (congrArg CacheView.flights hsame).symm load
      rcases v.running_or_not load with ⟨f, hf, hr⟩ | hn
      · have hnow : (v.sweep config).now = (w.sweep config).now := congrArg _ hsame
        have hv := finish_of_running hf hr how
        have hw := finish_of_running (hflight.trans hf) hr how
        show (w.finish load how).find? r = none
        have h' : (v.finish load how).find? r = none := h
        rw [hv] at h'
        rw [hw]
        by_cases hreq : r = f.ticket.request
        · subst hreq
          rw [put_find?_self] at h' ⊢
          rw [show w.now = v.now from hnow.symm]
          exact bind_leaves_of_covers hc hfind h'
        · rw [put_find?_of_ne _ _ hreq] at h' ⊢
          exact hc r h'
      · show (w.finish load how).find? r = none
        rw [finish_of_not_running (hflight ▸ hn)]
        have h' : (v.finish load how).find? r = none := h
        rw [finish_of_not_running hn] at h'
        exact hc r h'

/-- Lets events happen with a cleanup after every one. -/
def tidy (config : CacheConfig) (v : CacheView) (events : List CacheEvent) : CacheView :=
  events.foldl (fun v ev => (v.next config ev).sweep config) v

theorem tidy_cons (config : CacheConfig) (v : CacheView) (ev : CacheEvent)
    (rest : List CacheEvent) : v.tidy config (ev :: rest)
      = ((v.next config ev).sweep config).tidy config rest := rfl

end CacheView

/-! ## Runs that differ in their cleanups -/

namespace CacheEvent

/-- Whether an event is a cleanup. -/
def isPurge : CacheEvent → Bool
  | .purge => true
  | _ => false

/-- The events that are no cleanups. -/
def uncleaned (events : List CacheEvent) : List CacheEvent :=
  events.filter fun ev => !ev.isPurge

theorem uncleaned_purge (rest : List CacheEvent) : uncleaned (.purge :: rest) = uncleaned rest :=
  rfl

theorem uncleaned_cons {ev : CacheEvent} (h : ev ≠ .purge) (rest : List CacheEvent) :
    uncleaned (ev :: rest) = ev :: uncleaned rest := by
  cases ev with
  | purge => exact absurd rfl h
  | _ => rfl

end CacheEvent

namespace History

variable {config : CacheConfig} {h h' : History} {events events' : List CacheEvent}

/-- **AFTER A CLEANUP IT IS AS IF ONE HAD COME AFTER EVERY EVENT**, whenever they came in fact. -/
theorem sweep_steps (hp : h.Proper config) (hroom : h.Roomy events) :
    (h.steps events).view.sweep config
      = (h.view.sweep config).tidy config (CacheEvent.uncleaned events) := by
  induction events generalizing h with
  | nil => rfl
  | cons ev rest ih =>
      have hview := view_step_of_room hp ev hroom.1
      rw [steps_cons, ih (hp.step ev) hroom.2, hview]
      by_cases hpurge : ev = .purge
      · rw [hpurge, CacheEvent.uncleaned_purge]
        exact congrArg (fun v => v.tidy config (CacheEvent.uncleaned rest))
          (CacheView.sweep_sweep config h.view)
      · rw [CacheEvent.uncleaned_cons hpurge, CacheView.tidy_cons,
          CacheView.sweep_next hp.sound config ev]

/-- Two histories that nobody who asks can tell apart: they have the same loads, with the same ends,
    and the same entries but for those that the next cleanup drops. -/
structure Agrees (h h' : History) : Prop where
  now : h'.now = h.now
  flights : h'.flights = h.flights
  answer : ∀ r, h'.answer r = h.answer r
  hit : ∀ r, h'.isHit r = h.isHit r
  result : ∀ load, h'.result? load = h.result? load
  entry : ∀ r e, h.cache.isStale h.now e = false →
    (h'.cache.find? r = some e ↔ h.cache.find? r = some e)

/-- Histories agree that are the same after a cleanup. -/
theorem agrees_of_sweep (hp : h.Proper config) (hp' : h'.Proper config)
    (hsame : h'.view.sweep config = h.view.sweep config) : h.Agrees h' := by
  have hflights : h'.flights = h.flights := congrArg CacheView.flights hsame
  have hnow : h'.now = h.now := congrArg CacheView.now hsame
  refine ⟨hnow, hflights, ?_, ?_, ?_, ?_⟩
  · intro r
    rw [hp.answer, hp'.answer, ← CacheView.answer_sweep, hsame, CacheView.answer_sweep]
  · intro r
    rw [isHit, isHit, hp.config, hp'.config, ← CacheView.isHit_sweep, hsame,
      CacheView.isHit_sweep]
  · intro load
    rw [result?, result?, flight?, flight?, hflights]
  · intro r e hstale
    have hl : e.lasts config h.now = true := by
      rw [CacheEntry.lasts, ← hp.config]
      exact congrArg Bool.not hstale
    have hfind : ∀ {k : History}, k.now = h.now →
        (k.cache.find? r = some e ↔ (k.view.sweep config).find? r = some e) := by
      intro k hk
      have hlk : e.lasts config k.view.now = true := (congrArg (e.lasts config) hk).trans hl
      exact ⟨fun he => CacheView.sweep_find?_of_lasts he hlk, Option.eq_some_of_filter_eq_some⟩
    rw [hfind hnow, hfind rfl, hsame]

/-- A get needs no room if it needs none where there are more entries. -/
theorem hasRoom_of_covers (hp : h.Proper config) (hp' : h'.Proper config)
    (hc : h.view.Covers h'.view) (hsame : h.view.sweep config = h'.view.sweep config)
    {ev : CacheEvent} (hroom : h.HasRoom ev) : h'.HasRoom ev := by
  cases ev with
  | get r =>
      have hcovers := CacheView.covers_next hc hsame (.get r)
      have hsize : (h'.ask r).cache.size ≤ (h.ask r).cache.size := by
        refine Cache.size_le_of_find? (asked hp'.orderly r).orderly.distinct fun r' hne hnone => ?_
        have hview : (h.view.ask config r).find? r' = none := by
          rw [← hp.view_ask]
          exact hnone
        have hview' : (h'.ask r).view.find? r' = none := by
          rw [hp'.view_ask]
          exact hcovers r' hview
        exact hne hview'
      have hmax : h'.cache.config.maximumSize = h.cache.config.maximumSize := by
        rw [hp.config, hp'.config]
      exact Nat.le_trans hsize (Nat.le_trans hroom (Nat.le_of_eq hmax.symm))
  | _ => trivial

/-- Where cleanups are put in, there is as much room as there was before. -/
theorem roomy_of_sublist (hp : h.Proper config) (hp' : h'.Proper config)
    (hc : h.view.Covers h'.view) (hsame : h.view.sweep config = h'.view.sweep config)
    (hsub : events.Sublist events')
    (hevents : CacheEvent.uncleaned events = CacheEvent.uncleaned events')
    (hroom : h.Roomy events) : h'.Roomy events' := by
  induction hsub generalizing h h' with
  | slnil => trivial
  | @cons rest rest' ev hrest ih =>
      by_cases hpurge : ev = .purge
      · subst hpurge
        have hview := view_step_of_room hp' .purge trivial
        refine ⟨trivial, ih hp (hp'.step .purge) ?_ ?_ hevents hroom⟩
        · intro r hnone
          rw [hview]
          exact CacheView.sweep_find?_of_none (hc r hnone)
        · rw [hview, hsame]
          exact (CacheView.sweep_sweep config h'.view).symm
      · -- what is put in is a cleanup
        have hlen := (hrest.filter fun ev => !ev.isPurge).length_le
        rw [CacheEvent.uncleaned_cons hpurge] at hevents
        have heq := congrArg List.length hevents
        rw [List.length_cons] at heq
        exact absurd (Nat.le_trans (Nat.le_of_eq heq.symm) hlen) (Nat.not_succ_le_self _)
  | @cons_cons rest rest' ev hrest ih =>
      have hroom' := hasRoom_of_covers hp hp' hc hsame hroom.1
      have hview := view_step_of_room hp ev hroom.1
      have hview' := view_step_of_room hp' ev hroom'
      refine ⟨hroom', ih (hp.step ev) (hp'.step ev) ?_ ?_ ?_ hroom.2⟩
      · rw [hview, hview']
        exact CacheView.covers_next hc hsame ev
      · rw [hview, hview', CacheView.sweep_next hp.sound, hsame, CacheView.sweep_next hp'.sound]
      · by_cases hpurge : ev = .purge
        · rw [hpurge] at hevents
          exact hevents
        · rw [CacheEvent.uncleaned_cons hpurge, CacheEvent.uncleaned_cons hpurge] at hevents
          exact List.tail_eq_of_cons_eq hevents

/-- **CLEANUP IS TRANSPARENT.**  Take two runs that differ in their cleanups only, the first of which
    has room.  If the second has more cleanups, or has room as well, then nobody can tell the two
    apart: whenever the same events but for the cleanups have happened, they agree. -/
theorem cleanup_transparent (config : CacheConfig) (events events' : List CacheEvent)
    (hevents : CacheEvent.uncleaned events = CacheEvent.uncleaned events')
    (hroom : (start config).Roomy events)
    (hmore : events.Sublist events' ∨ (start config).Roomy events') :
    ∀ before before', before <+: events → before' <+: events' →
      CacheEvent.uncleaned before = CacheEvent.uncleaned before' →
      (run config before).Agrees (run config before') := by
  have hp := proper_start config
  have hroom' : (start config).Roomy events' :=
    hmore.elim (fun hsub => roomy_of_sublist hp hp (fun _ h => h) rfl hsub hevents hroom) id
  rintro before before' ⟨after, rfl⟩ ⟨after', rfl⟩ hsame
  refine agrees_of_sweep (proper_run config before) (proper_run config before') ?_
  rw [run, run, sweep_steps hp (roomy_append.mp hroom).1, sweep_steps hp (roomy_append.mp hroom').1,
    hsame]

/-- A cleanup comes while an expired value is being refreshed, and leaves it alone: the next caller gets
    the refresh, as without the cleanup. -/
theorem cleanup_transparent_to_refresh :
    let config : CacheConfig := ⟨30, some 10, 1, true, 60000⟩
    let before := [.get default, .land 0 (.gave (.ok default) ⟨0⟩), .pass 15000000, .get default,
      .pass 15000000]
    (run config (before ++ [.purge, .get default])).view.find? default
        = (run config (before ++ [.get default])).view.find? default ∧
      (run config before).Agrees (run config (before ++ [.purge])) := by
  have htransparent := cleanup_transparent ⟨30, some 10, 1, true, 60000⟩
    [.get default, .land 0 (.gave (.ok default) ⟨0⟩), .pass 15000000, .get default,
      .pass 15000000, .get default]
    [.get default, .land 0 (.gave (.ok default) ⟨0⟩), .pass 15000000, .get default,
      .pass 15000000, .purge, .get default] rfl (by decide) (Or.inr (by decide))
  constructor
  · rfl
  · exact htransparent _ _ ⟨[.get default], rfl⟩ ⟨[.get default], rfl⟩ rfl

/-- The value of one request has expired, and there is room for two: with a cleanup the third request
    takes the place of the first, and without it the place of the second, whose value was good. -/
theorem cleanup_makes_room :
    let config : CacheConfig := ⟨10, none, 2, true, 60000⟩
    let a : Request := default
    let b : Request := { a with maxRetries := 1 }
    let c : Request := { a with maxRetries := 2 }
    let before := [.get a, .land 0 (.gave (.ok default) ⟨0⟩), .pass 5000000, .get b,
      .land 1 (.gave (.ok default) ⟨0⟩), .pass 4000000, .get a, .pass 1000000]
    let h := run config (before ++ [.purge, .get c])
    let h' := run config (before ++ [.get c])
    (start config).Roomy (before ++ [.purge, .get c, .get b]) ∧
      CacheEvent.uncleaned (before ++ [.purge, .get c])
        = CacheEvent.uncleaned (before ++ [.get c]) ∧
      h.isHit b = true ∧ h'.isHit b = false ∧ h.answer b = 1 ∧ h'.answer b = 3 := by
  refine ⟨by decide, rfl, by decide, by decide, by decide, by decide⟩

end History

end Courier
