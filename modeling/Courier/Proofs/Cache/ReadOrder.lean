import Courier.Proofs.Cache.Answers

/-!
# Read order — nobody reads backwards

The load that a request is answered with only ever moves on to later loads (`answer_move`): a value
is replaced by the refresh that was started after it, an expired entry waits for its refresh or for
the next load, and an entry that is gone can only be loaded anew.  After an invalidation the answer
is a load that is yet to be started, and the loads from before write nothing any more, since the
request has left their generations behind.
-/

namespace Courier

namespace CacheEntry

variable {e : CacheEntry} {now now' : Nat} {life : Duration}

/-- What has expired stays expired. -/
theorem isExpired_mono (hn : now ≤ now') (hx : e.isExpired now life = true) :
    e.isExpired now' life = true := by
  obtain ⟨w, hw⟩ := written_of_isExpired hx
  rw [isExpired_of_written hw] at hx ⊢
  have hold := of_decide_eq_true hx
  exact decide_eq_true (Nat.le_trans hold (Nat.sub_le_sub_right hn w))

end CacheEntry

namespace CacheView

variable {config : CacheConfig} {ev : CacheEvent} {v w : CacheView} {r : Request}
  {e : CacheEntry} {load : Nat}

/-! ## The answer moves on -/

/-- A request whose entry stays, or goes, is answered no earlier than before. -/
theorem answer_le_of_find? (hs : v.Sound) (hfind : w.find? r = v.find? r ∨ w.find? r = none)
    (hn : v.now ≤ w.now) (hlen : v.flights.length ≤ w.flights.length) :
    v.answer config r ≤ w.answer config r := by
  have hnone : w.find? r = none → v.answer config r ≤ w.answer config r := by
    intro he
    rw [answer_of_none he]
    exact Nat.le_trans (answer_le hs config r) hlen
  rcases hfind with hsame | he
  · cases he : v.find? r with
    | none => exact hnone (hsame.trans he)
    | some e =>
        have he' := hsame.trans he
        have ht := hs.tracks r e he
        cases hx : e.isExpired v.now config.expire with
        | true =>
            rw [answer_of_expired he hx, answer_of_expired he' (CacheEntry.isExpired_mono hn hx)]
            cases e.refresh with
            | none => exact hlen
            | some load => exact Nat.le_refl _
        | false =>
            rw [answer_of_live he hx]
            cases hx' : e.isExpired w.now config.expire with
            | false => exact Nat.le_of_eq (answer_of_live he' hx').symm
            | true =>
                -- the value expired meanwhile
                rw [answer_of_expired he' hx']
                cases hr : e.refresh with
                | none =>
                    obtain ⟨f, hf, -⟩ := ht.load
                    have hlt := (List.getElem?_eq_some_iff.mp hf).1
                    exact Nat.le_trans (Nat.le_of_lt hlt) hlen
                | some load => exact (ht.refresh load hr).1
  · exact hnone he

/-- A request is answered with the load its entry waits for, or an earlier one. -/
theorem answer_le_awaited (hs : v.Sound) (he : v.find? r = some e)
    (ha : e.awaited = some load) : v.answer config r ≤ load := by
  cases hw : e.writtenAt with
  | none =>
      rw [CacheEntry.awaited_of_unwritten hw] at ha
      rw [answer_of_live he (CacheEntry.isExpired_of_unwritten hw)]
      exact Nat.le_of_eq (Option.some.inj ha)
  | some t =>
      rw [CacheEntry.awaited_of_written hw] at ha
      cases hx : e.isExpired v.now config.expire with
      | true =>
          rw [answer_of_expired he hx, ha]
          exact Nat.le_refl _
      | false =>
          rw [answer_of_live he hx]
          exact ((hs.tracks r e he).refresh load ha).1

/-- The entry of another request may change. -/
theorem answer_le_put (hs : v.Sound) {u : CacheView} {r' : Request} {x : Option CacheEntry}
    (hne : r ≠ r') (hu : u.find? = v.find?) (hn : v.now ≤ u.now)
    (hlen : v.flights.length ≤ u.flights.length) :
    v.answer config r ≤ (u.put r' x).answer config r := by
  refine answer_le_of_find? hs (Or.inl ?_) hn hlen
  rw [put_find?_of_ne _ _ hne, hu]

theorem answer_put (x : CacheEntry) : (v.put r (some x)).answer config r =
    if x.isExpired v.now config.expire then x.refresh.getD v.flights.length else x.load := by
  rw [answer, put_find?_self]
  rfl

/-- **NO MOVE TAKES AN ANSWER BACK** to an earlier load. -/
theorem answer_move (hm : Move config ev v w) (hs : v.Sound) :
    v.answer config r ≤ w.answer config r := by
  have hlen := length_move hm
  cases hm with
  | pass v nanos => exact answer_le_of_find? hs (Or.inl rfl) (Nat.le_add_right _ _) hlen
  | @start _ r' h =>
      by_cases hreq : r = r'
      · subst hreq
        rw [answer_put]
        exact answer_le hs config r
      · exact answer_le_put hs hreq rfl (Nat.le_refl _) hlen
  | @join _ r' e load he hx hr =>
      by_cases hreq : r = r'
      · subst hreq
        rw [answer_of_expired he hx, hr, answer_put]
        exact Nat.le_refl _
      · exact answer_le_put hs hreq rfl (Nat.le_refl _) hlen
  | @refresh _ r' e he hx hn =>
      by_cases hreq : r = r'
      · subst hreq
        rw [answer_of_live he hx, answer_put]
        exact Nat.le_of_eq (if_neg (ne_true_of_eq_false hx)).symm
      · exact answer_le_put hs hreq rfl (Nat.le_refl _) hlen
  | @touch _ r' e he hx hn =>
      by_cases hreq : r = r'
      · subst hreq
        rw [answer_of_live he hx, answer_put]
        exact Nat.le_of_eq (if_neg (ne_true_of_eq_false hx)).symm
      · exact answer_le_put hs hreq rfl (Nat.le_refl _) hlen
  | evict r' h =>
      refine answer_le_of_find? hs ?_ (Nat.le_refl _) hlen
      exact (h r).imp id And.left
  | invalidate v r' =>
      refine answer_le_of_find? hs ?_ (Nat.le_refl _) hlen
      by_cases hreq : r = r'
      · exact Or.inr (if_pos hreq)
      · exact Or.inl (if_neg hreq)
  | invalidateAll v => exact answer_le_of_find? hs (Or.inr rfl) (Nat.le_refl _) hlen
  | purge v =>
      refine answer_le_of_find? hs ?_ (Nat.le_refl _) hlen
      show (v.find? r).filter _ = v.find? r ∨ (v.find? r).filter _ = none
      cases v.find? r with
      | none => exact Or.inl rfl
      | some e =>
          rw [Option.filter_some]
          split
          · exact Or.inl rfl
          · exact Or.inr rfl
  | die hf hr => exact answer_le_of_find? hs (Or.inl rfl) (Nat.le_refl _) hlen
  | supersede hf hr hg => exact answer_le_of_find? hs (Or.inl rfl) (Nat.le_refl _) hlen
  | @write _ load f e response length hf hr he hg =>
      by_cases hreq : r = f.ticket.request
      · subst hreq
        have ha := (hs.tracks _ e he).awaited load f hf hr ⟨rfl, hg.symm⟩
        rw [answer_put]
        split
        · -- nothing is served where values have no time to live
          exact Nat.le_trans (answer_le hs config _) hlen
        · refine Nat.le_trans (answer_le_awaited hs he ha) ?_
          exact Nat.le_of_eq (hs.logged.number load f hf).symm
      · exact answer_le_put hs hreq rfl (Nat.le_refl _) hlen
  | @keep _ load f e cause length hf hr he hg hw =>
      by_cases hreq : r = f.ticket.request
      · subst hreq
        cases hx : e.isExpired v.now config.expire with
        | true =>
            refine Nat.le_trans (answer_le hs config _) (Nat.le_trans hlen ?_)
            rw [answer_put]
            exact Nat.le_of_eq (if_pos hx).symm
        | false =>
            rw [answer_of_live he hx, answer_put]
            exact Nat.le_of_eq (if_neg (ne_true_of_eq_false hx)).symm
      · exact answer_le_put hs hreq rfl (Nat.le_refl _) hlen
  | @fail _ load f e cause length hf hr he hg hw =>
      by_cases hreq : r = f.ticket.request
      · exact answer_le_of_find? hs (Or.inr (if_pos hreq)) (Nat.le_refl _) hlen
      · exact answer_le_put hs hreq rfl (Nat.le_refl _) hlen

/-! ## Loads are started in time -/

theorem now_move (hm : Move config ev v w) : v.now ≤ w.now := by
  cases hm with
  | pass v nanos => exact Nat.le_add_right _ _
  | _ => exact Nat.le_refl _

/-- All loads from a number on were started at some time or later. -/
def StartedFrom (v : CacheView) (number time : Nat) : Prop :=
  time ≤ v.now ∧ ∀ load f, v.flight? load = some f → number ≤ load → time ≤ f.started

theorem startedFrom_move {number time : Nat} (hm : Move config ev v w)
    (hst : v.StartedFrom number time) : w.StartedFrom number time := by
  obtain ⟨hnow, hst⟩ := hst
  refine ⟨Nat.le_trans hnow (now_move hm), ?_⟩
  intro load f hf hle
  rcases flights_move hm with hw | ⟨r', g, hw⟩ | ⟨load', f₀, how, -, hf₀, -, hw⟩
  · exact hst load f ((flight?_congr hw load).symm.trans hf) hle
  · rcases flights_begin ((flight?_congr hw load).symm.trans hf) with hold | ⟨-, rfl⟩
    · exact hst load f hold hle
    · exact hnow
  · rcases flights_land ((flight?_congr hw load).symm.trans hf) with ⟨-, hold⟩ | ⟨rfl, rfl⟩
    · exact hst load f hold hle
    · exact hst load f₀ hf₀ hle

end CacheView

namespace History

variable {h : History} {r : Request}

/-- No event takes an answer back to an earlier load. -/
theorem answer_le_steps (ho : h.Orderly) (hs : h.view.Sound) (events : List CacheEvent)
    (r : Request) : h.answer r ≤ (h.steps events).answer r := by
  rw [answer_eq ho, answer_eq (orderly_steps ho events), config_steps ho events]
  refine (steps_keep (P := fun v => v.Sound ∧
    h.view.answer h.cache.config r ≤ v.answer h.cache.config r) ho events ?_
    ⟨hs, Nat.le_refl _⟩).2
  rintro ev - v w hm ⟨hs, hle⟩
  exact ⟨CacheView.sound_move hm hs, Nat.le_trans hle (CacheView.answer_move hm hs)⟩

/-- Every load that is yet to be started is started no earlier than now. -/
theorem startedFrom_steps (ho : h.Orderly) (events : List CacheEvent) :
    (h.steps events).view.StartedFrom h.flights.length h.now := by
  refine steps_keep (P := fun v => v.StartedFrom h.flights.length h.now) ho events
    (fun _ _ _ _ hm hst => CacheView.startedFrom_move hm hst) ⟨Nat.le_refl _, ?_⟩
  intro load f hf hle
  exact absurd (List.getElem?_eq_some_iff.mp hf).1 (Nat.not_lt_of_le hle)

/-- Once a request was invalidated, it is answered with a load that was not started before. -/
theorem length_le_answer (ho : h.Orderly) (hs : h.view.Sound) {ev : CacheEvent}
    (hi : ev.invalidates r = true) (events : List CacheEvent) :
    h.flights.length ≤ (h.steps (ev :: events)).answer r := by
  have ho' := orderly_step ho ev
  refine Nat.le_trans ?_ (answer_le_steps ho' (sound_steps ho hs [ev]) events r)
  rw [answer_eq ho', CacheView.answer_of_none (v := (h.step ev).view) (find?_of_invalidates hi)]
  exact (step_moves ho ev).keep (P := fun v => h.flights.length ≤ v.flights.length)
    (fun _ _ hm hle => Nat.le_trans hle (CacheView.length_move hm)) (Nat.le_refl _)

/-- A load of a generation that its request has left behind changes no entry when it ends. -/
theorem entries_land_of_parted {load : Nat} {f : Flight} (how : LoadEnd)
    (hflown : h.view.Flown load f) (hp : h.view.Parted f.ticket.request f.ticket.generation) :
    (h.land load how).cache.entries = h.cache.entries := by
  rcases h.running_or_not load with ⟨f', hf', hrun⟩ | hn
  · obtain ⟨f'', hf'', hticket, -⟩ := hflown
    cases Option.some.inj (hf'.symm.trans hf'')
    rw [land_of_running how hf' hrun]
    cases how with
    | died how => rfl
    | gave outcome length =>
        refine Cache.entries_finish_of_superseded ?_
        rw [hticket]
        exact hp.entry
  · rw [land_of_not_running how hn]

/-- **READS IN ORDER.**  Of two callers who ask for the same request, the later one gets a load that
    was started no earlier, and one that was started after the last invalidation in between.  A load
    changes no entry any more once its request was invalidated, however it ends. -/
theorem reads_in_order (config : CacheConfig) (before between : List CacheEvent) (r : Request)
    (h₁ h₂ : History) (hh₁ : h₁ = run config before) (hh₂ : h₂ = h₁.steps (.get r :: between)) :
    (∃ f₁ f₂, (h₂.get r).flight? (h₁.answer r) = some f₁ ∧
      (h₂.get r).flight? (h₂.answer r) = some f₂ ∧
      h₁.answer r ≤ h₂.answer r ∧ f₁.started ≤ f₂.started ∧
      ∀ pre ev post, between = pre ++ ev :: post → ev.invalidates r = true →
        (h₁.steps (.get r :: pre)).flights.length ≤ h₂.answer r ∧
        (h₁.steps (.get r :: pre)).now ≤ f₂.started) ∧
    ∀ load f ev how, h₁.flight? load = some f → ev.invalidates f.ticket.request = true →
      ((h₁.steps (ev :: between)).step (.land load how)).cache.entries
        = (h₁.steps (ev :: between)).cache.entries := by
  have ho₁ : h₁.Orderly := hh₁ ▸ orderly_run config before
  have hs₁ : h₁.view.Sound := hh₁ ▸ sound_run config before
  have ho₂ : h₂.Orderly := hh₂ ▸ orderly_steps ho₁ _
  have hs₂ : h₂.view.Sound := hh₂ ▸ sound_steps ho₁ hs₁ _
  constructor
  · obtain ⟨f, hf⟩ := answered ho₁ hs₁ r
    obtain ⟨f₂, hf₂⟩ := answered ho₂ hs₂ r
    -- the second caller asks after the first load was started
    have hlater : h₂.get r = (h₁.get r).steps (between ++ [.get r]) := by
      rw [hh₂, steps_append]
      rfl
    obtain ⟨f₁, hf₁, -⟩ := flown_steps (orderly_get ho₁ r) (between ++ [.get r]) hf
    rw [← hlater] at hf₁
    have hle : h₁.answer r ≤ h₂.answer r := hh₂ ▸ answer_le_steps ho₁ hs₁ _ r
    have hlogged := (sound_steps ho₂ hs₂ [.get r]).logged
    refine ⟨f₁, f₂, hf₁, hf₂, hle, hlogged.order _ _ f₁ f₂ hf₁ hf₂ hle, ?_⟩
    intro pre ev post hsplit hi
    have ho := orderly_steps ho₁ (.get r :: pre)
    have hs := sound_steps ho₁ hs₁ (.get r :: pre)
    have hrest : h₂ = (h₁.steps (.get r :: pre)).steps (ev :: post) := by
      rw [hh₂, hsplit, ← steps_append]
      rfl
    have hnew := length_le_answer ho hs hi post
    rw [← hrest] at hnew
    have hstarted := startedFrom_steps ho (ev :: post ++ [.get r])
    rw [steps_append, ← hrest] at hstarted
    exact ⟨hnew, hstarted.2 _ f₂ hf₂ hnew⟩
  · intro load f ev how hf hi
    refine entries_land_of_parted how (flown_steps ho₁ _ hf) ?_
    exact parted_of_invalidates ho₁ List.mem_cons_self hi (hs₁.logged.drawn load f hf)

/-- A load is cut off by an invalidation and replaced by the next: the later caller gets the next
    load, and the first one, when it ends, changes nothing. -/
theorem reads_in_order_around_invalidation :
    let h := (run ⟨30, some 10, 1, false, 60000⟩ []).steps
      [.get default, .pass 5, .invalidate default, .pass 5, .get default]
    h.answer default = 1 ∧ h.flights.length = 2 ∧
      (h.step (.land 0 (.gave (.ok default) ⟨10⟩))).cache.entries = h.cache.entries ∧
      ∃ f₂, (h.get default).flight? 1 = some f₂ ∧ 5 ≤ f₂.started := by
  have hreads := reads_in_order ⟨30, some 10, 1, false, 60000⟩ []
    [.pass 5, .invalidate default, .pass 5, .get default] default _ _ rfl rfl
  have hstale := reads_in_order ⟨30, some 10, 1, false, 60000⟩ [.get default, .pass 5]
    [.pass 5, .get default] default _ _ rfl rfl
  obtain ⟨⟨f₁, f₂, -, hf₂, -, -, hafter⟩, -⟩ := hreads
  obtain ⟨-, hnothing⟩ := hstale
  refine ⟨rfl, rfl, ?_, f₂, hf₂, ?_⟩
  · exact hnothing 0 ⟨⟨0, default, 0⟩, 0, none⟩ (.invalidate default) _ rfl rfl
  · exact (hafter [.pass 5] (.invalidate default) [.pass 5, .get default] rfl rfl).2

end History

end Courier
