import Courier.Proofs.Cache.Tracking

/-!
# Answers — the load that a caller gets

Whoever asks gets a load: of a value that is fresh, or one whose loader has given no outcome yet
(`answer_cases`).  A load that was started before stays what it is: its ticket never changes, nor
does its end once it has ended (`Flown`).  And a load whose generation its request has left behind
(`Parted`) is never the answer again, since generations are not drawn twice.
-/

namespace Courier

namespace CacheView

variable {config : CacheConfig} {ev : CacheEvent} {v w : CacheView} {r : Request}
  {e : CacheEntry} {f : Flight} {load generation : Nat}

/-! ## Loads stay -/

/-- What a move does to the loads: nothing, or one starts, or one ends. -/
theorem flights_move (hm : Move config ev v w) :
    w.flights = v.flights ∨ (∃ r g, w.flights = (v.begin r g).flights) ∨
      ∃ load f how, ev = .land load how ∧ v.flight? load = some f ∧ f.landing = none ∧
        w.flights = (v.land load f how).flights := by
  cases hm with
  | start h => exact Or.inr (Or.inl ⟨_, _, rfl⟩)
  | refresh he hx hn => exact Or.inr (Or.inl ⟨_, _, rfl⟩)
  | die hf hr => exact Or.inr (Or.inr ⟨_, _, _, rfl, hf, hr, rfl⟩)
  | supersede hf hr hg => exact Or.inr (Or.inr ⟨_, _, _, rfl, hf, hr, rfl⟩)
  | write hf hr he hg => exact Or.inr (Or.inr ⟨_, _, _, rfl, hf, hr, rfl⟩)
  | keep hf hr he hg hw => exact Or.inr (Or.inr ⟨_, _, _, rfl, hf, hr, rfl⟩)
  | fail hf hr he hg hw => exact Or.inr (Or.inr ⟨_, _, _, rfl, hf, hr, rfl⟩)
  | _ => exact Or.inl rfl

theorem flight?_congr (h : w.flights = v.flights) (load : Nat) :
    w.flight? load = v.flight? load := by
  rw [flight?, h]
  rfl

/-- A load that was started goes on: it keeps its ticket and the time it was started, and its end
    once it has ended. -/
def Flown (v : CacheView) (load : Nat) (f : Flight) : Prop :=
  ∃ f', v.flight? load = some f' ∧ f'.ticket = f.ticket ∧ f'.started = f.started ∧
    (f.landing ≠ none → f' = f)

theorem flown_move (hm : Move config ev v w) (hf : v.Flown load f) : w.Flown load f := by
  obtain ⟨f', hf', hticket, hstarted, hlanded⟩ := hf
  rcases flights_move hm with hw | ⟨r', g, hw⟩ | ⟨load', f₀, how, -, hf₀, hrun, hw⟩
  · exact ⟨f', (flight?_congr hw load).trans hf', hticket, hstarted, hlanded⟩
  · exact ⟨f', (flight?_congr hw load).trans (flights_begin_of_some hf'), hticket, hstarted,
      hlanded⟩
  · by_cases heq : load = load'
    · subst heq
      cases Option.some.inj (hf'.symm.trans hf₀)
      refine ⟨_, (flight?_congr hw load).trans (flights_land_self hf₀), hticket, hstarted, ?_⟩
      intro hne
      rw [← hlanded hne] at hne
      exact absurd hrun hne
    · exact ⟨f', (flight?_congr hw load).trans (flights_land_of_ne heq hf'), hticket, hstarted,
        hlanded⟩

/-- Loads are only ever added. -/
theorem length_move (hm : Move config ev v w) : v.flights.length ≤ w.flights.length := by
  rcases flights_move hm with hw | ⟨r', g, hw⟩ | ⟨load', f₀, how, -, -, -, hw⟩
  · exact Nat.le_of_eq (congrArg _ hw.symm)
  · rw [hw, length_begin]
    exact Nat.le_succ _
  · rw [hw]
    exact Nat.le_of_eq List.length_set.symm

/-! ## Generations -/

theorem entry_put {r' : Request} {x : Option CacheEntry} (h : (v.put r' x).find? r = some e) :
    (r = r' ∧ x = some e) ∨ (r ≠ r' ∧ v.find? r = some e) := by
  by_cases hreq : r = r'
  · subst hreq
    exact Or.inl ⟨rfl, (put_find?_self _ _ _).symm.trans h⟩
  · exact Or.inr ⟨hreq, (put_find?_of_ne _ _ hreq).symm.trans h⟩

/-- An entry that was changed within its generation. -/
theorem generation_of_put {r' : Request} {x e' : CacheEntry}
    (he : (v.put r' (some x)).find? r = some e) (he' : v.find? r' = some e')
    (hg : e'.generation = x.generation) :
    ∃ e₀, v.find? r = some e₀ ∧ e₀.generation = e.generation := by
  rcases entry_put he with ⟨rfl, hx⟩ | ⟨-, hold⟩
  · cases hx
    exact ⟨e', he', hg⟩
  · exact ⟨e, hold, rfl⟩

/-- An entry has the generation it had before, or one that was not drawn yet. -/
theorem generation_move (hm : Move config ev v w) (he : w.find? r = some e) :
    (ev.invalidates r = false ∧ ∃ e', v.find? r = some e' ∧ e'.generation = e.generation) ∨
      e.generation = v.generations := by
  cases hm with
  | pass v nanos => exact Or.inl ⟨rfl, e, he, rfl⟩
  | start h =>
      rcases entry_put he with ⟨-, hx⟩ | ⟨-, hold⟩
      · cases hx
        exact Or.inr rfl
      · exact Or.inl ⟨rfl, e, hold, rfl⟩
  | join he' hx hr => exact Or.inl ⟨rfl, generation_of_put he he' rfl⟩
  | refresh he' hx hn => exact Or.inl ⟨rfl, generation_of_put he he' rfl⟩
  | touch he' hx hn => exact Or.inl ⟨rfl, generation_of_put he he' rfl⟩
  | evict r' h =>
      rcases h r with hsame | ⟨hnone, -⟩
      · exact Or.inl ⟨rfl, e, hsame.symm.trans he, rfl⟩
      · exact nomatch hnone.symm.trans he
  | invalidate v r' =>
      rcases entry_put he with ⟨-, hx⟩ | ⟨hne, hold⟩
      · exact nomatch hx
      · exact Or.inl ⟨decide_eq_false hne, e, hold, rfl⟩
  | invalidateAll v => exact nomatch he
  | purge v => exact Or.inl ⟨rfl, e, Option.eq_some_of_filter_eq_some he, rfl⟩
  | die hf hr => exact Or.inl ⟨rfl, e, he, rfl⟩
  | supersede hf hr hg => exact Or.inl ⟨rfl, e, he, rfl⟩
  | write hf hr he' hg => exact Or.inl ⟨rfl, generation_of_put he he' rfl⟩
  | keep hf hr he' hg hw => exact Or.inl ⟨rfl, generation_of_put he he' rfl⟩
  | fail hf hr he' hg hw =>
      rcases entry_put he with ⟨-, hx⟩ | ⟨-, hold⟩
      · exact nomatch hx
      · exact Or.inl ⟨rfl, e, hold, rfl⟩

theorem generations_move (hm : Move config ev v w) : v.generations ≤ w.generations := by
  cases hm with
  | start h => exact Nat.le_succ _
  | _ => exact Nat.le_refl _

/-- A request has left a generation behind: its entry has another one. -/
structure Parted (v : CacheView) (r : Request) (generation : Nat) : Prop where
  drawn : generation < v.generations
  entry : ∀ e, v.find? r = some e → e.generation ≠ generation

/-- A generation that was left behind does not come back. -/
theorem parted_move (hm : Move config ev v w) (hp : v.Parted r generation) :
    w.Parted r generation := by
  refine ⟨Nat.lt_of_lt_of_le hp.drawn (generations_move hm), ?_⟩
  intro e he
  rcases generation_move hm he with ⟨-, e', he', hg⟩ | hg
  · exact hg ▸ hp.entry e' he'
  · exact hg ▸ (Nat.ne_of_lt hp.drawn).symm

/-! ## The load that a caller gets -/

/-- Whoever asks gets a fresh value, or a load of the entry whose loader has given no outcome. -/
theorem answer_cases (hs : v.Sound) (config : CacheConfig) (r : Request) :
    (∃ e w, v.find? r = some e ∧ e.writtenAt = some w ∧ v.now - w < config.expire.nanos ∧
      v.answer config r = e.load) ∨
    ∀ f, v.flight? (v.answer config r) = some f →
      f.Silent ∧ ∃ e, v.find? r = some e ∧ f.Of r e.generation := by
  have hnext : ∀ f, v.flight? v.flights.length ≠ some f := by
    intro f hf
    exact absurd (List.getElem?_eq_some_iff.mp hf).1 (Nat.lt_irrefl _)
  cases he : v.find? r with
  | none =>
      refine Or.inr fun f hf => absurd hf ?_
      rw [answer_of_none he]
      exact hnext f
  | some e =>
      have ht := hs.tracks r e he
      cases hx : e.isExpired v.now config.expire with
      | true =>
          refine Or.inr ?_
          rw [answer_of_expired he hx]
          cases hr : e.refresh with
          | none => exact fun f hf => absurd hf (hnext f)
          | some load =>
              obtain ⟨-, f, hf, hof, hsilent⟩ := ht.refresh load hr
              intro f' hf'
              cases Option.some.inj (hf.symm.trans hf')
              exact ⟨hsilent, e, rfl, hof⟩
      | false =>
          rw [answer_of_live he hx]
          cases hw : e.writtenAt with
          | none =>
              obtain ⟨f, hf, hof⟩ := ht.load
              refine Or.inr fun f' hf' => ⟨ht.unwritten hw f' hf', e, rfl, ?_⟩
              exact Option.some.inj (hf.symm.trans hf') ▸ hof
          | some w =>
              rw [CacheEntry.isExpired_of_written hw] at hx
              exact Or.inl ⟨e, w, rfl, hw, Nat.lt_of_not_le (of_decide_eq_false hx), rfl⟩

/-- The load that a caller gets, if it was started before, is one of the entry. -/
theorem of_answer (hs : v.Sound) (hf : v.flight? (v.answer config r) = some f) :
    ∃ e, v.find? r = some e ∧ f.Of r e.generation := by
  rcases answer_cases hs config r with ⟨e, w, he, -, -, ha⟩ | hsilent
  · obtain ⟨f', hf', hof⟩ := (hs.tracks r e he).load
    rw [ha, hf'] at hf
    exact ⟨e, he, Option.some.inj hf ▸ hof⟩
  · exact (hsilent f hf).2

/-- Nobody gets a load of a generation that was left behind. -/
theorem answer_ne_of_parted (hs : v.Sound) (hp : v.Parted r f.ticket.generation)
    (hf : v.flight? load = some f) : v.answer config r ≠ load := by
  intro ha
  obtain ⟨e, he, hof⟩ := of_answer hs (ha ▸ hf)
  exact hp.entry e he hof.2.symm

/-- The load that a caller gets is at the latest the next one. -/
theorem answer_le (hs : v.Sound) (config : CacheConfig) (r : Request) :
    v.answer config r ≤ v.flights.length := by
  cases he : v.find? r with
  | none => exact Nat.le_of_eq (answer_of_none he)
  | some e =>
      have ht := hs.tracks r e he
      cases hx : e.isExpired v.now config.expire with
      | true =>
          rw [answer_of_expired he hx]
          cases hr : e.refresh with
          | none => exact Nat.le_refl _
          | some load =>
              obtain ⟨-, f, hf, -, -⟩ := ht.refresh load hr
              exact Nat.le_of_lt (List.getElem?_eq_some_iff.mp hf).1
      | false =>
          obtain ⟨f, hf, -⟩ := ht.load
          rw [answer_of_live he hx]
          exact Nat.le_of_lt (List.getElem?_eq_some_iff.mp hf).1

end CacheView

namespace History

variable {h : History} {r : Request} {load : Nat} {f : Flight} {generation : Nat}

/-- A load that was started before some events goes on after them. -/
theorem flown_steps (ho : h.Orderly) (events : List CacheEvent) (hf : h.flight? load = some f) :
    (h.steps events).view.Flown load f :=
  steps_keep (P := fun v => v.Flown load f) ho events
    (fun _ _ _ _ hm hf => CacheView.flown_move hm hf) ⟨f, hf, rfl, rfl, fun _ => rfl⟩

/-- A load that has landed stays as it is. -/
theorem landed_steps (ho : h.Orderly) (events : List CacheEvent) (hf : h.flight? load = some f)
    (hl : f.landing ≠ none) : (h.steps events).flight? load = some f := by
  obtain ⟨f', hf', -, -, heq⟩ := flown_steps ho events hf
  exact heq hl ▸ hf'

theorem parted_steps (ho : h.Orderly) (events : List CacheEvent)
    (hp : h.view.Parted r generation) : (h.steps events).view.Parted r generation :=
  steps_keep (P := fun v => v.Parted r generation) ho events
    (fun _ _ _ _ hm hp => CacheView.parted_move hm hp) hp

/-- An invalidation leaves no entry. -/
theorem find?_of_invalidates {ev : CacheEvent} (hi : ev.invalidates r = true) :
    (h.step ev).cache.find? r = none := by
  cases ev with
  | invalidate r' => exact Cache.find?_invalidate.trans (if_pos (of_decide_eq_true hi))
  | invalidateAll => rfl
  | _ => exact nomatch hi

/-- Generations are only ever drawn. -/
theorem generations_steps (ho : h.Orderly) (events : List CacheEvent)
    (hg : generation < h.cache.generations) : generation < (h.steps events).cache.generations :=
  steps_keep (P := fun v => generation < v.generations) ho events
    (fun _ _ _ _ hm hg => Nat.lt_of_lt_of_le hg (CacheView.generations_move hm)) hg

/-- After an invalidation a request has left all generations behind that were drawn before. -/
theorem parted_of_invalidates (ho : h.Orderly) {ev : CacheEvent} {events : List CacheEvent}
    (hev : ev ∈ events) (hi : ev.invalidates r = true) (hg : generation < h.cache.generations) :
    (h.steps events).view.Parted r generation := by
  obtain ⟨before, after, rfl⟩ := List.append_of_mem hev
  have ho' := orderly_steps ho before
  rw [steps_append, steps_cons]
  refine parted_steps (orderly_step ho' ev) after ⟨?_, ?_⟩
  · exact generations_steps ho' [ev] (generations_steps ho before hg)
  · intro e he
    exact nomatch (find?_of_invalidates hi).symm.trans he

/-- The load that a caller gets has been started when the caller has asked, and it is one of the
    request. -/
theorem answered_of (ho : h.Orderly) (hs : h.view.Sound) (r : Request) :
    ∃ f, (h.get r).flight? (h.answer r) = some f ∧ f.ticket.request = r := by
  have hasked := asked ho r
  obtain ⟨e, he, hload⟩ := hasked.entry
  obtain ⟨f, hf, hof⟩ := ((CacheView.sound_move hasked.move hs).tracks r e he).load
  rw [answer_eq ho, ← hload]
  exact ⟨f, hf, hof.1⟩

theorem answered (ho : h.Orderly) (hs : h.view.Sound) (r : Request) :
    ∃ f, (h.get r).flight? (h.answer r) = some f :=
  (answered_of ho hs r).imp fun _ h => h.1

/-- A load after someone asked was there before, or runs. -/
theorem flight?_get (hf : (h.get r).flight? load = some f) :
    h.flight? load = some f ∨ (h.flight? load = none ∧ f.landing = none) := by
  have hf' : (h.flights ++ (h.cache.get h.now r).2.started.toList.map (Flight.begin h.now))[load]?
      = some f := hf
  by_cases hlt : load < h.flights.length
  · rw [List.getElem?_append_left hlt] at hf'
    exact Or.inl hf'
  · refine Or.inr ⟨List.getElem?_eq_none (Nat.le_of_not_lt hlt), ?_⟩
    rw [List.getElem?_append_right (Nat.le_of_not_lt hlt), List.getElem?_map] at hf'
    obtain ⟨_, _, rfl⟩ := Option.map_eq_some_iff.mp hf'
    rfl

/-- A caller gets a response at once that was written not too long ago. -/
def Fresh (h : History) (r : Request) (response : Response) : Prop :=
  ∃ e w f length, h.cache.find? r = some e ∧ e.writtenAt = some w ∧
    h.flight? (h.answer r) = some f ∧ f.landing = some ⟨w, .gave (.ok response) length⟩ ∧
    w ≤ h.now ∧ h.now - w < h.cache.config.expire.nanos

/-- A caller gets a load that has not ended. -/
def Pending (h : History) (r : Request) : Prop :=
  ∃ f, (h.get r).flight? (h.answer r) = some f ∧ f.landing = none

/-- A caller gets a load that has died. -/
def Abandoned (h : History) (r : Request) : Prop :=
  ∃ f time how, h.flight? (h.answer r) = some f ∧ f.landing = some ⟨time, .died how⟩

/-- An entry with a value that has not expired is served. -/
theorem fresh_of_written (ho : h.Orderly) (hs : h.view.Sound) {e : CacheEntry} {w : Nat}
    (he : h.cache.find? r = some e) (hw : e.writtenAt = some w)
    (hlt : h.now - w < h.cache.config.expire.nanos) :
    h.answer r = e.load ∧ ∃ response, h.Fresh r response := by
  have ha : h.answer r = e.load := by
    rw [answer_eq ho]
    refine CacheView.answer_of_live (v := h.view) he ?_
    rw [CacheEntry.isExpired_of_written hw]
    exact decide_eq_false (Nat.not_le_of_lt hlt)
  have ht := hs.tracks r e he
  obtain ⟨f, hf, -⟩ := ht.load
  obtain ⟨response, length, hl⟩ := ht.written w hw f hf
  exact ⟨ha, response, e, w, f, length, he, hw, ha ▸ hf, hl,
    ((hs.logged.past _ f hf).2 _ hl).2, hlt⟩

/-- Nobody who gets a load that died gets a fresh response, or a load that has not ended. -/
theorem not_abandoned (hp : (∃ response, h.Fresh r response) ∨ h.Pending r) :
    ¬ h.Abandoned r := by
  rintro ⟨f, time, how, hf, hl⟩
  rcases hp with ⟨response, e, w, f', length, -, -, hf', hl', -⟩ | ⟨f', hf', hrun⟩
  · cases Option.some.inj (hf.symm.trans hf')
    exact nomatch hl.symm.trans hl'
  · rcases flight?_get hf' with hold | ⟨hnone, -⟩
    · cases Option.some.inj (hf.symm.trans hold)
      exact nomatch hl.symm.trans hrun
    · exact nomatch hf.symm.trans hnone

/-- Whoever asks gets a fresh response or a load that has not ended, if the load has not died. -/
theorem fresh_or_pending_iff (ho : h.Orderly) (hs : h.view.Sound) (r : Request) :
    (∃ response, h.Fresh r response) ∨ h.Pending r ↔ ¬ h.Abandoned r := by
  refine ⟨not_abandoned, ?_⟩
  intro hdead
  rcases CacheView.answer_cases hs h.cache.config r with ⟨e, w, he, hw, hlt, -⟩ | hsilent
  · exact Or.inl (fresh_of_written ho hs he hw hlt).2
  · rw [← answer_eq ho] at hsilent
    obtain ⟨f, hf⟩ := answered ho hs r
    rcases flight?_get hf with hold | ⟨-, hrun⟩
    · cases hl : f.landing with
      | none => exact Or.inr ⟨f, hf, hl⟩
      | some l =>
          obtain ⟨how, hhow⟩ := (hsilent f hold).1 l hl
          exact absurd ⟨f, l.time, how, hold, hhow ▸ hl⟩ hdead
    · exact Or.inr ⟨f, hf, hrun⟩

end History

end Courier
