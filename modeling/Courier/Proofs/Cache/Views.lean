import Courier.Proofs.Cache.History
import Courier.Proofs.Cache.Operations

/-!
# Views — what asking, and the end of a load, do to the view of a history

Asking for a request (`CacheView.ask`) and the end of a load (`CacheView.finish`) change the entry of
one request and the loads, and nothing else of a view.  As long as a history is in good order
(`History.Orderly`), this is what they do to its view (`History.asked`, `History.view_land`), however
the cache goes about it.  So every event is a function of the view (`CacheView.next`), but for the
room that may have to be made when someone asks (`History.view_step`).
-/

namespace Courier

open Cache Entries

variable {config : CacheConfig} {h : History} {v w : CacheView}

/-! ## Histories in good order -/

/-- A history in good order: no request has two entries, and the cache counts its loads. -/
structure History.Orderly (h : History) : Prop where
  distinct : Distinct h.cache.entries
  loads : h.cache.loads = h.flights.length

/-- An empty cache that has started no load is in order. -/
theorem History.orderly_start (config : CacheConfig) : (start config).Orderly :=
  ⟨List.nodup_nil, rfl⟩

/-- A cache that is alike keeps a history in order. -/
theorem History.Orderly.of_alike (ho : h.Orderly) {c : Cache} (ha : Alike h.cache c)
    {now : Nat} {flights : List Flight} (hl : flights.length = h.flights.length) :
    History.Orderly ⟨c, now, flights⟩ :=
  ⟨ha.distinct ho.distinct, ha.loads.trans (ho.loads.trans hl.symm)⟩

/-! ## Asking -/

namespace CacheView

variable {r : Request} {e : CacheEntry}

/-- The load that a caller gets who asks for a request now: the load of a live entry, the refresh of
    an expired one, or else the next load. -/
def answer (config : CacheConfig) (v : CacheView) (r : Request) : Nat :=
  match v.find? r with
  | none => v.flights.length
  | some e =>
    if e.isExpired v.now config.expire then e.refresh.getD v.flights.length else e.load

/-- Where nothing is kept, the next load answers. -/
theorem answer_of_none (he : v.find? r = none) :
    v.answer config r = v.flights.length := by
  rw [answer, he]

/-- An expired entry gives its refresh, if one runs, and else the next load. -/
theorem answer_of_expired (he : v.find? r = some e)
    (hx : e.isExpired v.now config.expire = true) :
    v.answer config r = e.refresh.getD v.flights.length := by
  rw [answer, he]
  exact if_pos hx

/-- A live entry gives its own load. -/
theorem answer_of_live (he : v.find? r = some e)
    (hx : e.isExpired v.now config.expire = false) : v.answer config r = e.load := by
  rw [answer, he]
  exact if_neg (ne_true_of_eq_false hx)

/-- Starts a load of a new generation for a request, and gives it an entry that waits for it. -/
def renew (v : CacheView) (r : Request) : CacheView :=
  { v.begin r v.generations with generations := v.generations + 1 }.put r
    (some (.loading v.flights.length v.generations v.now))

/-- Asks for a request, before room is made. -/
def ask (config : CacheConfig) (v : CacheView) (r : Request) : CacheView :=
  match v.find? r with
  | none => v.renew r
  | some e =>
    if e.isExpired v.now config.expire then
      match e.refresh with
      | none => v.renew r
      | some load => v.put r (some { e with load := load, writtenAt := none, accessedAt := v.now })
    else if e.needsRefresh v.now config.refresh then
      (v.begin r e.generation).put r
        (some { e with accessedAt := v.now, refresh := some v.flights.length })
    else v.put r (some { e with accessedAt := v.now })

/-- Where nothing is kept, a load is started. -/
theorem ask_of_none (he : v.find? r = none) : v.ask config r = v.renew r := by
  rw [ask, he]

/-- It is for an expired entry that is not being refreshed. -/
theorem ask_of_stale (he : v.find? r = some e) (hx : e.isExpired v.now config.expire = true)
    (hr : e.refresh = none) : v.ask config r = v.renew r := by
  rw [ask, he]
  simp only [hx, hr, if_true]

/-- An expired entry whose refresh runs waits for it, as if it had been loading. -/
theorem ask_of_joined (he : v.find? r = some e) (hx : e.isExpired v.now config.expire = true)
    {load : Nat} (hr : e.refresh = some load) : v.ask config r
      = v.put r (some { e with load := load, writtenAt := none, accessedAt := v.now }) := by
  rw [ask, he]
  simp only [hx, hr, if_true]

/-- A live entry that is due for a refresh gets one, and answers with the value it has. -/
theorem ask_of_refreshed (he : v.find? r = some e)
    (hx : e.isExpired v.now config.expire = false)
    (hn : e.needsRefresh v.now config.refresh = true) : v.ask config r
      = (v.begin r e.generation).put r
        (some { e with accessedAt := v.now, refresh := some v.flights.length }) := by
  rw [ask, he]
  exact (if_neg (ne_true_of_eq_false hx)).trans (if_pos hn)

/-- Any other live entry is only used once more. -/
theorem ask_of_live (he : v.find? r = some e) (hx : e.isExpired v.now config.expire = false)
    (hn : e.needsRefresh v.now config.refresh = false) :
    v.ask config r = v.put r (some { e with accessedAt := v.now }) := by
  rw [ask, he]
  exact (if_neg (ne_true_of_eq_false hx)).trans (if_neg (ne_true_of_eq_false hn))

/-- What holds of every way to ask holds of asking. -/
theorem ask_cases {P : CacheView → Prop} (config : CacheConfig) (v : CacheView) (r : Request)
    (start : (∀ e, v.find? r = some e →
        e.isExpired v.now config.expire = true ∧ e.refresh = none) → P (v.renew r))
    (join : ∀ e load, v.find? r = some e → e.isExpired v.now config.expire = true →
      e.refresh = some load →
      P (v.put r (some { e with load := load, writtenAt := none, accessedAt := v.now })))
    (refresh : ∀ e, v.find? r = some e → e.isExpired v.now config.expire = false →
      e.needsRefresh v.now config.refresh = true →
      P ((v.begin r e.generation).put r
        (some { e with accessedAt := v.now, refresh := some v.flights.length })))
    (touch : ∀ e, v.find? r = some e → e.isExpired v.now config.expire = false →
      e.needsRefresh v.now config.refresh = false →
      P (v.put r (some { e with accessedAt := v.now }))) : P (v.ask config r) := by
  cases he : v.find? r with
  | none =>
      rw [ask_of_none he]
      exact start fun e he' => nomatch he.symm.trans he'
  | some e =>
      cases hx : e.isExpired v.now config.expire with
      | true =>
          cases hr : e.refresh with
          | none =>
              rw [ask_of_stale he hx hr]
              refine start fun e' he' => ?_
              cases Option.some.inj (he.symm.trans he')
              exact ⟨hx, hr⟩
          | some load =>
              rw [ask_of_joined he hx hr]
              exact join e load he hx hr
      | false =>
          cases hn : e.needsRefresh v.now config.refresh with
          | true =>
              rw [ask_of_refreshed he hx hn]
              exact refresh e he hx hn
          | false =>
              rw [ask_of_live he hx hn]
              exact touch e he hx hn

/-- Whoever has asked has an entry, whose load is the answer. -/
theorem find?_ask (config : CacheConfig) (v : CacheView) (r : Request) :
    ∃ e, (v.ask config r).find? r = some e ∧ e.load = v.answer config r := by
  cases he : v.find? r with
  | none =>
      rw [ask_of_none he, answer_of_none he]
      exact ⟨_, put_find?_self _ _ _, rfl⟩
  | some e =>
      cases hx : e.isExpired v.now config.expire with
      | true =>
          rw [answer_of_expired he hx]
          cases hr : e.refresh with
          | none =>
              rw [ask_of_stale he hx hr]
              exact ⟨_, put_find?_self _ _ _, rfl⟩
          | some load =>
              rw [ask_of_joined he hx hr]
              exact ⟨_, put_find?_self _ _ _, rfl⟩
      | false =>
          rw [answer_of_live he hx]
          cases hn : e.needsRefresh v.now config.refresh with
          | true =>
              rw [ask_of_refreshed he hx hn]
              exact ⟨_, put_find?_self _ _ _, rfl⟩
          | false =>
              rw [ask_of_live he hx hn]
              exact ⟨_, put_find?_self _ _ _, rfl⟩

/-- Asking takes no time. -/
theorem now_ask (config : CacheConfig) (v : CacheView) (r : Request) :
    (v.ask config r).now = v.now :=
  ask_cases (P := fun w => w.now = v.now) config v r (fun _ => rfl) (fun _ _ _ _ _ => rfl)
    (fun _ _ _ _ => rfl) fun _ _ _ _ => rfl

/-- Asking for a request leaves the entries of all others alone. -/
theorem find?_ask_of_ne (config : CacheConfig) (v : CacheView) {r' : Request} (hr : r' ≠ r) :
    (v.ask config r).find? r' = v.find? r' := by
  refine ask_cases (P := fun w => w.find? r' = v.find? r') config v r ?_ ?_ ?_ ?_
  · intro _
    exact put_find?_of_ne _ _ hr
  · intro e load _ _ _
    exact put_find?_of_ne _ _ hr
  · intro e _ _ _
    exact put_find?_of_ne _ _ hr
  · intro e _ _ _
    exact put_find?_of_ne _ _ hr

end CacheView

/-- What asking for a request comes to. -/
structure History.Asked (h : History) (r : Request) : Prop where
  view : (h.ask r).view = h.view.ask h.cache.config r
  orderly : (h.ask r).Orderly
  config : (h.ask r).cache.config = h.cache.config
  answer : (h.cache.ask h.now r).2.load = h.view.answer h.cache.config r

namespace History

variable {r : Request} {e : CacheEntry}

/-- Whoever has asked finds an entry, whose load is the answer. -/
theorem Asked.entry (ha : h.Asked r) :
    ∃ e, (h.ask r).cache.find? r = some e ∧ e.load = h.view.answer h.cache.config r := by
  obtain ⟨e, he, hload⟩ := CacheView.find?_ask h.cache.config h.view r
  rw [← ha.view] at he
  exact ⟨e, he, hload⟩

/-- The entries after the entry of one request was changed. -/
theorem lookup_adjust_of_some (he : h.cache.find? r = some e) (change : CacheEntry → CacheEntry)
    (r' : Request) : (h.cache.entries.adjust r change).lookup r'
      = if r' = r then some (change e) else h.cache.find? r' := by
  rw [lookup_adjust]
  by_cases hr : r' = r
  · rw [if_pos hr, if_pos hr, hr, show h.cache.entries.lookup r = some e from he, Option.map_some]
  · rw [if_neg hr, if_neg hr]
    rfl

/-- Asking comes to what its result says. -/
theorem asked_of_eq {c : Cache} {found : Lookup} (hask : h.cache.ask h.now r = (c, found))
    (hm : h.view.ask h.cache.config r = v)
    (hv : v.now = h.now ∧ v.generations = c.generations ∧
      v.flights = h.flights ++ found.started.toList.map (Flight.begin h.now))
    (he : ∀ r', c.entries.lookup r' = v.find? r') (hd : Distinct c.entries)
    (hl : c.loads = v.flights.length) (hc : c.config = h.cache.config)
    (ha : found.load = h.view.answer h.cache.config r) : h.Asked r := by
  obtain ⟨hnow, hgens, hflights⟩ := hv
  have hh : h.ask r = ⟨c, h.now, v.flights⟩ := by
    rw [History.ask, hask, hflights]
  refine ⟨?_, ?_, ?_, ?_⟩
  · rw [hh, hm]
    exact CacheView.eq_of_parts hnow.symm hgens.symm rfl he
  · rw [hh]
    exact ⟨hd, hl⟩
  · rw [hh]
    exact hc
  · rw [hask]
    exact ha

/-- Where nothing is kept, asking comes to what its result says. -/
theorem asked_of_absent (ho : h.Orderly) (he : h.cache.find? r = none) : h.Asked r := by
  obtain ⟨stats, hask⟩ := h.cache.askAbsent_eq h.now r
  rw [← ask_of_absent he, ho.loads] at hask
  refine asked_of_eq hask (CacheView.ask_of_none (v := h.view) he) ⟨rfl, rfl, rfl⟩
    ?_ ?_ ?_ rfl ?_
  · intro r'
    exact lookup_append_singleton he
  · exact ho.distinct.append_singleton he
  · exact (h.view.length_begin r _).symm
  · exact (CacheView.answer_of_none (v := h.view) he).symm

/-- So it does where an expired entry joins its refresh. -/
theorem asked_of_joined (ho : h.Orderly) (he : h.cache.find? r = some e)
    (hx : e.isExpired h.now h.cache.config.expire = true) {load : Nat}
    (hr : e.refresh = some load) : h.Asked r := by
  obtain ⟨stats, hask⟩ := h.cache.askExpired_eq_join h.now r hr
  rw [← ask_of_expired he hx] at hask
  refine asked_of_eq hask (CacheView.ask_of_joined (v := h.view) he hx hr)
    ⟨rfl, rfl, (List.append_nil _).symm⟩ ?_ ?_ ho.loads rfl ?_
  · exact lookup_adjust_of_some he fun _ =>
      { e with load := load, writtenAt := none, accessedAt := h.now }
  · exact (alike_adjust h.cache r _).distinct ho.distinct
  · rw [CacheView.answer_of_expired (v := h.view) he hx, hr]
    rfl

/-- So it does where an expired entry has no refresh to join. -/
theorem asked_of_expired (ho : h.Orderly) (he : h.cache.find? r = some e)
    (hx : e.isExpired h.now h.cache.config.expire = true) (hr : e.refresh = none) :
    h.Asked r := by
  obtain ⟨stats, hask⟩ := h.cache.askExpired_eq_start h.now r hr
  rw [← ask_of_expired he hx, ho.loads] at hask
  refine asked_of_eq hask (CacheView.ask_of_stale (v := h.view) he hx hr) ⟨rfl, rfl, rfl⟩
    ?_ ?_ ?_ rfl ?_
  · exact lookup_adjust_of_some he fun _ =>
      .loading h.flights.length h.cache.generations h.now
  · exact (alike_adjust h.cache r _).distinct ho.distinct
  · exact (h.view.length_begin r _).symm
  · rw [CacheView.answer_of_expired (v := h.view) he hx, hr]
    rfl

/-- So it does where a live entry is refreshed. -/
theorem asked_of_refreshed (ho : h.Orderly) (he : h.cache.find? r = some e)
    (hx : e.isExpired h.now h.cache.config.expire = false)
    (hn : e.needsRefresh h.now h.cache.config.refresh = true) : h.Asked r := by
  obtain ⟨stats, hask⟩ := h.cache.askLive_eq_refresh r hn
  rw [← ask_of_live he hx, ho.loads] at hask
  refine asked_of_eq hask (CacheView.ask_of_refreshed (v := h.view) he hx hn) ⟨rfl, rfl, rfl⟩
    ?_ ?_ ?_ rfl ?_
  · exact lookup_adjust_of_some he fun _ =>
      { e with accessedAt := h.now, refresh := some h.flights.length }
  · exact (alike_adjust h.cache r _).distinct ho.distinct
  · exact (h.view.length_begin r _).symm
  · exact (CacheView.answer_of_live (v := h.view) he hx).symm

/-- So it does where a live entry is only used. -/
theorem asked_of_live (ho : h.Orderly) (he : h.cache.find? r = some e)
    (hx : e.isExpired h.now h.cache.config.expire = false)
    (hn : e.needsRefresh h.now h.cache.config.refresh = false) : h.Asked r := by
  obtain ⟨stats, hask⟩ := h.cache.askLive_eq_touch r hn
  rw [← ask_of_live he hx] at hask
  refine asked_of_eq hask (CacheView.ask_of_live (v := h.view) he hx hn)
    ⟨rfl, rfl, (List.append_nil _).symm⟩ ?_ ?_ ho.loads rfl ?_
  · exact lookup_adjust_of_some he fun e => { e with accessedAt := h.now }
  · exact (alike_adjust h.cache r _).distinct ho.distinct
  · exact (CacheView.answer_of_live (v := h.view) he hx).symm

/-- Asking for a request does to a view what it says, whatever the cache has for it. -/
theorem asked (ho : h.Orderly) (r : Request) : h.Asked r := by
  cases he : h.cache.find? r with
  | none => exact asked_of_absent ho he
  | some e =>
      cases hx : e.isExpired h.now h.cache.config.expire with
      | true =>
          cases hr : e.refresh with
          | none => exact asked_of_expired ho he hx hr
          | some load => exact asked_of_joined ho he hx hr
      | false =>
          cases hn : e.needsRefresh h.now h.cache.config.refresh with
          | true => exact asked_of_refreshed ho he hx hn
          | false => exact asked_of_live ho he hx hn

/-- A get asks, and then makes room. -/
theorem get_eq (h : History) (r : Request) :
    h.get r = { h.ask r with cache := (h.ask r).cache.enforceCapacity.1 } := rfl

/-- The load that a caller gets, in terms of the view. -/
theorem answer_eq (ho : h.Orderly) (r : Request) :
    h.answer r = h.view.answer h.cache.config r :=
  (asked ho r).answer

end History

/-! ## The end of a load -/

/-- What the end of a load leaves of the entry of its request.  An entry of another generation stays
    as it is. -/
def LoadEnd.leaves (how : LoadEnd) (now : Nat) (t : Ticket) (e : CacheEntry) :
    Option CacheEntry :=
  if e.generation = t.generation then
    match how with
    | .gave (.ok _) _ => some { e with load := t.load, writtenAt := some now, refresh := none }
    | .gave (.error _) _ => if e.writtenAt.isSome then some { e with refresh := none } else none
    | .died _ => some e
  else some e

section

variable {e : CacheEntry} {t : Ticket} {now : Nat}

/-- A load leaves an entry of another generation as it is. -/
theorem LoadEnd.leaves_of_ne (how : LoadEnd) (hg : e.generation ≠ t.generation) :
    how.leaves now t e = some e :=
  if_neg hg

/-- A load that came to no outcome leaves every entry as it is. -/
theorem LoadEnd.leaves_of_died (how : TaskEnd) :
    (LoadEnd.died how).leaves now t e = some e := by
  rw [leaves]
  split <;> rfl

/-- A response becomes the value of the entry. -/
theorem LoadEnd.leaves_of_ok (hg : e.generation = t.generation) (response : Response)
    (length : Duration) : (LoadEnd.gave (.ok response) length).leaves now t e
      = some { e with load := t.load, writtenAt := some now, refresh := none } :=
  if_pos hg

/-- A failure ends the refresh of an entry that has a value, and removes one that has none. -/
theorem LoadEnd.leaves_of_error (hg : e.generation = t.generation) (cause : Failure)
    (length : Duration) : (LoadEnd.gave (.error cause) length).leaves now t e
      = if e.writtenAt.isSome then some { e with refresh := none } else none :=
  if_pos hg

/-- An entry with a value keeps it when a load ends, or has a new one. -/
theorem LoadEnd.written_of_leaves (how : LoadEnd) (now : Nat) (t : Ticket) {w : Nat}
    (hw : e.writtenAt = some w) :
    ∃ e', how.leaves now t e = some e' ∧ (e'.writtenAt = some w ∨ e'.writtenAt = some now) := by
  by_cases hg : e.generation = t.generation
  · cases how with
    | died how => exact ⟨e, leaves_of_died how, Or.inl hw⟩
    | gave outcome length =>
        cases outcome with
        | ok response => exact ⟨_, leaves_of_ok hg response length, Or.inr rfl⟩
        | error cause =>
            refine ⟨{ e with refresh := none }, ?_, Or.inl hw⟩
            rw [leaves_of_error hg, hw]
            exact if_pos rfl
  · exact ⟨e, leaves_of_ne how hg, Or.inl hw⟩

/-- The entries after a load ended. -/
theorem find?_reach (how : LoadEnd) {c : Cache} {r : Request} :
    (how.reach c now t).find? r
      = if r = t.request then (c.find? t.request).bind (how.leaves now t) else c.find? r := by
  by_cases hr : r = t.request
  · rw [if_pos hr, hr]
    cases how with
    | died how =>
        show c.find? t.request = _
        cases c.find? t.request with
        | none => rfl
        | some e =>
            have hdied : (LoadEnd.died how).leaves now t e = some e := LoadEnd.leaves_of_died how
            exact hdied.symm
    | gave outcome length =>
        cases outcome with
        | ok response =>
            refine (find?_finish_ok response length).trans ((if_pos rfl).trans ?_)
            cases c.find? t.request with
            | none => rfl
            | some e =>
                by_cases hg : e.generation = t.generation
                · rw [Option.bind_some, LoadEnd.leaves_of_ok hg, Option.map_some, if_pos hg]
                · rw [Option.bind_some, LoadEnd.leaves_of_ne _ hg, Option.map_some, if_neg hg]
        | error cause =>
            refine (find?_finish_error cause length).trans ((if_pos rfl).trans ?_)
            cases c.find? t.request with
            | none => rfl
            | some e =>
                by_cases hg : e.generation = t.generation
                · rw [Option.bind_some, Option.bind_some, LoadEnd.leaves_of_error hg, if_pos hg]
                · rw [Option.bind_some, Option.bind_some, LoadEnd.leaves_of_ne _ hg, if_neg hg]
  · rw [if_neg hr]
    cases how with
    | died how => rfl
    | gave outcome length => exact find?_finish_of_ne outcome length hr

end

namespace CacheView

variable {load : Nat} {f : Flight}

/-- Ends a load, if it is running. -/
def finish (v : CacheView) (load : Nat) (how : LoadEnd) : CacheView :=
  match v.flight? load with
  | none => v
  | some f =>
    if f.landing.isNone then
      (v.land load f how).put f.ticket.request
        ((v.find? f.ticket.request).bind (how.leaves v.now f.ticket))
    else v

/-- The load of a running flight lands, and deals with the entry of its request. -/
theorem finish_of_running (hf : v.flight? load = some f) (hr : f.landing = none) (how : LoadEnd) :
    v.finish load how = (v.land load f how).put f.ticket.request
      ((v.find? f.ticket.request).bind (how.leaves v.now f.ticket)) := by
  rw [finish, hf]
  exact if_pos (by rw [hr]; rfl)

/-- Nothing comes of a load that does not run. -/
theorem finish_of_not_running (hn : ∀ f, v.flight? load = some f → f.landing ≠ none)
    (how : LoadEnd) : v.finish load how = v := by
  rw [finish]
  split
  · rfl
  · rename_i f hf
    exact if_neg (by rw [Option.isNone_iff_eq_none]; exact hn f hf)

/-- A load either is running or is not. -/
theorem running_or_not (v : CacheView) (load : Nat) :
    (∃ f, v.flight? load = some f ∧ f.landing = none) ∨
      ∀ f, v.flight? load = some f → f.landing ≠ none := by
  by_cases hrun : ∃ f, v.flight? load = some f ∧ f.landing = none
  · exact Or.inl hrun
  · exact Or.inr fun f hf hr => hrun ⟨f, hf, hr⟩

/-- Putting the entry that a request has changes nothing. -/
theorem put_self {r : Request} {x : Option CacheEntry} (h : v.find? r = x) : v.put r x = v := by
  refine eq_of_parts rfl rfl rfl fun r' => ?_
  by_cases hr : r' = r
  · rw [hr, put_find?_self, h]
  · exact put_find?_of_ne v x hr

/-- An end that leaves every entry as it is. -/
theorem finish_of_kept (hf : v.flight? load = some f) (hr : f.landing = none) {how : LoadEnd}
    (h : ∀ e, v.find? f.ticket.request = some e → how.leaves v.now f.ticket e = some e) :
    v.finish load how = v.land load f how := by
  rw [finish_of_running hf hr]
  refine put_self (v := v.land load f how) ?_
  show v.find? f.ticket.request = _
  cases he : v.find? f.ticket.request with
  | none => rfl
  | some e => exact (h e he).symm

/-- Drops what is stale. -/
def sweep (config : CacheConfig) (v : CacheView) : CacheView :=
  { v with find? := fun r => (v.find? r).filter fun e =>
      !(e.isExpired v.now config.expire && e.refresh.isNone) }

/-- Lets an event happen that needs no room. -/
def next (config : CacheConfig) (v : CacheView) : CacheEvent → CacheView
  | .pass nanos => { v with now := v.now + nanos }
  | .get r => v.ask config r
  | .invalidate r => v.put r none
  | .invalidateAll => { v with find? := fun _ => none }
  | .purge => v.sweep config
  | .land load how => v.finish load how

end CacheView

namespace History

/-- A load that is not running cannot land. -/
theorem land_of_not_running {load : Nat} (how : LoadEnd)
    (hn : ∀ f, h.flight? load = some f → f.landing ≠ none) : h.land load how = h := by
  rw [land]
  split
  · rfl
  · rename_i f hf
    exact if_neg (by rw [Option.isNone_iff_eq_none]; exact hn f hf)

/-- A load that is running lands. -/
theorem land_of_running {load : Nat} {f : Flight} (how : LoadEnd)
    (hf : h.flight? load = some f) (hr : f.landing = none) :
    h.land load how = { h with
      cache := how.reach h.cache h.now f.ticket
      flights := h.flights.set load (f.land h.now how) } := by
  rw [land, hf]
  exact if_pos (by rw [hr]; rfl)

/-- What a cache hears of the end of a load leaves its books alone. -/
theorem alike_reach (how : LoadEnd) (c : Cache) (now : Nat) (t : Ticket) :
    Alike c (how.reach c now t) := by
  cases how with
  | gave outcome length => exact alike_finish c now t outcome length
  | died how => exact Alike.refl c

/-- A load runs, or it does not. -/
theorem running_or_not (h : History) (load : Nat) :
    (∃ f, h.flight? load = some f ∧ f.landing = none) ∨
      ∀ f, h.flight? load = some f → f.landing ≠ none :=
  h.view.running_or_not load

/-- The end of a load does to a view what it says. -/
theorem view_land (h : History) (load : Nat) (how : LoadEnd) :
    (h.land load how).view = h.view.finish load how := by
  rcases h.running_or_not load with ⟨f, hf, hr⟩ | hn
  · rw [land_of_running how hf hr, CacheView.finish_of_running (v := h.view) hf hr]
    exact CacheView.eq_of_parts rfl (alike_reach how _ _ _).generations rfl
      fun r => find?_reach how
  · rw [land_of_not_running how hn, CacheView.finish_of_not_running (v := h.view) hn]

/-- **AN EVENT DOES TO A VIEW WHAT IT SAYS**, if it is not a get for which room has to be made. -/
theorem view_step (ho : h.Orderly) {ev : CacheEvent}
    (hroom : ∀ r, ev = .get r → (h.ask r).cache.enforceCapacity.1 = (h.ask r).cache) :
    (h.step ev).view = h.view.next h.cache.config ev := by
  cases ev with
  | pass nanos => rfl
  | get r =>
      show (h.get r).view = _
      rw [get_eq, hroom r rfl]
      exact (asked ho r).view
  | invalidate r => exact CacheView.eq_of_parts rfl rfl rfl fun r' => find?_invalidate
  | invalidateAll => rfl
  | purge =>
      exact CacheView.eq_of_parts rfl (alike_purge _ _).generations rfl fun r =>
        find?_purge ho.distinct
  | land load how => exact view_land h load how

end History

end Courier
