import Courier.Proofs.Cache.Answers

/-!
# Freshness — values are served while they live, and no longer

A response is served at once if and only if the entry of the request has one that is younger than
values may get.  Everybody else gets a load that has not ended, or one that will never give a
response.  No refresh changes this: while it runs, and when it fails, the value stays what it is and
keeps the time it was written.
-/

namespace Courier

namespace History

variable {h : History} {r : Request} {load : Nat} {f : Flight}

/-- What the callers of a load get once its loader has given a response. -/
theorem result?_of_gave (hf : h.flight? load = some f) {time : Nat} {response : Response}
    {length : Duration} (hl : f.landing = some ⟨time, .gave (.ok response) length⟩) :
    h.result? load = some (.ok response) := by
  obtain ⟨ticket, started, landing⟩ := f
  cases hl
  rw [result?, hf]
  rfl

/-- What the callers of a load get once it has died. -/
theorem result?_of_died (hf : h.flight? load = some f) {time : Nat} {how : TaskEnd}
    (hl : f.landing = some ⟨time, .died how⟩) :
    h.result? load = some (.error (.sharedLoad (.taskFailed how))) := by
  obtain ⟨ticket, started, landing⟩ := f
  cases hl
  rw [result?, hf]
  rfl

/-- A fresh response is there without waiting. -/
theorem result?_of_fresh {response : Response} (hfresh : h.Fresh r response) :
    h.result? (h.answer r) = some (.ok response) := by
  obtain ⟨e, w, f, length, -, -, hf, hl, -⟩ := hfresh
  exact result?_of_gave hf hl

/-- What a load that has landed comes to is known from when the next caller asks. -/
theorem landed_get_steps (ho : h.Orderly) (later : List CacheEvent)
    (hf : h.flight? load = some f) (hl : f.landing ≠ none) :
    ((h.get r).steps later).flight? load = some f :=
  landed_steps ho (.get r :: later) hf hl

/-- **FRESHNESS.**  Whoever gets a response in the end gets a fresh one at once, or has asked before
    its load ended; and while the entry of a request has a value that has not expired, whoever asks
    gets it at once. -/
theorem freshness (config : CacheConfig) (events : List CacheEvent) (r : Request) (h : History)
    (hh : h = run config events) :
    (∀ later response, ((h.get r).steps later).result? (h.answer r) = some (.ok response) →
      (h.Fresh r response ∧ h.result? (h.answer r) = some (.ok response)) ∨ h.Pending r) ∧
    ∀ e w, h.cache.find? r = some e → e.writtenAt = some w → h.now - w < config.expire.nanos →
      h.answer r = e.load ∧
        ∃ response, h.Fresh r response ∧ h.result? (h.answer r) = some (.ok response) := by
  have ho : h.Orderly := hh ▸ orderly_run config events
  have hs : h.view.Sound := hh ▸ sound_run config events
  have hc : h.cache.config = config := hh ▸ config_run config events
  constructor
  · intro later response hres
    by_cases hdead : h.Abandoned r
    · -- a load that died never gives a response
      obtain ⟨f, time, how, hf, hl⟩ := hdead
      have hf' := landed_get_steps (r := r) ho later hf (hl ▸ Option.some_ne_none _)
      exact nomatch hres.symm.trans (result?_of_died hf' hl)
    · rcases (fresh_or_pending_iff ho hs r).mpr hdead with ⟨response', hfresh⟩ | hpending
      · have ⟨e, w, f, length, _, _, hf, hl, _⟩ := hfresh
        have hf' := landed_get_steps (r := r) ho later hf (hl ▸ Option.some_ne_none _)
        cases hres.symm.trans (result?_of_gave hf' hl)
        exact Or.inl ⟨hfresh, result?_of_fresh hfresh⟩
      · exact Or.inr hpending
  · intro e w he hw hlt
    obtain ⟨ha, response, hfresh⟩ := fresh_of_written ho hs he hw (hc ▸ hlt)
    exact ⟨ha, response, hfresh, result?_of_fresh hfresh⟩

/-- After a refresh that failed the value is served until it expires, and then no more. -/
theorem freshness_after_failed_refresh :
    let h := run ⟨30, some 10, 1, false, 60000⟩ [.get default,
      .land 0 (.gave (.ok default) ⟨0⟩), .pass 15000000, .get default,
      .land 1 (.gave (.error .cancelled) ⟨0⟩), .pass 14999999]
    let h' := h.step (.pass 1)
    (h.answer default = 0 ∧
      ∃ response, h.Fresh default response ∧ h.result? (h.answer default) = some (.ok response)) ∧
    ((h'.Fresh default default ∧ h'.result? (h'.answer default) = some (.ok default)) ∨
      h'.Pending default) ∧ h'.result? (h'.answer default) = none := by
  refine ⟨?_, ?_, rfl⟩
  · exact (freshness ⟨30, some 10, 1, false, 60000⟩ _ default _ rfl).2
      ⟨0, 0, some 0, 15000000, none⟩ 0 rfl rfl (by decide)
  · exact (freshness ⟨30, some 10, 1, false, 60000⟩ [.get default,
      .land 0 (.gave (.ok default) ⟨0⟩), .pass 15000000, .get default,
      .land 1 (.gave (.error .cancelled) ⟨0⟩), .pass 14999999, .pass 1] default _ rfl).1
      [.land 2 (.gave (.ok default) ⟨0⟩)] default rfl

end History

end Courier
