import Courier.Proofs.Engine.Clients

/-!
# Futures — what the callers of a client are told

What a future tells at any point of its life follows from the events so far (`Told`): it is decided
by the first that would decide it, and a result is handed out to the first who asks.  The futures of
a client go through such events and nothing else (`Client.matures`), and whoever cancels one, polls
it or waits for it is told what the future tells (`speaks`), of a cancel for good
(`Client.told_for_good`).  Both together are `decided_once`.
-/

namespace Courier

variable {α : Type}

namespace Engine

variable {e e' : Engine α} {config : Config} {requests : List (Nat × Request)}
  {events : List (EngineEvent α)} {future : Nat} {c : Completion α}

/-- Futures go on by what can happen to them, and new ones have begun like any future. -/
structure Matures (e e' : Engine α) : Prop where
  old : ∀ (future : Nat) (c : Completion α), e.futures[future]? = some c →
    ∃ more, e'.futures[future]? = some (c.after more)
  new : ∀ (future : Nat) (c : Completion α), e.futures[future]? = none → e'.futures[future]? = some c →
    ∃ born past, c = (Completion.start born).after past

theorem Matures.of_eq (h : e'.futures = e.futures) : Matures e e' := by
  refine ⟨fun future c hc => ⟨[], h ▸ hc⟩, fun future c hnone hc => ?_⟩
  rw [h] at hc
  cases hnone.symm.trans hc

theorem Matures.trans {e'' : Engine α} (h : Matures e e') (h' : Matures e' e'') :
    Matures e e'' := by
  refine ⟨fun future c hc => ?_, fun future c hnone hc => ?_⟩
  · obtain ⟨more, hmore⟩ := h.old future c hc
    obtain ⟨more', hmore'⟩ := h'.old future _ hmore
    exact ⟨more ++ more', by rw [hmore', Completion.after_append]⟩
  · cases hmid : e'.futures[future]? with
    | none => exact h'.new future c hmid hc
    | some c' =>
        obtain ⟨born, past, rfl⟩ := h.new future c' hnone hmid
        obtain ⟨more, hmore⟩ := h'.old future _ hmid
        cases hc.symm.trans hmore
        exact ⟨born, past ++ more, (Completion.after_append _ past more).symm⟩

/-- Something happens to one future. -/
theorem Matures.set {own : Completion α} (hf : e.futures[future]? = some own)
    (ev : FutureEvent α) (h : e'.futures = e.futures.set future (own.step ev).1) : Matures e e' := by
  have hlt := (List.getElem?_eq_some_iff.mp hf).1
  refine ⟨fun other c hc => ?_, fun other c hnone hc => ?_⟩
  · rw [h]
    by_cases heq : other = future
    · subst heq
      cases hf.symm.trans hc
      exact ⟨[ev], List.getElem?_set_self hlt⟩
    · exact ⟨[], (List.getElem?_set_ne (Ne.symm heq)).trans hc⟩
  · have hge := List.getElem?_eq_none_iff.mp hnone
    rw [h, List.getElem?_eq_none (by rwa [List.length_set])] at hc
    cases hc

/-- A future is added that has begun like any future. -/
theorem Matures.add (born : Option (Outcome α)) (past : List (FutureEvent α))
    (h : e'.futures = e.futures ++ [(Completion.start born).after past]) : Matures e e' := by
  refine ⟨fun other c hc => ⟨[], ?_⟩, fun other c hnone hc => ⟨born, past, ?_⟩⟩
  · rw [h, List.getElem?_append_left (List.getElem?_eq_some_iff.mp hc).1]
    exact hc
  · rw [h, List.getElem?_append_right (List.getElem?_eq_none_iff.mp hnone)] at hc
    exact List.mem_singleton.mp (List.mem_of_getElem? hc)

theorem Turn.matures {n : Nat} (h : Turn e n e') : Matures e e' := by
  cases h with
  | idle hr => exact .of_eq rfl
  | skip hr hn hrests => exact .of_eq hrests.futures
  | stay hn hr ht ha hs hrests => exact .of_eq hrests.futures
  | @leave t l remains e' hn hr ht he hrests hwoken =>
      have hfutures := hrests.futures
      cases remains with
      | load load outcome => exact .of_eq hfutures
      | nothing => exact .of_eq hfutures
      | future own result =>
          change e'.futures = e.futures.modify own fun c => (c.complete result).1 at hfutures
          rw [List.modify_eq_set_getElem?] at hfutures
          cases hc : e.futures[own]? with
          | none =>
              rw [hc] at hfutures
              exact .of_eq hfutures
          | some c =>
              rw [hc] at hfutures
              exact .set hc (.finish result) hfutures

theorem Act.matures {asked : Option Request} (h : Act e asked e') : Matures e e' := by
  cases h with
  | rest hr => exact .of_eq hr.futures
  | spawn hs hrests =>
      have hfutures := hrests.futures
      cases hs with
      | dispatch request handler => exact .add none [.attach e.spawned] hfutures
      | deliver hl => exact .add none [.attach e.spawned] hfutures
      | load ticket => exact .of_eq (hfutures.trans (List.append_nil _))
      | clean => exact .of_eq (hfutures.trans (List.append_nil _))
  | cancel hf hc hrests hwoken =>
      refine .set hf .cancel (hrests.futures.trans ?_)
      rw [(Completion.step_of_decides hc rfl).1]
      rfl
  | ask hf hev hrests => exact .set hf _ hrests.futures
  | decide hrests => exact .add (some _) [] hrests.futures
  | close ho hrests hwoken => exact .of_eq hrests.futures

/-- **THE FUTURES OF A CLIENT GO ON LIKE FUTURES**, whatever happens to it. -/
theorem Client.matures (h : Client config requests e) (hc : OfClient events) :
    Matures e (e.steps events) :=
  h.along (fun _ => .of_eq rfl) Matures.trans (fun _ ht => ht.matures) (fun _ ha => ha.matures) hc

/-- Whoever cancels a future, polls it or waits for it is told what the future tells, and it goes on
    like that. -/
structure Speaks (e : Engine α) (future : Nat) (c : Completion α) : Prop where
  cancel : .decided (e.cancel future).2 = (c.step .cancel).2 ∧
    (e.cancel future).1.futures[future]? = some (c.step .cancel).1
  poll : ∀ waker, .ofAnswer (e.pollFuture future waker).2 = (c.step (.poll waker)).2 ∧
    (e.pollFuture future waker).1.futures[future]? = some (c.step (.poll waker)).1
  wait : .gave (e.waitFuture future).2 = (c.step .waitTimeout).2 ∧
    (e.waitFuture future).1.futures[future]? = some (c.step .waitTimeout).1

theorem speaks (hc : e.futures[future]? = some c) : Speaks e future c := by
  have hlt := (List.getElem?_eq_some_iff.mp hc).1
  refine ⟨?_, fun waker => ?_, ?_⟩
  · have hdecides : (FutureEvent.cancel : FutureEvent α).decides = some .cancel := rfl
    by_cases hpending : c.state = .pending
    · obtain ⟨htrue, hrests, -⟩ := e.rests_cancel hc hpending
      obtain ⟨hstep, hreply⟩ := Completion.step_of_decides hpending hdecides
      rw [htrue, hreply, hstep, hrests.futures]
      exact ⟨rfl, List.getElem?_set_self hlt⟩
    · rw [Completion.step_of_done hpending hdecides, e.cancel_of_done]
      · exact ⟨rfl, hc⟩
      · rintro c' hc'
        cases hc.symm.trans hc'
        exact hpending
  · rw [pollFuture, hc]
    exact ⟨rfl, List.getElem?_set_self hlt⟩
  · rw [waitFuture, hc]
    exact ⟨rfl, List.getElem?_set_self hlt⟩

/-- A future that is cancelled tells so to everyone who asks. -/
theorem told_of_cancelled {c : Completion α} (hf : e.futures[future]? = some c)
    (hc : c.state = .cancelled) :
    (∀ waker, (e.pollFuture future waker).2 = some (.error .cancelled)) ∧
      (e.waitFuture future).2 = .error .cancelled := by
  obtain ⟨state, waker, task⟩ := c
  cases hc
  refine ⟨fun waker => ?_, ?_⟩
  · rw [pollFuture, hf]
    rfl
  · rw [waitFuture, hf]
    rfl

/-- A future that is cancelled tells so for good, whatever happens after that. -/
theorem Client.told_for_good (h : Client config requests e)
    (hcancel : (e.cancel future).2 = true) (hc : OfClient events) :
    (∀ waker, (((e.cancel future).1.steps events).pollFuture future waker).2
      = some (.error .cancelled)) ∧
    (((e.cancel future).1.steps events).waitFuture future).2 = .error .cancelled := by
  obtain ⟨c, hf, hpending⟩ := e.pending_of_cancel hcancel
  have hcancelled : (e.cancel future).1.futures[future]? = some ⟨.cancelled, none, none⟩ := by
    rw [(e.rests_cancel hf hpending).2.1.futures]
    exact List.getElem?_set_self (List.getElem?_eq_some_iff.mp hf).1
  obtain ⟨more, hmore⟩ := ((h.cancel future).matures hc).old future _ hcancelled
  have hdone : (⟨.cancelled, none, none⟩ : Completion α).state ≠ .pending := by simp
  exact told_of_cancelled hmore ((Completion.after_of_done hdone more).2 rfl)

/-- **A FUTURE IS DECIDED ONCE**, by the first event that would decide it, whether a result, a guard
    that speaks for a task which is no more, or a cancel; and what is told to those who cancel it,
    poll it or wait for it follows from that.  Every future of a client is such a future, after some
    events, whatever has happened to the client; so it goes on, and so it speaks. -/
theorem decided_once {hasEngine : Bool} {parts : Parts} {present : Response → α} {epoch : Int}
    {e₀ : Engine α} (h : ofConfig config hasEngine parts present epoch = .ok e₀)
    (hc : OfClient events) :
    (∀ (born : Option (Outcome α)) (past : List (FutureEvent α)), Told born past) ∧
    ∀ future c, (e₀.steps events).futures[future]? = some c →
      ∃ born past, c = (Completion.start born).after past ∧ Speaks (e₀.steps events) future c ∧
        ∀ later, OfClient later → ∃ more, ((e₀.steps events).steps later).futures[future]?
          = some ((Completion.start born).after (past ++ more)) := by
  have hopened := client_ofConfig h
  refine ⟨Completion.told, fun future c hfuture => ?_⟩
  -- a client is built with no futures, so every one of them came later
  have hborn : ∃ born past, c = (Completion.start born).after past := by
    have hmatures := hopened.matures hc
    cases hold : e₀.futures[future]? with
    | none => exact hmatures.new future c hold hfuture
    | some c₀ =>
        rw [ofConfig] at h
        cases hv : config.check hasEngine with
        | error cause =>
            rw [hv] at h
            cases h
        | ok _ =>
            rw [hv] at h
            cases h
            cases hold
  obtain ⟨born, past, rfl⟩ := hborn
  refine ⟨born, past, rfl, speaks hfuture, fun later hl => ?_⟩
  obtain ⟨more, hmore⟩ := ((hopened.steps hc).matures hl).old future _ hfuture
  exact ⟨more, by rw [hmore, Completion.after_append]⟩

/-- The future of the rival that waits is not decided, and whoever asks is told so. -/
theorem decided_once_of_rivals :
    ofConfig narrow true Retry.wavering id 0 = .ok narrowEngine ∧ OfClient rivals ∧
    ∃ c born past, (narrowEngine.steps rivals).futures[1]? = some c ∧ c.isPending = true ∧
      c = (Completion.start born).after past ∧ Told born past ∧
      Speaks (narrowEngine.steps rivals) 1 c := by
  have hc : OfClient rivals := by simp [OfClient, rivals, EngineEvent.isClient]
  obtain ⟨htold, hfutures⟩ := decided_once ofConfig_narrow hc
  have hpending : (narrowEngine.steps rivals).futures[1]?.any (·.isPending) = true := by
    decide +kernel
  cases hfuture : (narrowEngine.steps rivals).futures[1]? with
  | none =>
      rw [hfuture] at hpending
      cases hpending
  | some c =>
      rw [hfuture] at hpending
      obtain ⟨born, past, hborn, hspeaks, -⟩ := hfutures 1 c hfuture
      exact ⟨ofConfig_narrow, hc, c, born, past, rfl, hpending, hborn, htold born past, hspeaks⟩

end Engine

end Courier
