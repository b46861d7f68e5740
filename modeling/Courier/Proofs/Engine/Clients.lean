import Courier.Proofs.Engine.Awaiting
import Courier.Proofs.Engine.Onward

/-!
# Clients — what holds of a client, whatever has happened to it

Calls, turns, ticks, cancels and closes may follow each other in any order.  Whatever they were, the
tasks of the client stand where they should, its cache has a history, and nobody waits in vain
(`Client.steps`); nothing has gone back (`Client.onward`).

Whoever is in the queue stays there until it has its turn, and when that is, nobody knows.  But what
acts and the turns of others keep is still so when the turn comes, and so what comes about in such a
turn comes about once there is one (`Client.comes`, `Client.comes_in_turn`).
-/

namespace Courier

variable {α : Type}

namespace Engine

/-- **WHAT HOLDS OF A CLIENT** that was configured like this, and has spawned tasks to dispatch these
    requests. -/
structure Client (config : Config) (requests : List (Nat × Request)) (e : Engine α) : Prop where
  standing : Standing config.retryPoolSize requests e
  recorded : e.Recorded config.cache
  awaited : Awaited e

/-- Events of a client alone. -/
abbrev OfClient (events : List (EngineEvent α)) : Prop :=
  ∀ ev ∈ events, ev.isClient = true

variable {e e' : Engine α} {config : Config} {requests : List (Nat × Request)}
  {ev : EngineEvent α} {events : List (EngineEvent α)}

/-- The engine of a configuration is that of a client that was asked nothing yet. -/
theorem client_ofConfig {hasEngine : Bool} {parts : Parts} {present : Response → α} {epoch : Int}
    (h : ofConfig config hasEngine parts present epoch = .ok e) : Client config [] e := by
  refine ⟨standing_ofConfig h, recorded_ofConfig h, ?_⟩
  rw [ofConfig] at h
  cases hv : config.check hasEngine with
  | error cause =>
      rw [hv] at h
      cases h
  | ok _ =>
      rw [hv] at h
      cases h
      have hnew : Awaited (new parts (fun request => dispatch request .response) present
          (.start epoch config.retryPoolSize) config.cache) :=
        List.forall_mem_nil _
      exact (hnew.act (act_startCleaner _ rfl)).rests (rests_tell _ _ _)

/-- Acts keep it so that every future has someone to decide it. -/
theorem Awaited.acts (h : Awaited e) (ha : Acts e requests e') : Awaited e' := by
  induction ha with
  | refl e => exact h
  | step ha hs ih => exact ih (h.act ha)

/-- An event of a client is a turn, or acts. -/
theorem Client.cases (h : Client config requests e) (hc : ev.isClient = true) :
    (∃ n, ev = .turn n ∧ Turn e n (e.step ev) ∧ e.dispatched ev = []) ∨
      (ev.isTurn = false ∧ Acts e (e.dispatched ev) (e.step ev)) :=
  step_cases h.recorded h.standing.running h.standing.numbers hc

/-- A step of a client is a step of a client, with the requests it dispatches. -/
theorem Client.step (h : Client config requests e) (hc : ev.isClient = true) :
    Client config (requests ++ e.dispatched ev) (e.step ev) := by
  have hrecorded := h.recorded.continues (continues_step e ev)
  rcases h.cases hc with ⟨n, -, hturn, hnone⟩ | ⟨-, hacts⟩
  · rw [hnone, List.append_nil]
    exact ⟨h.standing.turn hturn, hrecorded, h.awaited.turn hturn⟩
  · exact ⟨h.standing.acts hacts, hrecorded, h.awaited.acts hacts⟩

/-- To cancel a future dispatches nothing. -/
theorem Client.cancel (h : Client config requests e) (future : Nat) :
    Client config requests (e.cancel future).1 := by
  have hev : (EngineEvent.cancel future : EngineEvent α).isClient = true := rfl
  have hstep := h.step hev
  rwa [show e.dispatched (.cancel future) = [] from rfl, List.append_nil] at hstep

/-- **WHATEVER HAPPENS TO A CLIENT, IT IS A CLIENT STILL.** -/
theorem Client.steps (h : Client config requests e) (hc : OfClient events) :
    Client config (requests ++ e.dispatches events) (e.steps events) := by
  induction events generalizing e requests with
  | nil => exact (List.append_nil requests).symm ▸ h
  | cons ev rest ih =>
      obtain ⟨hev, hrest⟩ := List.forall_mem_cons.mp hc
      rw [dispatches, ← List.append_assoc]
      exact ih (h.step hev) hrest

/-- What lies between two engines one turn or one act apart, and goes on from one to the next, lies
    between a client and what becomes of it. -/
theorem Client.along {R : Engine α → Engine α → Prop} (hrefl : ∀ e, R e e)
    (htrans : ∀ {e e' e''}, R e e' → R e' e'' → R e e'')
    (hturn : ∀ {requests e n e'}, Standing config.retryPoolSize requests e → Turn e n e' → R e e')
    (hact : ∀ {requests e asked e'}, Standing config.retryPoolSize requests e → Act e asked e' →
      R e e') (h : Client config requests e) (hc : OfClient events) : R e (e.steps events) := by
  have hacts : ∀ {requests more} {e e' : Engine α}, Standing config.retryPoolSize requests e →
      Acts e more e' → R e e' := by
    intro requests more e e' hs ha
    induction ha generalizing requests with
    | refl e => exact hrefl e
    | step ha _ ih => exact htrans (hact hs ha) (ih (hs.act ha))
  induction events generalizing e requests with
  | nil => exact hrefl e
  | cons ev rest ih =>
      obtain ⟨hev, hrest⟩ := List.forall_mem_cons.mp hc
      refine htrans ?_ (ih (h.step hev) hrest)
      rcases h.cases hev with ⟨n, -, hturned, -⟩ | ⟨-, hacted⟩
      · exact hturn h.standing hturned
      · exact hacts h.standing hacted

/-- **WHATEVER HAPPENS TO A CLIENT, NOTHING GOES BACK.** -/
theorem Client.onward (h : Client config requests e) (hc : OfClient events) :
    Onward e (e.steps events) :=
  h.along (fun e => .of_rests (.refl e)) Onward.trans (fun hs ht => hs.onward_turn ht)
    (fun hs ha => hs.onward_act ha) hc

/-! ## The queue -/

/-- An act sends nobody out of the queue. -/
theorem Act.queues {asked : Option Request} (h : Act e asked e') {n : Nat} (hn : n ∈ e.ready) :
    n ∈ e'.ready := by
  cases h with
  | rest hr => exact hr.mem_ready hn
  | spawn hs hrests => exact hrests.mem_ready (List.mem_append_left _ hn)
  | cancel hf hc hrests hwoken => exact hrests.mem_ready hn
  | ask hf hev hrests => exact hrests.mem_ready hn
  | decide hrests => exact hrests.mem_ready hn
  | close ho hrests hwoken => exact hrests.mem_ready hn

/-- Between turns nobody leaves the queue. -/
theorem Acts.queues (h : Acts e requests e') {n : Nat} (hn : n ∈ e.ready) : n ∈ e'.ready := by
  induction h with
  | refl e => exact hn
  | step h hs ih => exact ih (h.queues hn)

/-! ## What comes about -/

/-- In a turn of this task among some events, this comes about. -/
def Comes (n : Nat) (e : Engine α) (events : List (EngineEvent α))
    (happens : Engine α → Engine α → Prop) : Prop :=
  ∃ before after, events = before ++ .turn n :: after ∧
    happens (e.steps before) ((e.steps before).turn n)

section Comes

variable {n : Nat} {happens happens' : Engine α → Engine α → Prop}

/-- What comes after one event more still comes. -/
theorem Comes.later (h : Comes n (e.step ev) events happens) : Comes n e (ev :: events) happens := by
  obtain ⟨before, after, rfl, hcomes⟩ := h
  exact ⟨ev :: before, after, rfl, hcomes⟩

/-- So it does after any events more. -/
theorem Comes.prepend {before : List (EngineEvent α)}
    (h : Comes n (e.steps before) events happens) : Comes n e (before ++ events) happens := by
  obtain ⟨between, after, rfl, hcomes⟩ := h
  refine ⟨before ++ between, after, (List.append_assoc _ _ _).symm, ?_⟩
  rw [steps_append]
  exact hcomes

/-- It comes whatever follows. -/
theorem Comes.append (h : Comes n e events happens) (more : List (EngineEvent α)) :
    Comes n e (events ++ more) happens := by
  obtain ⟨before, after, rfl, hcomes⟩ := h
  exact ⟨before, after ++ more, by simp, hcomes⟩

/-- What comes with it comes too. -/
theorem Comes.mono (h : Comes n e events happens)
    (hmono : ∀ {x x'}, happens x x' → happens' x x') : Comes n e events happens' := by
  obtain ⟨before, after, heq, hcomes⟩ := h
  exact ⟨before, after, heq, hmono hcomes⟩

variable {P : List (Nat × Request) → Engine α → Prop}

/-- **WHAT COMES ABOUT.**  What acts keep, and turns keep unless something happens in them, holds
    until that happens; and if it happens when some task of the queue has its turn, it does happen
    once that task has one. -/
theorem Client.comes {Q : Nat → Engine α → Engine α → Prop}
    (hact : ∀ {requests e asked e'}, Standing config.retryPoolSize requests e → Act e asked e' →
      P requests e → P (requests ++ (asked.map (e.spawned, ·)).toList) e')
    (hturn : ∀ {requests e m e'}, Client config requests e → Turn e m e' → n ∈ e.ready →
      P requests e → Q m e e' ∨ (m ≠ n ∧ P requests e'))
    (h : Client config requests e) (hP : P requests e) (hn : n ∈ e.ready) (hc : OfClient events) :
    (∃ m, Comes m e events (Q m)) ∨
      (P (requests ++ e.dispatches events) (e.steps events) ∧ .turn n ∉ events) := by
  have hacts : ∀ {requests more} {e e' : Engine α}, Standing config.retryPoolSize requests e →
      Acts e more e' → P requests e → P (requests ++ more) e' := by
    intro requests more e e' hs ha hP
    induction ha generalizing requests with
    | refl e => exact (List.append_nil requests).symm ▸ hP
    | step ha _ ih =>
        rw [← List.append_assoc]
        exact ih (hs.act ha) (hact hs ha hP)
  induction events generalizing e requests with
  | nil => exact Or.inr ⟨(List.append_nil requests).symm ▸ hP, List.not_mem_nil⟩
  | cons ev rest ih =>
      obtain ⟨hev, hrest⟩ := List.forall_mem_cons.mp hc
      -- an event that is not the task's turn leaves it in the queue, and what holds to the rest
      have honward : .turn n ≠ ev → n ∈ (e.step ev).ready →
          P (requests ++ e.dispatched ev) (e.step ev) →
          (∃ m, Comes m e (ev :: rest) (Q m)) ∨ (P (requests ++ e.dispatches (ev :: rest))
            (e.steps (ev :: rest)) ∧ .turn n ∉ ev :: rest) := by
        intro hne hqueued hkept
        rw [dispatches, ← List.append_assoc]
        refine (ih (h.step hev) hkept hqueued hrest).imp ?_ fun hlast => ?_
        · rintro ⟨m, hcomes⟩
          exact ⟨m, hcomes.later⟩
        · exact ⟨hlast.1, List.not_mem_cons_of_ne_of_not_mem hne hlast.2⟩
      rcases h.cases hev with ⟨m, rfl, hturned, hnone⟩ | ⟨hnoTurn, hactsEv⟩
      · rcases hturn h hturned hn hP with hhappens | ⟨hm, hkept⟩
        · exact Or.inl ⟨m, [], rest, rfl, hhappens⟩
        · refine honward ?_ (hturned.queues hn (Ne.symm hm)) ?_
          · rintro ⟨⟩
            exact hm rfl
          · rw [hnone, List.append_nil]
            exact hkept
      · refine honward ?_ (hactsEv.queues hn) (hacts h.standing hactsEv hP)
        rintro rfl
        cases hnoTurn

/-- What happens whenever a task has its turn, and is prepared by all that comes before, happens once
    it has one. -/
theorem Client.comes_in_turn
    (hact : ∀ {requests e asked e'}, Standing config.retryPoolSize requests e → Act e asked e' →
      P requests e → P (requests ++ (asked.map (e.spawned, ·)).toList) e')
    (hother : ∀ {requests e m e'}, Client config requests e → Turn e m e' → m ≠ n →
      P requests e → P requests e')
    (hown : ∀ {requests e e'}, Client config requests e → Turn e n e' → n ∈ e.ready →
      P requests e → happens e e')
    (h : Client config requests e) (hP : P requests e) (hn : n ∈ e.ready) (hc : OfClient events) :
    Comes n e events happens ∨
      (P (requests ++ e.dispatches events) (e.steps events) ∧ .turn n ∉ events) := by
  refine (h.comes (Q := fun m x x' => m = n ∧ happens x x') hact ?_ hP hn hc).imp ?_ id
  · intro requests e m e' hx hturn hready hP
    by_cases hm : m = n
    · subst hm
      exact Or.inl ⟨rfl, hown hx hturn hready hP⟩
    · exact Or.inr ⟨hm, hother hx hturn hm hP⟩
  · rintro ⟨m, before, after, rfl, rfl, hhappens⟩
    exact ⟨before, after, rfl, hhappens⟩

end Comes

/-! ## A client with one slot -/

/-- A client with one slot, whose transport answers the first call with a 503. -/
def narrow : Config :=
  { Config.default with retryPoolSize := 1 }

/-- The engine of that client. -/
def narrowEngine : Engine Response :=
  (new Retry.wavering (fun request => dispatch request .response) id (.start 0 1)
    narrow.cache).startCleaner.tell none narrow.toldOfBuilding

/-- The configuration is one that a client accepts. -/
theorem ofConfig_narrow : ofConfig narrow true Retry.wavering id 0 = .ok narrowEngine :=
  rfl

/-- Two requests that want retries: the first sleeps before its first retry, the second waits. -/
def rivals : List (EngineEvent Response) :=
  [.turn 0, .criticalExecuteWith Retry.stubborn .response,
    .criticalExecuteWith Retry.stubborn .response, .turn 1, .turn 2]

end Engine

end Courier
