import Courier.Transport.Wire

/-!
# Protocol — what the bundled transport reports, and when it stops

Whoever listens to a transport may stop it at every event, and may decide by all it has heard.  What
comes of a call is a `Walk`: all that is done in order, and the outcome.  The bundled transport has
six kinds of walks (`Wire.Conduct`), by the answers it gets and by what the network makes of the
request and of the body; all that is to be said about its events and its outcomes is read off them
(`Wire.transport_keeps_protocol`).  The network may do anything.
-/

namespace Courier

/-- A listener: its answer to an event, after the events that it has heard, latest first. -/
abbrev Listener := List Event → Event → Answer

/-- One thing that a transport does while somebody listens. -/
inductive Stride where
  | reported (event : Event) (answer : Answer)
  | told (entry : Log)
  | waited (length : Duration)
  deriving DecidableEq

namespace Stride

/-- The event that is reported, if one is. -/
def event? : Stride → Option Event
  | reported e _ => some e
  | _ => none

/-- What is told, if something is. -/
def entry? : Stride → Option Log
  | told entry => some entry
  | _ => none

/-- These events are reported, and none is objected to. -/
def letPass (events : List Event) : List Stride :=
  events.map fun e => .reported e .proceed

theorem events_letPass (events : List Event) : (letPass events).filterMap event? = events := by
  rw [letPass, List.filterMap_map]
  exact List.filterMap_some

theorem abort_notMem_letPass (events : List Event) (e : Event) :
    .reported e .abort ∉ letPass events := by
  simp [letPass]

end Stride

/-- All that a transport does with a call, and the outcome if there is one. -/
structure Walk where
  strides : List Stride
  ending : Option (Outcome Response)

namespace Walk

/-- The events that were reported, in order. -/
def events (w : Walk) : List Event :=
  w.strides.filterMap Stride.event?

/-- A walk that begins with something else. -/
def after (strides : List Stride) (w : Walk) : Walk :=
  { w with strides := strides ++ w.strides }

/-- The walk of a transport that is stopped at once. -/
def aborted (e : Event) : Walk :=
  ⟨[.reported e .abort, .told (.abortedByHandler e)], some (.error .aborted)⟩

theorem after_after (strides strides' : List Stride) (w : Walk) :
    (w.after strides').after strides = w.after (strides ++ strides') := by
  rw [after, after, after, List.append_assoc]

theorem events_after (strides : List Stride) (w : Walk) :
    (w.after strides).events = strides.filterMap Stride.event? ++ w.events :=
  List.filterMap_append

end Walk

namespace Behaviour

variable (listener : Listener)

/-- The walk of a transport with a listener who has heard of some events already. -/
def walk : List Event → Behaviour → Walk
  | past, .report e next =>
    (walk (e :: past) (next (listener past e))).after [.reported e (listener past e)]
  | past, .tell entry next => (walk past next).after [.told entry]
  | past, .wait length next => (walk past next).after [.waited length]
  | _, .stall | _, .panic _ => ⟨[], none⟩
  | _, .give outcome => ⟨[], some outcome⟩

/-- An event that is notified is let pass, or it is the last. -/
theorem walk_notify (past : List Event) (e : Event) (next : Behaviour) :
    (notify e next).walk listener past
      = match listener past e with
        | .proceed => (next.walk listener (e :: past)).after [.reported e .proceed]
        | .abort => .aborted e := by
  rw [notify, walk]
  cases listener past e <;> rfl

/-- Of events that are notified in a row all are let pass, or one of them is the last; and then
    **IT DOES NOT MATTER WHAT WOULD HAVE COME NEXT**. -/
theorem walk_notifyAll (past : List Event) (events : List Event) :
    (∀ next, (notifyAll events next).walk listener past
        = (next.walk listener (events.reverse ++ past)).after (Stride.letPass events)) ∨
      ∃ before e rest, events = before ++ e :: rest ∧
        ∀ next, (notifyAll events next).walk listener past
          = (Walk.aborted e).after (Stride.letPass before) := by
  -- what the listener says to the rest may depend on the event in front
  induction events generalizing past with
  | nil => exact .inl fun _ => rfl
  | cons e events ih =>
      have hstep : ∀ next, (notifyAll (e :: events) next).walk listener past
          = match listener past e with
            | .proceed =>
              ((notifyAll events next).walk listener (e :: past)).after [.reported e .proceed]
            | .abort => .aborted e :=
        fun next => walk_notify listener past e (notifyAll events next)
      cases ha : listener past e with
      | abort => exact .inr ⟨[], e, events, rfl, fun next => by rw [hstep, ha]; rfl⟩
      | proceed =>
          simp only [ha] at hstep
          rcases ih (e :: past) with hpass | ⟨before, e', rest, rfl, hstop⟩
          · refine .inl fun next => ?_
            rw [hstep, hpass, Walk.after_after, List.reverse_cons, List.append_assoc]
            rfl
          · refine .inr ⟨e :: before, e', rest, rfl, fun next => ?_⟩
            rw [hstep, hstop, Walk.after_after]
            rfl

end Behaviour

namespace Wire

open Behaviour Stride

/-! ## The walks of the bundled transport -/

/-- The events of a call, where it is not stopped. -/
def protocol (request : Request) : List Event :=
  if request.body.isSome then [.started, .headersWritten, .bodyWritten, .headersReceived]
  else [.started, .headersWritten, .headersReceived]

theorem protocol_eq (request : Request) : protocol request = .started :: written request := by
  rw [protocol, written]
  split <;> rfl

theorem noTerminal_of_protocol (request : Request) :
    ∀ e ∈ protocol request, e.isTerminal = false := by
  rw [protocol]
  split <;> decide

/-- What is done by the time the network has made something of the request. -/
def sendStrides (exchange : Exchange) (request : Request) : List Stride :=
  [.reported .started .proceed, .told (.sending request.method request.urlText),
    .waited exchange.sending]

/-- What is done by the time the network has made something of the body. -/
def readStrides (exchange : Exchange) (request : Request) : List Stride :=
  sendStrides exchange request ++ letPass (written request) ++ [.waited exchange.reading]

theorem events_readStrides (exchange : Exchange) (request : Request) :
    (readStrides exchange request).filterMap event? = protocol request := by
  rw [readStrides, List.filterMap_append, List.filterMap_append, events_letPass, protocol_eq]
  exact List.append_nil _

theorem abort_notMem_readStrides (exchange : Exchange) (request : Request) (e : Event) :
    .reported e .abort ∉ readStrides exchange request := by
  simp [readStrides, sendStrides, abort_notMem_letPass]

/-- **THE SIX WAYS OF A CALL.** -/
inductive Conduct (exchange : Exchange) (call : Call) : Walk → Prop where
  /-- The transport is closed. -/
  | turnedAway (late : call.late = true) : Conduct exchange call ⟨[], some (.error .closed)⟩
  /-- The listener does not let it start. -/
  | unsent (onTime : call.late = false) : Conduct exchange call (.aborted .started)
  /-- The request gets no head. -/
  | unanswered {fault : WireFault} (onTime : call.late = false)
      (sent : exchange.sent = .error fault) :
      Conduct exchange call
        ⟨sendStrides exchange call.request, some (.error (.network fault))⟩
  /-- The head is there, and the listener stops the attempt. -/
  | unread {head : Head} {before rest : List Event} {e : Event} (onTime : call.late = false)
      (sent : exchange.sent = .ok head) (split : written call.request = before ++ e :: rest) :
      Conduct exchange call
        ((Walk.aborted e).after (sendStrides exchange call.request ++ letPass before))
  /-- The body does not arrive. -/
  | cutShort {head : Head} {fault : WireFault} (onTime : call.late = false)
      (sent : exchange.sent = .ok head) (body : exchange.body = .error fault) :
      Conduct exchange call
        ⟨readStrides exchange call.request, some (.error (.network fault))⟩
  /-- The body arrives. -/
  | answered {head : Head} {octets : List UInt8} (onTime : call.late = false)
      (sent : exchange.sent = .ok head) (body : exchange.body = .ok octets) :
      Conduct exchange call
        ⟨readStrides exchange call.request, some (.ok ⟨head.status, head.fields, octets⟩)⟩

/-- The walk of the bundled transport with a call and a listener. -/
def walkOf (network : Network) (earlier : List Call) (call : Call) (listener : Listener) : Walk :=
  (transport network earlier call).walk listener []

variable {network : Network} {earlier : List Call} {call : Call} {listener : Listener}

theorem walkOf_late (h : call.late = true) :
    walkOf network earlier call listener = ⟨[], some (.error .closed)⟩ := by
  rw [walkOf, transport, if_pos h]
  rfl

/-- The listener is asked before anything else is done. -/
theorem walkOf_onTime (h : call.late = false) :
    walkOf network earlier call listener
      = match listener [] .started with
        | .proceed =>
          ((send (network call) call.request).walk listener [.started]).after
            [.reported .started .proceed]
        | .abort => .aborted .started := by
  rw [walkOf, transport, h, if_neg Bool.false_ne_true]
  exact walk_notify listener [] .started _

/-- The head is followed by the body, or by a fault. -/
theorem walk_read (exchange : Exchange) (head : Head) (past : List Event) :
    (read exchange head).walk listener past
      = ⟨[.waited exchange.reading], some (match exchange.body with
          | .ok octets => .ok ⟨head.status, head.fields, octets⟩
          | .error fault => .error (.network fault))⟩ := by
  rw [read, walk]
  cases exchange.body <;> rfl

/-- **EVERY CALL GOES ONE OF THE SIX WAYS.** -/
theorem conduct (network : Network) (earlier : List Call) (call : Call) (listener : Listener) :
    Conduct (network call) call (walkOf network earlier call listener) := by
  cases hlate : call.late with
  | true =>
      rw [walkOf_late hlate]
      exact .turnedAway hlate
  | false =>
      rw [walkOf_onTime hlate]
      cases listener [] .started with
      | abort => exact .unsent hlate
      | proceed =>
          dsimp only
          rw [send, walk, walk, Walk.after_after, Walk.after_after]
          cases hsent : (network call).sent with
          | error fault => exact .unanswered hlate hsent
          | ok head =>
              rcases walk_notifyAll listener [.started] (written call.request) with
                hpass | ⟨before, e, rest, hsplit, hstop⟩
              · dsimp only
                rw [hpass, walk_read, Walk.after_after]
                cases hbody : (network call).body with
                | error fault => exact .cutShort hlate hsent hbody
                | ok octets => exact .answered hlate hsent hbody
              · dsimp only
                rw [hstop, Walk.after_after]
                exact .unread hlate hsent hsplit

namespace Conduct

variable {exchange : Exchange} {w : Walk}

theorem inOrder (h : Conduct exchange call w) : w.events <+: protocol call.request := by
  cases h with
  | turnedAway late => exact List.nil_prefix
  | unsent onTime | unanswered onTime sent =>
      rw [protocol_eq]
      exact ⟨written call.request, rfl⟩
  | @unread head before rest e onTime sent split =>
      rw [protocol_eq, split, Walk.events_after, List.filterMap_append, events_letPass]
      exact ⟨rest, List.append_assoc (Event.started :: before) [e] rest⟩
  | cutShort onTime sent body | answered onTime sent body =>
      exact ⟨[], (List.append_nil _).trans (events_readStrides exchange call.request)⟩

/-- An event that is objected to ends the walk. -/
theorem stops (h : Conduct exchange call w) {e : Event} (he : .reported e .abort ∈ w.strides) :
    ∃ before, w.strides = before ++ [.reported e .abort, .told (.abortedByHandler e)] ∧
      (∀ e', .reported e' .abort ∉ before) ∧ w.ending = some (.error .aborted) := by
  -- where a way comes to an objection, nothing before it is one, so it is the one that was made
  have hlast : ∀ (before : List Stride) {e' : Event}, (∀ e'', .reported e'' .abort ∉ before) →
      .reported e .abort ∈ before ++ (Walk.aborted e').strides → e = e' := by
    intro before e' hbefore hmem
    rcases List.mem_append.mp hmem with hmem | hmem
    · exact absurd hmem (hbefore e)
    · simpa [Walk.aborted] using hmem
  cases h with
  | turnedAway late => exact absurd he List.not_mem_nil
  | unsent onTime =>
      obtain rfl := hlast [] (fun _ => List.not_mem_nil) he
      exact ⟨[], rfl, fun _ => List.not_mem_nil, rfl⟩
  | unanswered onTime sent => simp [sendStrides] at he
  | @unread head before rest e' onTime sent split =>
      have hbefore : ∀ e'', .reported e'' .abort
          ∉ sendStrides exchange call.request ++ letPass before := by
        simp [sendStrides, abort_notMem_letPass]
      obtain rfl := hlast _ hbefore he
      exact ⟨_, rfl, hbefore, rfl⟩
  | cutShort onTime sent body | answered onTime sent body =>
      exact absurd he (abort_notMem_readStrides exchange call.request e)

/-- A call whose request gets no head has only been started. -/
theorem events_of_fault (h : Conduct exchange call w) (hlate : call.late = false)
    {fault : WireFault} (hsent : exchange.sent = .error fault) : w.events = [.started] := by
  cases h with
  | turnedAway late => exact nomatch hlate.symm.trans late
  | unsent onTime | unanswered onTime sent => rfl
  | unread onTime sent split => exact nomatch hsent.symm.trans sent
  | cutShort onTime sent body | answered onTime sent body => exact nomatch hsent.symm.trans sent

/-- A call in which nothing stands in the way comes to a response. -/
theorem succeeds (h : Conduct exchange call w) (hlate : call.late = false)
    (hpass : ∀ e answer, .reported e answer ∈ w.strides → answer = .proceed)
    {head : Head} (hsent : exchange.sent = .ok head) {octets : List UInt8}
    (hbody : exchange.body = .ok octets) : ∃ r, w.ending = some (.ok r) := by
  cases h with
  | turnedAway late => exact nomatch hlate.symm.trans late
  | unsent onTime => exact nomatch hpass .started .abort List.mem_cons_self
  | unanswered onTime sent => exact nomatch hsent.symm.trans sent
  | @unread head before rest e onTime sent split =>
      exact nomatch hpass e .abort (List.mem_append_right _ List.mem_cons_self)
  | cutShort onTime sent body => exact nomatch hbody.symm.trans body
  | answered onTime sent body => exact ⟨_, rfl⟩

/-- A call that comes to a response was on time, all its events were reported and let pass, and the
    response is what the network made of it. -/
theorem of_response (h : Conduct exchange call w) {r : Response} (hr : w.ending = some (.ok r)) :
    call.late = false ∧ (∀ e answer, .reported e answer ∈ w.strides → answer = .proceed) ∧
      w.events = protocol call.request ∧ exchange.sent = .ok ⟨r.status, r.fields⟩ ∧
      exchange.body = .ok r.body := by
  cases h with
  | turnedAway late | unsent onTime | unanswered onTime sent | unread onTime sent split
  | cutShort onTime sent body => exact nomatch hr
  | answered onTime sent body =>
      cases hr
      refine ⟨onTime, fun e answer he => ?_, events_readStrides exchange call.request, sent, body⟩
      cases answer with
      | proceed => rfl
      | abort => exact absurd he (abort_notMem_readStrides exchange call.request e)

theorem ends (h : Conduct exchange call w) : ∃ outcome, w.ending = some outcome := by
  cases h <;> exact ⟨_, rfl⟩

end Conduct

/-- Where the start is objected to, the network is not asked. -/
theorem walkOf_of_abort (hlate : call.late = false) (habort : listener [] .started = .abort) :
    walkOf network earlier call listener = .aborted .started := by
  rw [walkOf_onTime hlate, habort]

/-- Where any event is objected to, the walk is the same whatever would have become of the body. -/
theorem walkOf_congr {network' : Network} {e : Event}
    (he : .reported e .abort ∈ (walkOf network earlier call listener).strides)
    (hsent : (network' call).sent = (network call).sent)
    (hsending : (network' call).sending = (network call).sending) :
    walkOf network' earlier call listener = walkOf network earlier call listener := by
  cases hlate : call.late with
  | true => rw [walkOf_late hlate, walkOf_late hlate]
  | false =>
      cases hstart : listener [] .started with
      | abort => rw [walkOf_of_abort hlate hstart, walkOf_of_abort hlate hstart]
      | proceed =>
          rw [walkOf_onTime hlate, hstart] at he ⊢
          rw [walkOf_onTime hlate, hstart]
          dsimp only at he ⊢
          rw [send, walk, walk] at he ⊢
          rw [send, walk, walk, hsent, hsending]
          cases hhead : (network call).sent with
          | error fault => rfl
          | ok head =>
              rcases walk_notifyAll listener [.started] (written call.request) with
                hpass | ⟨before, e', rest, hsplit, hstop⟩
              · -- had all events been let pass, nobody would have objected
                rw [hhead] at he
                dsimp only at he
                rw [hpass, walk_read] at he
                simp [Walk.after, abort_notMem_letPass] at he
              · dsimp only
                rw [hstop, hstop]

/-- The protocol of a call: what the bundled transport reports to a listener, when it stops, and
    what it comes to. -/
structure KeepsProtocol (network : Network) (earlier : List Call) (call : Call)
    (listener : Listener) : Prop where
  /-- The events come in their order, and none is left out before another. -/
  inOrder : (walkOf network earlier call listener).events <+: protocol call.request
  /-- Completion and failure are never reported. -/
  noTerminal : ∀ e ∈ (walkOf network earlier call listener).events, e.isTerminal = false
  /-- A closed transport does nothing. -/
  closed : call.late = true →
    walkOf network earlier call listener = ⟨[], some (.error .closed)⟩
  /-- An event that is objected to is the last, the objection is the first, and after it nothing is
  done but to tell of it. -/
  stops : ∀ e, .reported e .abort ∈ (walkOf network earlier call listener).strides →
    ∃ before, (walkOf network earlier call listener).strides
        = before ++ [.reported e .abort, .told (.abortedByHandler e)] ∧
      (∀ e', .reported e' .abort ∉ before) ∧
      (walkOf network earlier call listener).ending = some (.error .aborted)
  /-- Where the start is objected to, the network is not asked at all. -/
  notSent : call.late = false → listener [] .started = .abort → ∀ network',
    walkOf network' earlier call listener = .aborted .started
  /-- Where any event is, the network is not asked for the body. -/
  notRead : ∀ e, .reported e .abort ∈ (walkOf network earlier call listener).strides →
    ∀ network', (network' call).sent = (network call).sent →
      (network' call).sending = (network call).sending →
      walkOf network' earlier call listener = walkOf network earlier call listener
  /-- A request that is not answered has only been started. -/
  sendFails : ∀ fault, call.late = false → (network call).sent = .error fault →
    (walkOf network earlier call listener).events = [.started] ∧
      (listener [] .started = .proceed →
        (walkOf network earlier call listener).ending = some (.error (.network fault)))
  /-- There is a response if and only if nothing stood in the way. -/
  succeeds_iff : (∃ r, (walkOf network earlier call listener).ending = some (.ok r)) ↔
    call.late = false ∧
      (∀ e answer, .reported e answer ∈ (walkOf network earlier call listener).strides →
        answer = .proceed) ∧
      (∃ head, (network call).sent = .ok head) ∧ ∃ octets, (network call).body = .ok octets
  /-- A response is made of the head and the body, and all events were reported before it. -/
  response : ∀ r, (walkOf network earlier call listener).ending = some (.ok r) →
    (walkOf network earlier call listener).events = protocol call.request ∧
      (network call).sent = .ok ⟨r.status, r.fields⟩ ∧ (network call).body = .ok r.body
  /-- There is always an outcome. -/
  ends : ∃ outcome, (walkOf network earlier call listener).ending = some outcome

/-- **THE EVENT PROTOCOL OF THE BUNDLED TRANSPORT.**  Whatever the network makes of a call, and
    however its listener chooses, the transport keeps its protocol. -/
theorem transport_keeps_protocol (network : Network) (earlier : List Call) (call : Call)
    (listener : Listener) : KeepsProtocol network earlier call listener := by
  have hconduct := conduct network earlier call listener
  refine
    { inOrder := hconduct.inOrder
      noTerminal := fun e he => noTerminal_of_protocol call.request e (hconduct.inOrder.subset he)
      closed := walkOf_late
      stops := fun _ => hconduct.stops
      notSent := fun hlate habort network' => walkOf_of_abort hlate habort
      notRead := fun e he network' => walkOf_congr he
      sendFails := ?sendFails
      succeeds_iff := ?succeeds_iff
      response := fun r hr => (hconduct.of_response hr).2.2
      ends := hconduct.ends }
  case sendFails =>
    intro fault hlate hsent
    refine ⟨hconduct.events_of_fault hlate hsent, fun hstart => ?_⟩
    rw [walkOf_onTime hlate, hstart, send, hsent]
    rfl
  case succeeds_iff =>
    constructor
    · rintro ⟨r, hr⟩
      obtain ⟨hlate, hpass, -, hsent, hbody⟩ := hconduct.of_response hr
      exact ⟨hlate, hpass, ⟨_, hsent⟩, _, hbody⟩
    · rintro ⟨hlate, hpass, ⟨head, hsent⟩, octets, hbody⟩
      exact hconduct.succeeds hlate hpass hsent hbody

/-- A network that gives back what it gets. -/
def mirror : Network := fun call =>
  ⟨.ok ⟨⟨200, by decide, by decide⟩, []⟩, ⟨5⟩, .ok (call.request.body.getD []), ⟨7⟩⟩

/-- A call with a body. -/
def posted : Call :=
  ⟨1, { (default : Request) with method := "POST", body := some [1, 2] }, 0, false⟩

/-- A listener that puts up with two events, whichever they are. -/
def impatient : Listener := fun past _ =>
  if past.length < 2 then .proceed else .abort

/-- The impatient listener stops a call when the body was written, and nothing is read; one that
    never objects gets the body back. -/
theorem transport_keeps_protocol_of_impatient :
    (walkOf mirror [] posted impatient).events = [.started, .headersWritten, .bodyWritten] ∧
    (walkOf mirror [] posted impatient).ending = some (.error .aborted) ∧
    (∃ r, (walkOf mirror [] posted fun _ _ => .proceed).ending = some (.ok r)) ∧
    (walkOf mirror [] posted fun _ _ => .proceed).events
      = [.started, .headersWritten, .bodyWritten, .headersReceived] := by
  have hstopped := transport_keeps_protocol mirror [] posted impatient
  have hpassed := transport_keeps_protocol mirror [] posted fun _ _ => .proceed
  obtain ⟨before, -, -, hending⟩ := hstopped.stops .bodyWritten (by decide +kernel)
  have hpass : ∀ e answer,
      .reported e answer ∈ (walkOf mirror [] posted fun _ _ => .proceed).strides →
        answer = .proceed := by
    intro e answer he
    cases answer with
    | proceed => rfl
    | abort => cases e <;> exact absurd he (by decide +kernel)
  obtain ⟨r, hr⟩ := hpassed.succeeds_iff.mpr ⟨rfl, hpass, ⟨_, rfl⟩, _, rfl⟩
  exact ⟨rfl, hending, ⟨r, hr⟩, (hpassed.response r hr).1⟩

end Wire

end Courier
