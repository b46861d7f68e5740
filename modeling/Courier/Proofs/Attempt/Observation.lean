import Courier.Proofs.Program.Sinks

/-!
# Observation — an attempt is watched, and nothing more

An observer stands between the transport and the handler of an attempt.  What it hears it passes on:
the handler is asked about every event that the transport reports, in order, and the transport gets
the answers of the handler and no others (`Behaviour.Leads`).  When the transport gives its outcome,
the handler gets the response, or hears of the failure, once (`Watched`); and what the attempt comes
to is what the handler makes of that (`Handler.Concludes`).  The record that goes to the sink in
between decides nothing.
-/

namespace Courier

variable {α β : Type}

/-- A transport goes from one point of its behaviour to another, while it reports these events and
    gets these answers. -/
inductive Behaviour.Leads : Behaviour → List (Event × Answer) → Behaviour → Prop where
  | stay (b : Behaviour) : Leads b [] b
  | report {e : Event} {next : Answer → Behaviour} {answer : Answer} {said : List (Event × Answer)}
      {b : Behaviour} : Leads (next answer) said b → Leads (.report e next) ((e, answer) :: said) b
  | tell {entry : Log} {next b : Behaviour} {said : List (Event × Answer)} :
      Leads next said b → Leads (.tell entry next) said b
  | wait {length : Duration} {next b : Behaviour} {said : List (Event × Answer)} :
      Leads next said b → Leads (.wait length next) said b

namespace Deed

/-- What the handler was asked, if it was. -/
def callback? : Deed → Option Callback
  | noted (.handled callback) => some callback
  | _ => none

end Deed

/-- What the handler was asked in a conversation, in order. -/
def callbacksOf (talk : List Deed) : List Callback :=
  talk.filterMap Deed.callback?

/-- Events and the answers to them, as a handler was asked them. -/
def asEvents (said : List (Event × Answer)) : List Callback :=
  said.map fun x => .event x.1 x.2

/-- What a handler is asked when an outcome arrives. -/
def lastWord : Outcome Response → Callback
  | .ok r => .completed r
  | .error f => .failed f

namespace Handler

/-- A handler gave these answers to these events, after what it had been asked before. -/
def Answers (h : Handler α) : Past → List (Event × Answer) → Prop
  | _, [] => True
  | past, (e, answer) :: said =>
    h.onEvent past e = .gives answer ∧ h.Answers (.event e answer :: past) said

/-- **WHAT AN ATTEMPT COMES TO** when an outcome arrives.  A response becomes what the handler makes
    of it, be it that it turns the response down; a failure stays the failure it is.  The code is
    that of the transport's outcome. -/
def Concludes (h : Handler α) (past : Past) (outcome : Outcome Response)
    (q : Program (Attempted α)) : Prop :=
  match outcome with
  | .ok r =>
    match h.onCompleted past r with
    | .panics text => q = .panic text
    | .gives v => q = .done ⟨v.outcome, r.code, .completed r :: past⟩
  | .error f =>
    match h.onFailed past f with
    | .panics text => q = .panic text
    | .gives () => q = .done ⟨.error f, noResponseCode, .failed f :: past⟩

/-- **HOW AN ATTEMPT STOPS** for which no outcome arrives: the transport never ends, or panics, or
    the handler panics when it is asked about an event. -/
def Breaks (h : Handler α) (past : Past) : Behaviour → Program (Attempted α) → Prop
  | .report e _, q => ∃ text, h.onEvent past e = .panics text ∧ q = .panic text
  | .stall, q => q = .stall
  | .panic text, q => q = .panic text
  | .tell _ _, _ | .wait _ _, _ | .give _, _ => False

end Handler

/-- **HOW FAR A CALL IS WATCHED**: where the transport is in its behaviour, what the handler was
    asked by then, and what is left to do. -/
inductive Watched (handler : Handler α) (past : Past) (b : Behaviour) (talk : List Deed)
    (q : Program (Attempted α)) : Prop where
  /-- No outcome has arrived. -/
  | watching (said : List (Event × Answer)) (here : Behaviour) (path : b.Leads said here)
      (answers : handler.Answers past said) (unanswered : .answered ∉ talk)
      (callbacks : callbacksOf talk = asEvents said)
      (stops : q.isOver = true → handler.Breaks ((asEvents said).reverse ++ past) here q)
  /-- The outcome has arrived, and the handler is to be told. -/
  | arrived (said : List (Event × Answer)) (outcome : Outcome Response)
      (path : b.Leads said (.give outcome)) (answers : handler.Answers past said)
      (answered : .answered ∈ talk)
      (callbacks : callbacksOf talk = asEvents said) (goesOn : q.isOver = false)
  /-- The handler was told of the outcome. -/
  | told (said : List (Event × Answer)) (outcome : Outcome Response)
      (path : b.Leads said (.give outcome)) (answers : handler.Answers past said)
      (answered : .answered ∈ talk)
      (callbacks : callbacksOf talk = asEvents said ++ [lastWord outcome])
      (stops : q.isOver = true → handler.Concludes ((asEvents said).reverse ++ past) outcome q)

/-! ## Silence -/

/-- A deed that neither asks the handler nor brings an outcome. -/
def Deed.IsSilent (x : Deed) : Prop :=
  x.callback? = none ∧ x ≠ .answered

theorem silent_of_told {entries : List Log} {said : List Happening}
    (h : ∀ what ∈ said, what ∈ entries.map Happening.told) :
    ∀ x ∈ said.map Deed.noted, x.IsSilent := by
  intro x hx
  obtain ⟨what, hwhat, rfl⟩ := List.mem_map.mp hx
  obtain ⟨entry, -, rfl⟩ := List.mem_map.mp (h what hwhat)
  exact ⟨rfl, nofun⟩

theorem callbacksOf_silent {silent : List Deed} (h : ∀ x ∈ silent, x.IsSilent) :
    callbacksOf silent = [] :=
  List.filterMap_eq_nil_iff.mpr fun x hx => (h x hx).1

theorem callbacksOf_append_silent {silent : List Deed} (h : ∀ x ∈ silent, x.IsSilent)
    (talk : List Deed) : callbacksOf (silent ++ talk) = callbacksOf talk := by
  rw [callbacksOf, List.filterMap_append]
  exact congrArg (· ++ callbacksOf talk) (callbacksOf_silent h)

namespace Watched

variable {handler : Handler α} {past : Past} {b b' : Behaviour} {talk : List Deed}
  {q : Program (Attempted α)}

/-- Nothing was said, and the attempt goes on. -/
theorem start (goesOn : q.isOver = false) : Watched handler past b [] q :=
  .watching [] b (.stay b) trivial List.not_mem_nil rfl fun h => nomatch goesOn.symm.trans h

/-- What is silent makes no difference. -/
theorem after_silence {silent : List Deed} (hs : ∀ x ∈ silent, x.IsSilent)
    (h : Watched handler past b talk q) : Watched handler past b (silent ++ talk) q := by
  have hcallbacks := callbacksOf_append_silent hs talk
  cases h with
  | watching said here path answers unanswered callbacks stops =>
      refine .watching said here path answers ?_ (hcallbacks.trans callbacks) stops
      intro hmem
      rcases List.mem_append.mp hmem with hx | hx
      · exact (hs _ hx).2 rfl
      · exact unanswered hx
  | arrived said outcome path answers answered callbacks goesOn =>
      exact .arrived said outcome path answers (List.mem_append_right _ answered)
        (hcallbacks.trans callbacks) goesOn
  | told said outcome path answers answered callbacks stops =>
      exact .told said outcome path answers (List.mem_append_right _ answered)
        (hcallbacks.trans callbacks) stops

/-- The transport does something that the handler does not hear of. -/
theorem unheard (hb : ∀ said here, b'.Leads said here → b.Leads said here)
    (h : Watched handler past b' talk q) : Watched handler past b talk q := by
  cases h with
  | watching said here path answers unanswered callbacks stops =>
      exact .watching said here (hb said here path) answers unanswered callbacks stops
  | arrived said outcome path answers answered callbacks goesOn =>
      exact .arrived said outcome (hb said _ path) answers answered callbacks goesOn
  | told said outcome path answers answered callbacks stops =>
      exact .told said outcome (hb said _ path) answers answered callbacks stops

/-- The transport reports an event, the handler is asked, and the transport gets the answer. -/
theorem reported {e : Event} {next : Answer → Behaviour} {answer : Answer}
    (ha : handler.onEvent past e = .gives answer)
    (h : Watched handler (.event e answer :: past) (next answer) talk q) :
    Watched handler past (.report e next) (.noted (.handled (.event e answer)) :: talk) q := by
  have hpast : ∀ said : List (Event × Answer),
      (asEvents said).reverse ++ .event e answer :: past
        = (asEvents ((e, answer) :: said)).reverse ++ past := by
    intro said
    simp [asEvents]
  cases h with
  | watching said here path answers unanswered callbacks stops =>
      refine .watching ((e, answer) :: said) here (.report path) ⟨ha, answers⟩ ?_
        (congrArg (Callback.event e answer :: ·) callbacks) ?_
      · simpa using unanswered
      · rw [← hpast]
        exact stops
  | arrived said outcome path answers answered callbacks goesOn =>
      exact .arrived ((e, answer) :: said) outcome (.report path) ⟨ha, answers⟩
        (List.mem_cons_of_mem _ answered) (congrArg (Callback.event e answer :: ·) callbacks) goesOn
  | told said outcome path answers answered callbacks stops =>
      refine .told ((e, answer) :: said) outcome (.report path) ⟨ha, answers⟩
        (List.mem_cons_of_mem _ answered) (congrArg (Callback.event e answer :: ·) callbacks) ?_
      rw [← hpast]
      exact stops

end Watched

namespace Observer

variable {q : Program (Attempted α)} {talk : List Deed}

/-- How far an outcome is delivered: the handler is to be told, or was told. -/
def Delivers (o : Observer α) (outcome : Outcome Response) (talk : List Deed)
    (q : Program (Attempted α)) : Prop :=
  (callbacksOf talk = [] ∧ q.isOver = false) ∨
    (callbacksOf talk = [lastWord outcome] ∧
      (q.isOver = true → o.handler.Concludes o.past outcome q))

theorem Delivers.after_silence {o : Observer α} {outcome : Outcome Response} {silent : List Deed}
    (hs : ∀ x ∈ silent, x.IsSilent) (h : o.Delivers outcome talk q) :
    o.Delivers outcome (silent ++ talk) q := by
  rw [Delivers, callbacksOf_append_silent hs]
  exact h

theorem deliver_delivers (o : Observer α) (outcome : Outcome Response)
    (hg : (o.deliver outcome).Goes talk q) : o.Delivers outcome talk q := by
  cases outcome with
  | ok r =>
      cases hg with
      | stay => exact .inl ⟨rfl, rfl⟩
      | note hg =>
          refine .inr ?_
          rw [Handler.Concludes]
          cases hr : o.handler.onCompleted o.past r with
          | panics text =>
              rw [hr] at hg
              cases hg with
              | stay => exact ⟨rfl, fun _ => rfl⟩
          | gives v =>
              rw [hr] at hg
              rcases hg.through_notes with ⟨rest, rfl, hrest⟩ | ⟨hq, said, rfl, hsaid⟩
              · have hsilent := silent_of_told fun what (hw : what ∈ v.told.map .told) => hw
                cases hrest with
                | stay =>
                    refine ⟨congrArg (Callback.completed r :: ·) ?_, fun _ => rfl⟩
                    exact callbacksOf_append_silent hsilent []
              · refine ⟨congrArg (Callback.completed r :: ·) ?_, fun h => nomatch hq.symm.trans h⟩
                exact callbacksOf_silent (silent_of_told hsaid)
  | error f =>
      cases hg with
      | stay => exact .inl ⟨rfl, rfl⟩
      | note hg =>
          cases hg with
          | stay => exact .inl ⟨rfl, rfl⟩
          | note hg =>
              refine .inr ?_
              rw [Handler.Concludes]
              cases hf : o.handler.onFailed o.past f with
              | panics text =>
                  rw [hf] at hg
                  cases hg with
                  | stay => exact ⟨rfl, fun _ => rfl⟩
              | gives u =>
                  rw [hf] at hg
                  cases hg with
                  | stay => exact ⟨rfl, fun _ => rfl⟩

theorem finish_delivers (o : Observer α) (outcome : Outcome Response)
    (hg : (o.finish outcome).Goes talk q) : o.Delivers outcome talk q := by
  -- before the handler is told, the time is read and the record handed over, and that is silent
  have hlate : o.late (.ofOutcome outcome)
      = (if o.timer.finished then [Log.eventIgnored (.ofOutcome outcome)] else []).map .told := by
    rw [late]
    split <;> rfl
  have hrefused : ∀ refusal, ∃ entries : List Log, refused refusal = entries.map .told := by
    intro refusal
    cases refusal with
    | none => exact ⟨[], rfl⟩
    | some reason => exact ⟨[_], rfl⟩
  cases hg with
  | stay => exact .inl ⟨rfl, rfl⟩
  | clock now hg =>
      have htime : ∀ x ∈ [Deed.time now], x.IsSilent := by simp [Deed.IsSilent, Deed.callback?]
      refine Delivers.after_silence htime ?_
      rw [hlate] at hg
      rcases hg.through_notes with ⟨rest, rfl, hrest⟩ | ⟨hq, said, rfl, hsaid⟩
      · refine Delivers.after_silence (silent_of_told fun _ hw => hw) ?_
        cases hrest with
        | stay => exact .inl ⟨rfl, rfl⟩
        | record refusal hrest =>
            have hrecord : ∀ x ∈ [Deed.recorded (o.record outcome now) refusal], x.IsSilent := by
              simp [Deed.IsSilent, Deed.callback?]
            refine Delivers.after_silence hrecord ?_
            obtain ⟨entries, hentries⟩ := hrefused refusal
            dsimp only at hrest
            rw [hentries] at hrest
            rcases hrest.through_notes with ⟨rest, rfl, hend⟩ | ⟨hq, said, rfl, hsaid⟩
            · exact .after_silence (silent_of_told fun _ hw => hw) (o.deliver_delivers outcome hend)
            · exact .inl ⟨callbacksOf_silent (silent_of_told hsaid), hq⟩
      · exact .inl ⟨callbacksOf_silent (silent_of_told hsaid), hq⟩

/-- **EVERY CONVERSATION OF AN OBSERVER** passes on what the transport and the handler say. -/
theorem follow_watched (b : Behaviour) (o : Observer α) (hg : (o.follow b).Goes talk q) :
    Watched o.handler o.past b talk q := by
  induction b generalizing o talk with
  | report e next ih =>
      rw [follow, hear] at hg
      cases hg with
      | stay => exact .start rfl
      | clock now hg =>
          have htime : ∀ x ∈ [Deed.time now], x.IsSilent := by simp [Deed.IsSilent, Deed.callback?]
          refine Watched.after_silence htime ?_
          rcases hg.through_notes with ⟨rest, rfl, hrest⟩ | ⟨hq, said, rfl, hsaid⟩
          · refine Watched.after_silence (silent_of_told fun _ hw => hw) ?_
            cases ha : o.handler.onEvent o.past e with
            | panics text =>
                rw [ha] at hrest
                cases hrest with
                | stay =>
                    exact .watching [] _ (.stay _) trivial List.not_mem_nil rfl
                      fun _ => ⟨text, ha, rfl⟩
            | gives answer =>
                rw [ha] at hrest
                cases hrest with
                | stay => exact .start rfl
                | note hrest =>
                    have hnext := ih answer { o with
                      past := .event e answer :: o.past
                      timer := o.timer.onEvent now.elapsed e } hrest
                    exact .reported ha hnext
          · have hsilent : Watched o.handler o.past (.report e next) (_ ++ []) q :=
              .after_silence (silent_of_told hsaid) (.start hq)
            rwa [List.append_nil] at hsilent
  | tell entry next ih =>
      cases hg with
      | stay => exact .start rfl
      | note hg =>
          have htold : ∀ x ∈ [Deed.noted (.told entry)], x.IsSilent := by
            simp [Deed.IsSilent, Deed.callback?]
          exact .after_silence htold ((ih o hg).unheard fun _ _ => .tell)
  | wait length next ih =>
      cases hg with
      | stay => exact .start rfl
      | sleep hg =>
          have hslept : ∀ x ∈ [Deed.slept length], x.IsSilent := by
            simp [Deed.IsSilent, Deed.callback?]
          exact .after_silence hslept ((ih o hg).unheard fun _ _ => .wait)
  | stall =>
      cases hg with
      | stay => exact .watching [] _ (.stay _) trivial List.not_mem_nil rfl fun _ => rfl
  | panic text =>
      cases hg with
      | stay => exact .watching [] _ (.stay _) trivial List.not_mem_nil rfl fun _ => rfl
  | give outcome =>
      cases hg with
      | stay => exact .start rfl
      | answered hg =>
          rcases o.finish_delivers outcome hg with ⟨hnone, hq⟩ | ⟨hone, hq⟩
          · exact .arrived [] outcome (.stay _) trivial List.mem_cons_self hnone hq
          · exact .told [] outcome (.stay _) trivial List.mem_cons_self hone hq

end Observer

variable {request : Request} {handler : Handler α} {past : Past} {position : Position}

/-- An attempt calls the transport once, and watches that call. -/
theorem attempt_watched {talk : List Deed} {q : Program (Attempted α)}
    (hg : (attempt request handler past position).Goes talk q) :
    (callsOf talk = [] ∧ callbacksOf talk = [] ∧ q.isOver = false) ∨
      ∃ now b rest, talk = .time now :: .called request b :: rest ∧ callsOf rest = [] ∧
        Watched handler past b rest q := by
  cases hg with
  | stay => exact .inl ⟨rfl, rfl, rfl⟩
  | clock now hg =>
      cases hg with
      | stay => exact .inl ⟨rfl, rfl, rfl⟩
      | call b hg =>
          exact .inr ⟨now, b, _, rfl, (Observer.follow_calm b _).no_calls hg,
            Observer.follow_watched b _ hg⟩

/-- **OBSERVATION NEVER CHANGES THE OUTCOME.**  An attempt, the retries of a request and its
    dispatch are unswayed by their sink.  In an attempt the handler is asked about every event that
    the transport reports, in order, and the transport gets its answers; when the outcome arrives,
    the handler is told of it once, and what it makes of that is what the attempt comes to, with a
    failure that stays what it is. -/
theorem observation_never_changes_the_outcome (request : Request) (handler : Handler α)
    (past : Past) (position : Position) :
    (attempt request handler past position).Unswayed ∧
      (Retry.run request handler).Unswayed ∧ (dispatch request handler).Unswayed ∧
      ∀ talk q, (attempt request handler past position).Goes talk q →
        (callsOf talk = [] ∧ callbacksOf talk = [] ∧ q.isOver = false) ∨
          ∃ now b rest, talk = .time now :: .called request b :: rest ∧ callsOf rest = [] ∧
            Watched handler past b rest q :=
  ⟨(attempt_deaf request handler past position).unswayed,
    (Retry.attempts_deaf request handler .empty []).unswayed,
    (dispatch_deaf request handler).unswayed,
    fun _ _ => attempt_watched⟩

/-- A handler that lets attempts go on and turns their responses down. -/
def aloof : Handler Response :=
  .ofVerdict (fun _ => ⟨.error .aborted, []⟩) fun _ => none

/-- The stubborn request comes to the same whether its records are logged or refused; and the aloof
    handler, which hears of an event and then gets a response, turns it down. -/
theorem observation_never_changes_the_outcome_of_stubborn :
    ((Retry.run Retry.stubborn .response).play (Retry.wavering.withSink .logging) 1000000000
        (.start 0 0)).2
      = ((Retry.run Retry.stubborn .response).play (Retry.wavering.withSink (.refusing "full"))
        1000000000 (.start 0 0)).2 ∧
    ∃ talk a, (attempt Retry.stubborn aloof [] .first).Goes talk (.done a) ∧
      a.result = .error .aborted ∧
      callbacksOf talk = [.event .started .proceed, .completed default] ∧
      ∃ now b rest, talk = .time now :: .called Retry.stubborn b :: rest ∧ callsOf rest = [] ∧
        Watched aloof [] b rest (.done a) := by
  obtain ⟨-, hretries, -, -⟩ :=
    observation_never_changes_the_outcome Retry.stubborn .response [] .first
  refine ⟨(hretries.alone Retry.wavering .logging (.refusing "full") 1000000000 _ _ rfl).2, ?_⟩
  have hgoes : ∃ talk a, (attempt Retry.stubborn aloof [] .first).Goes talk (.done a) ∧
      a.result = .error .aborted ∧
      callbacksOf talk = [.event .started .proceed, .completed default] ∧ callsOf talk ≠ [] :=
    ⟨_, _, .clock ⟨0, 0⟩ (.call (.report .started fun _ => .give (.ok default))
      (.clock ⟨0, 0⟩ (.note (.note (.answered (.clock ⟨0, 0⟩ (.record none (.note (.stay _))))))))),
      rfl, rfl, List.cons_ne_nil _ _⟩
  obtain ⟨talk, a, hg, hresult, hcallbacks, hcalls⟩ := hgoes
  have hwatched :=
    (observation_never_changes_the_outcome Retry.stubborn aloof [] .first).2.2.2 talk _ hg
  exact ⟨talk, a, hg, hresult, hcallbacks, hwatched.resolve_left fun h => hcalls h.1⟩

end Courier
