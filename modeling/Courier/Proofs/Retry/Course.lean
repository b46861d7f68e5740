import Courier.Proofs.Attempt.Outcomes

/-!
# The course of a retried request — attempt after attempt

The loop keeps no count.  How many attempts there were, which of them comes next and how often the
delayer was asked all follow from the codes of the attempts so far.  A `Trail` is what the loop has
done from some history on, one attempt at a time, and every conversation with the loop has one,
wherever it has got to (`trail_of_goes`).  Where handler and transport answer, a trail that comes to
its end is a `Course` (`course_of_goes`).  From the course follow the numbers: they never grow
beyond the retries that the request allows, and so the number of an attempt, which has thirty-two
bits, never stops growing before the loop does.
-/

namespace Courier

variable {α : Type}

/-- What a handler adds to an attempt when it is asked about it: to a result the status that it
    shows, and to a failure nothing. -/
def Handler.reviews (h : Handler α) (a : Attempted α) : Option (Attempted (Product α)) :=
  match a.result with
  | .ok value =>
    match h.statusOf a.past with
    | .panics _ => none
    | .gives status => some ⟨.ok ⟨value, status⟩, a.code, .status :: a.past⟩
  | .error f => some ⟨.error f, a.code, a.past⟩

/-- A handler is asked about an attempt, and does not change what it came to. -/
theorem Handler.value_of_reviews {h : Handler α} {a : Attempted α} {b : Attempted (Product α)}
    (hr : h.reviews a = some b) : b.result.map (·.value) = a.result ∧ b.code = a.code := by
  rw [reviews] at hr
  split at hr
  · rename_i hresult
    split at hr
    · cases hr
    · cases hr
      exact ⟨hresult.symm, rfl⟩
  · rename_i hresult
    cases hr
    exact ⟨hresult.symm, rfl⟩

/-- An attempt that was made: where it stood, what the handler had been asked before, what the
    transport did with the call and which outcome that had, what was said, and what it came to. -/
structure Try (α : Type) where
  position : Position
  past : Past
  behaviour : Behaviour
  outcome : Outcome Response
  talk : List Deed
  came : Attempted (Product α)

/-- An attempt was made of a request, with a handler. -/
structure Try.Made (request : Request) (handler : Handler α) (t : Try α) : Prop where
  goes : (Retry.trial request handler t.past t.position).Goes t.talk (.done t.came)
  calls : callsOf t.talk = [(request, t.behaviour)]
  pauses : pausesOf t.talk = []
  judged : ∃ past a, handler.hears t.past t.behaviour = some (past, t.outcome) ∧
    handler.judges past t.outcome = some a ∧ handler.reviews a = some t.came

/-- The kind of a failure. -/
def Outcome.kind? {β : Type} : Outcome β → Option FailureKind
  | .ok _ => none
  | .error f => some f.kind

/-- A request enrols what an attempt came to: the status that a result shows, or the kind of a
    failure. -/
def Request.Enrols (request : Request) (result : Outcome (Product α)) : Prop :=
  (∃ p code, result = .ok p ∧ p.status = some code ∧ code ∈ request.retryStatuses) ∨
    ∃ f, result = .error f ∧ f.kind ∈ request.retryKinds

theorem Request.repeats_iff (request : Request) (result : Outcome (Product α)) :
    request.repeats result = true ↔ request.Enrols result := by
  cases result with
  | ok p =>
      cases hs : p.status with
      | none => simp [repeats, Enrols, hs]
      | some code => simp [repeats, Enrols, hs]
  | error f => simp [repeats, Enrols]

namespace RetryHistory

/-- The history after some more attempts. -/
def after (h : RetryHistory) (tries : List (Try α)) : RetryHistory :=
  tries.foldl (fun h t => h.add t.came) h

theorem codes_after (h : RetryHistory) (tries : List (Try α)) :
    (h.after tries).codes = h.codes ++ tries.map fun t => t.came.code := by
  induction tries generalizing h with
  | nil => exact (List.append_nil _).symm
  | cons t rest ih =>
      show ((h.add t.came).after rest).codes = _
      rw [ih, add, List.append_assoc]
      rfl

/-- The kind of the latest failure. -/
theorem lastError_after (h : RetryHistory) (tries : List (Try α)) :
    (h.after tries).lastError
      = (tries.reverse.findSome? fun t => t.came.result.kind?).or h.lastError := by
  induction tries generalizing h with
  | nil => rfl
  | cons t rest ih =>
      show ((h.add t.came).after rest).lastError = _
      rw [ih, List.reverse_cons, List.findSome?_append, Option.or_assoc]
      congr 1
      rw [add]
      cases hr : t.came.result with
      | ok p => simp [Outcome.kind?, hr]
      | error f => simp [Outcome.kind?, hr]

/-- Where an attempt stands that comes after others, while there are not too many to number. -/
theorem next_after_empty (tries : List (Try α)) (hn : tries.length ≤ Position.maxAttempt) :
    (empty.after tries).next
      = ⟨tries.length, tries.getLast?.map fun t => t.came.code⟩ := by
  have hcodes : (empty.after tries).codes = tries.map fun t => t.came.code :=
    codes_after empty tries
  have hattempts : (empty.after tries).attempts = tries.length := by
    rw [attempts, hcodes, List.length_map]
  rw [next, hcodes, List.getLast?_map, hattempts, Nat.min_eq_left hn]
  cases hlast : tries.getLast? with
  | none =>
      rw [List.getLast?_eq_none_iff.mp hlast]
      rfl
  | some t => rfl

end RetryHistory

namespace Retry

variable {request : Request} {handler : Handler α}

/-- What is said before an attempt: before a retry, the delayer is asked. -/
def opening (request : Request) (position : Position) : List Deed :=
  (if position.attempt = 0 then []
    else [.noted (.told (.retrying position.attempt position.lastStatus request.urlText)),
      .paused position.attempt]) ++
    [.noted (.told (.startingAttempt position.attempt request.method request.urlText))]

theorem callsOf_opening (request : Request) (position : Position) :
    callsOf (opening request position) = [] := by
  rw [opening]
  split <;> rfl

theorem pausesOf_opening (request : Request) (position : Position) :
    pausesOf (opening request position)
      = if position.attempt = 0 then [] else [position.attempt] := by
  rw [opening]
  split <;> rfl

/-- A conversation with what comes before an attempt is within the opening, or has come to the
    attempt. -/
theorem lead_goes {position : Position} {next q : Program (Retried α)} {talk : List Deed}
    (h : (lead request position next).Goes talk q) :
    (talk <+: opening request position ∧ q.isOver = false) ∨
      ∃ rest, talk = opening request position ++ rest ∧ next.Goes rest q := by
  rw [lead] at h
  rw [opening]
  by_cases hz : position.attempt = 0
  · rw [if_pos hz] at h ⊢
    cases h with
    | stay => exact .inl ⟨List.nil_prefix, rfl⟩
    | note h => exact .inr ⟨_, rfl, h⟩
  · rw [if_neg hz] at h ⊢
    cases h with
    | stay => exact .inl ⟨List.nil_prefix, rfl⟩
    | note h =>
        cases h with
        | stay => exact .inl ⟨⟨_, rfl⟩, rfl⟩
        | pause h =>
            cases h with
            | stay => exact .inl ⟨⟨_, rfl⟩, rfl⟩
            | note h => exact .inr ⟨_, rfl, h⟩

/-- What is said when there are no retries left. -/
def giveUp (request : Request) (attempts : Nat) : List Deed :=
  [.noted (.told (.retriesExhausted attempts request.urlText))]

/-- **HOW FAR A REQUEST HAS COME** from some history on: the attempts that have come to something,
    all that was said, and what is left to do. -/
inductive Trail (request : Request) (handler : Handler α) :
    RetryHistory → Past → List (Attempted (Product α)) → List Deed → Program (Retried α) → Prop where
  /-- The next attempt has not begun. -/
  | preparing {history : RetryHistory} {past : Past} {talk : List Deed} {q : Program (Retried α)}
      (within : talk <+: opening request history.next) (goesOn : q.isOver = false) :
      Trail request handler history past [] talk q
  /-- The attempt has not come to anything, and perhaps never will. -/
  | attempting {history : RetryHistory} {past : Past} {first : List Deed}
      {p : Program (Attempted (Product α))} {k : Attempted (Product α) → Program (Retried α)}
      (goes : (trial request handler past history.next).Goes first p)
      (unfinished : ∀ a, p ≠ .done a) :
      Trail request handler history past [] (opening request history.next ++ first) (p.bind k)
  /-- The attempt is not to be repeated, and that is the end. -/
  | final {history : RetryHistory} {past : Past} {first : List Deed}
      {a : Attempted (Product α)}
      (goes : (trial request handler past history.next).Goes first (.done a))
      (stands : request.repeats a.result = false) :
      Trail request handler history past [a] (opening request history.next ++ first)
        (.done (a.result.map (·.value), history.add a))
  /-- The attempt is to be repeated, and may not. -/
  | exhausted {history : RetryHistory} {past : Past} {first words : List Deed}
      {a : Attempted (Product α)} {q : Program (Retried α)}
      (goes : (trial request handler past history.next).Goes first (.done a))
      (again : request.repeats a.result = true)
      (spent : request.maxRetries.toNat ≤ history.next.attempt)
      (ends : (Program.tell (.retriesExhausted (history.add a).attempts request.urlText)
        (.done (a.result.map (·.value), history.add a))).Goes words q) :
      Trail request handler history past [a] (opening request history.next ++ (first ++ words)) q
  /-- The attempt is repeated. -/
  | again {history : RetryHistory} {past : Past} {first rest : List Deed}
      {a : Attempted (Product α)} {came : List (Attempted (Product α))} {q : Program (Retried α)}
      (goes : (trial request handler past history.next).Goes first (.done a))
      (again : request.repeats a.result = true)
      (left : history.next.attempt < request.maxRetries.toNat)
      (onward : Trail request handler (history.add a) a.past came rest q) :
      Trail request handler history past (a :: came)
        (opening request history.next ++ (first ++ rest)) q

/-- **EVERY CONVERSATION WITH THE LOOP HAS A TRAIL**, wherever it has got to. -/
theorem trail_of_goes {history : RetryHistory} {past : Past} {talk : List Deed}
    {q : Program (Retried α)} (hg : (attempts request handler history past).Goes talk q) :
    ∃ came, Trail request handler history past came talk q := by
  -- as in the loop itself, by induction on the retries that are left
  induction history, past using @attempts.induct α request generalizing talk with
  | case1 history past ih =>
      rw [attempts] at hg
      rcases lead_goes hg with ⟨hwithin, hq⟩ | ⟨body, rfl, hbody⟩
      · exact ⟨[], .preparing hwithin hq⟩
      rcases hbody.through_bind with
        ⟨p, hp, hunfinished, rfl⟩ | ⟨a, first, rest, rfl, hfirst, hrest⟩
      · exact ⟨[], .attempting hp hunfinished⟩
      cases hr : request.repeats a.result with
      | false =>
          simp only [hr, Bool.not_false, if_true] at hrest
          cases hrest with
          | stay =>
              refine ⟨[a], ?_⟩
              rw [List.append_nil]
              exact .final hfirst hr
      | true =>
          simp only [hr, Bool.not_true, Bool.false_eq_true, if_false] at hrest
          by_cases hspent : request.maxRetries.toNat ≤ history.next.attempt
          · rw [if_pos hspent] at hrest
            exact ⟨[a], .exhausted hfirst hr hspent hrest⟩
          · rw [if_neg hspent] at hrest
            obtain ⟨came, htrail⟩ := ih a hspent hrest
            exact ⟨a :: came, .again hfirst hr (Nat.lt_of_not_le hspent) htrail⟩

/-- **THE COURSE OF A REQUEST** from some history on: the attempts that are made, all that is said,
    and what it comes to in the end. -/
inductive Course (request : Request) (handler : Handler α) :
    RetryHistory → Past → List (Try α) → List Deed → Retried α → Prop where
  /-- The attempt is not to be repeated. -/
  | final {history : RetryHistory} {t : Try α} (made : t.Made request handler)
      (position : t.position = history.next) (stands : request.repeats t.came.result = false) :
      Course request handler history t.past [t] (opening request t.position ++ t.talk)
        (t.came.result.map (·.value), history.add t.came)
  /-- The attempt is to be repeated, and may not. -/
  | exhausted {history : RetryHistory} {t : Try α} (made : t.Made request handler)
      (position : t.position = history.next) (again : request.repeats t.came.result = true)
      (spent : request.maxRetries.toNat ≤ history.next.attempt) :
      Course request handler history t.past [t]
        (opening request t.position ++ t.talk ++ giveUp request (history.add t.came).attempts)
        (t.came.result.map (·.value), history.add t.came)
  /-- The attempt is repeated. -/
  | again {history : RetryHistory} {t : Try α} {tries : List (Try α)} {talk : List Deed}
      {out : Retried α} (made : t.Made request handler) (position : t.position = history.next)
      (again : request.repeats t.came.result = true)
      (left : history.next.attempt < request.maxRetries.toNat)
      (rest : Course request handler (history.add t.came) t.came.past tries talk out) :
      Course request handler history t.past (t :: tries)
        (opening request t.position ++ t.talk ++ talk) out

/-- A handler that answers is asked about an attempt without a call or a delay. -/
theorem review_goes (hh : handler.Returns) {a : Attempted α} {talk : List Deed}
    {q : Program (Attempted (Product α))} (hg : (review handler a).Goes talk q)
    (hq : q.isOver = true) : ∃ b, q = .done b ∧ handler.reviews a = some b ∧
      callsOf talk = [] ∧ pausesOf talk = [] := by
  rw [review] at hg
  rw [Handler.reviews]
  cases hresult : a.result with
  | ok value =>
      obtain ⟨status, hstatus⟩ := hh.statusOf a.past
      simp only [hresult, hstatus] at hg ⊢
      cases hg with
      | stay => cases hq
      | note hg =>
          cases hg with
          | stay => exact ⟨_, rfl, rfl, rfl, rfl⟩
  | error f =>
      simp only [hresult] at hg ⊢
      cases hg with
      | stay => exact ⟨_, rfl, rfl, rfl, rfl⟩

/-- An attempt that is over was made, if handler and transport answer. -/
theorem made_of_goes (hh : handler.Returns) {past : Past} {position : Position}
    {first : List Deed} {q : Program (Attempted (Product α))}
    (hg : (trial request handler past position).Goes first q) (hq : q.isOver = true)
    (hb : ∀ c ∈ callsOf first, c.2.Returns) :
    ∃ t : Try α, q = .done t.came ∧ t.Made request handler ∧ t.position = position ∧
      t.past = past ∧ t.talk = first := by
  have hgoes := hg
  rcases hgoes.through_bind with ⟨p, hp, hunfinished, rfl⟩ | ⟨a, early, late, rfl, hearly, hlate⟩
  · rw [Program.isOver_bind hunfinished] at hq
    obtain ⟨-, -, -, a, rfl, -⟩ := attempt_goes hh hp hq hb
    exact absurd rfl (hunfinished a)
  · rw [callsOf_append] at hb
    obtain ⟨b, past', outcome, a, ⟨⟩, hhears, hjudges, hcalls, hpauses⟩ :=
      attempt_goes hh hearly rfl fun c hc => hb c (List.mem_append_left _ hc)
    obtain ⟨came, rfl, hreviews, hnone, hnever⟩ := review_goes hh hlate hq
    refine ⟨⟨position, past, b, outcome, early ++ late, came⟩, rfl,
      ⟨hg, ?_, ?_, past', a, hhears, hjudges, hreviews⟩, rfl, rfl, rfl⟩
    · rw [callsOf_append, hcalls, hnone, List.append_nil]
    · rw [pausesOf_append, hpauses, hnever, List.append_nil]

/-- Every conversation with the loop that comes to its end has a course, if handler and transport
    answer. -/
theorem course_of_goes (hh : handler.Returns) (history : RetryHistory) (past : Past)
    {talk : List Deed} {q : Program (Retried α)}
    (hg : (attempts request handler history past).Goes talk q) (hq : q.isOver = true)
    (hb : ∀ c ∈ callsOf talk, c.2.Returns) :
    ∃ tries out, q = .done out ∧ Course request handler history past tries talk out := by
  obtain ⟨came, htrail⟩ := trail_of_goes hg
  clear hg
  induction htrail with
  | preparing within goesOn => exact nomatch goesOn.symm.trans hq
  | attempting goes unfinished =>
      -- an attempt that is over has come to something
      rw [Program.isOver_bind unfinished] at hq
      rw [callsOf_append, callsOf_opening] at hb
      obtain ⟨t, rfl, -⟩ := made_of_goes hh goes hq hb
      exact absurd rfl (unfinished t.came)
  | final goes stands =>
      rw [callsOf_append, callsOf_opening] at hb
      obtain ⟨t, ⟨⟩, hmade, hposition, rfl, rfl⟩ := made_of_goes hh goes rfl hb
      rw [← hposition]
      exact ⟨[t], _, rfl, .final hmade hposition stands⟩
  | exhausted goes again spent ends =>
      rw [callsOf_append, callsOf_opening, List.nil_append, callsOf_append] at hb
      obtain ⟨t, ⟨⟩, hmade, hposition, rfl, rfl⟩ :=
        made_of_goes hh goes rfl fun c hc => hb c (List.mem_append_left _ hc)
      cases ends with
      | stay => exact nomatch hq
      | note ends =>
          cases ends with
          | stay =>
              refine ⟨[t], _, rfl, ?_⟩
              rw [← List.append_assoc, ← hposition]
              exact .exhausted hmade hposition again spent
  | again goes again left onward ih =>
      rw [callsOf_append, callsOf_opening, List.nil_append, callsOf_append] at hb
      obtain ⟨t, ⟨⟩, hmade, hposition, rfl, rfl⟩ :=
        made_of_goes hh goes rfl fun c hc => hb c (List.mem_append_left _ hc)
      obtain ⟨tries, out, rfl, hcourse⟩ := ih hq fun c hc => hb c (List.mem_append_right _ hc)
      refine ⟨t :: tries, out, rfl, ?_⟩
      rw [← List.append_assoc, ← hposition]
      exact .again hmade hposition again left hcourse

namespace Course

variable {history : RetryHistory} {past : Past} {tries : List (Try α)} {talk : List Deed}
  {out : Retried α}

/-- Every attempt was made. -/
theorem made (h : Course request handler history past tries talk out) :
    ∀ t ∈ tries, t.Made request handler := by
  induction h with
  | final made _ _ => exact List.forall_mem_singleton.mpr made
  | exhausted made _ _ _ => exact List.forall_mem_singleton.mpr made
  | again made _ _ _ _ ih => exact List.forall_mem_cons.mpr ⟨made, ih⟩

/-- What is kept of a request is what its attempts came to. -/
theorem history_eq (h : Course request handler history past tries talk out) :
    out.2 = history.after tries := by
  induction h with
  | final _ _ _ => rfl
  | exhausted _ _ _ _ => rfl
  | again _ _ _ _ _ ih => exact ih

/-- Every attempt stands where the history before it says, and the handler goes on where it was. -/
theorem stands (h : Course request handler history past tries talk out) :
    ∀ i t, tries[i]? = some t → t.position = (history.after (tries.take i)).next ∧
      t.past = ((tries.take i).getLast?.map fun t => t.came.past).getD past := by
  induction h with
  | final _ position _ =>
      rintro (_ | i) t ht
      · cases ht
        exact ⟨position, rfl⟩
      · exact nomatch ht
  | exhausted _ position _ _ =>
      rintro (_ | i) t ht
      · cases ht
        exact ⟨position, rfl⟩
      · exact nomatch ht
  | again _ position _ _ _ ih =>
      intro i t ht
      cases i with
      | zero =>
          cases ht
          exact ⟨position, rfl⟩
      | succ i =>
          obtain ⟨hposition, hpast⟩ := ih i t ht
          refine ⟨hposition, hpast.trans ?_⟩
          rw [List.take_succ_cons, List.getLast?_cons]
          cases (List.take i _).getLast? <;> rfl

/-- **THE BOUND ON THE ATTEMPTS**: there are no more than the request allows, and as many as it
    allows if the last is to be repeated still. -/
theorem bounded (h : Course request handler history past tries talk out)
    (hn : history.attempts ≤ request.maxRetries.toNat) :
    ∃ before last, tries = before ++ [last] ∧ out.1 = last.came.result.map (·.value) ∧
      (∀ t ∈ before, request.Enrols t.came.result) ∧
      history.attempts + tries.length ≤ request.maxRetries.toNat + 1 ∧
      (request.Enrols last.came.result →
        history.attempts + tries.length = request.maxRetries.toNat + 1) := by
  induction h with
  | @final history t _ _ stands =>
      refine ⟨[], t, rfl, rfl, ?_, Nat.succ_le_succ hn, fun henrols => ?_⟩
      · exact fun _ ht => absurd ht List.not_mem_nil
      · exact nomatch stands.symm.trans ((request.repeats_iff _).mpr henrols)
  | @exhausted history t _ _ _ spent =>
      rw [RetryHistory.attempt_next] at spent
      -- the number of an attempt saturates no earlier than the retries can be spent
      have heq : history.attempts = request.maxRetries.toNat :=
        Nat.le_antisymm hn (Nat.le_trans spent (Nat.min_le_left _ _))
      refine ⟨[], t, rfl, rfl, ?_, Nat.succ_le_succ hn, fun _ => congrArg (· + 1) heq⟩
      exact fun _ ht => absurd ht List.not_mem_nil
  | @again history t tries _ out _ _ again left _ ih =>
      have hlt := RetryHistory.attempts_lt left
      have hadd := history.attempts_add t.came
      obtain ⟨before, last, rfl, hout, henrols, hle, heq⟩ := ih (by omega)
      have hlength : (t :: (before ++ [last])).length = (before ++ [last]).length + 1 := rfl
      refine ⟨t :: before, last, rfl, hout, ?_, by omega, fun hlast => ?_⟩
      · exact List.forall_mem_cons.mpr ⟨(request.repeats_iff _).mp again, henrols⟩
      · have := heq hlast
        omega

/-- The delayer is asked before every attempt with a number other than zero. -/
theorem pauses (h : Course request handler history past tries talk out) :
    pausesOf talk = (tries.map fun t => t.position.attempt).filter (· ≠ 0) := by
  have hone : ∀ t : Try α, t.Made request handler →
      pausesOf (opening request t.position ++ t.talk)
        = [t.position.attempt].filter (· ≠ 0) := by
    intro t made
    rw [pausesOf_append, made.pauses, pausesOf_opening]
    by_cases hz : t.position.attempt = 0 <;> simp [hz]
  induction h with
  | final made _ _ => exact hone _ made
  | exhausted made _ _ _ =>
      rw [pausesOf_append, hone _ made]
      exact List.append_nil _
  | again made _ _ _ _ ih =>
      rw [pausesOf_append, hone _ made, ih, ← List.filter_append]
      rfl

/-- Every attempt calls the transport once, with the request. -/
theorem calls (h : Course request handler history past tries talk out) :
    callsOf talk = tries.map fun t => (request, t.behaviour) := by
  have hone : ∀ t : Try α, t.Made request handler →
      callsOf (opening request t.position ++ t.talk) = [(request, t.behaviour)] := by
    intro t made
    rw [callsOf_append, callsOf_opening, made.calls]
    rfl
  induction h with
  | final made _ _ => exact hone _ made
  | exhausted made _ _ _ =>
      rw [callsOf_append, hone _ made]
      rfl
  | again made _ _ _ _ ih =>
      rw [callsOf_append, hone _ made, ih]
      rfl

/-- All that is said: what belongs to each attempt, and a last word if it was given up. -/
theorem said (h : Course request handler history past tries talk out) :
    ∃ last, talk = (tries.flatMap fun t => opening request t.position ++ t.talk) ++ last ∧
      (last = [] ∨ last = giveUp request (history.attempts + tries.length)) := by
  induction h with
  | final _ _ _ => exact ⟨[], by simp, Or.inl rfl⟩
  | @exhausted history t _ _ _ _ =>
      refine ⟨giveUp request (history.add t.came).attempts, by simp, Or.inr ?_⟩
      rw [RetryHistory.attempts_add]
      rfl
  | @again history t tries _ _ _ _ _ _ _ ih =>
      obtain ⟨last, rfl, hlast⟩ := ih
      refine ⟨last, by simp, hlast.imp id fun heq => ?_⟩
      rw [heq, RetryHistory.attempts_add, List.length_cons, Nat.add_right_comm, Nat.add_assoc]

end Course

end Retry

end Courier
