import Courier.Proofs.Retry.Course

/-!
# The trace of a retried request — exactly which attempts are made

What comes of a request that may be repeated is told by its attempts alone: they are numbered from
zero, each but the last came to something that the request enrols, and the last did not or was the
last that it allows.  The delayer is asked before the second attempt, the third and so on, with the
number of the retry; the result is that of the last attempt.  All this is the `Account` of a request,
and whenever handler and transport answer, every conversation with the loop ends in one.
-/

namespace Courier

namespace Retry

variable {α : Type} {request : Request} {handler : Handler α}

/-- **THE ACCOUNT OF A REQUEST**: its attempts, all that was said, the result, and the history that
    is kept. -/
structure Account (request : Request) (handler : Handler α) (tries : List (Try α))
    (talk : List Deed) (result : Outcome α) (history : RetryHistory) : Prop where
  /-- There is an attempt, and there are no more than one and the retries. -/
  bounds : 1 ≤ tries.length ∧ tries.length ≤ request.maxRetries.toNat + 1
  /-- Every attempt was made with this handler, by one call for this request, and came to what the
      handler made of the outcome. -/
  made : ∀ t ∈ tries, t.Made request handler
  /-- Attempts are numbered from zero, and each knows the code of the one before it. -/
  positions : ∀ (i : Nat) (t : Try α), tries[i]? = some t →
    t.position = ⟨i, if i = 0 then none else tries[i - 1]?.map fun t => t.came.code⟩
  /-- The handler of an attempt is the one of the attempt before it, with what it was asked. -/
  pasts : ∀ (i : Nat) (t : Try α), tries[i]? = some t →
    t.past = if i = 0 then [] else (tries[i - 1]?.map fun t => t.came.past).getD []
  /-- Every attempt before the last came to something that the request enrols. -/
  repeated : ∀ t ∈ tries.dropLast, request.Enrols t.came.result
  /-- The last one did not, or it is the last that the request allows; its result is the result. -/
  last : ∃ t, tries.getLast? = some t ∧ result = t.came.result.map (·.value) ∧
    (¬ request.Enrols t.came.result ∨ tries.length = request.maxRetries.toNat + 1)
  /-- The delayer was asked once before each retry, with the number of the retry. -/
  delays : pausesOf talk = List.range' 1 (tries.length - 1)
  /-- The transport was called once for each attempt. -/
  calls : callsOf talk = tries.map fun t => (request, t.behaviour)
  /-- Nothing was said but what belongs to the attempts, one after the other, each with its opening,
      and a word at the end if the retries were spent. -/
  said : ∃ words, talk = (tries.flatMap fun t => opening request t.position ++ t.talk) ++ words ∧
    (words = [] ∨ words = giveUp request tries.length)
  /-- The codes are those of the responses, and `-1` where the transport failed. -/
  codes : history.codes = tries.map fun t => codeOf t.outcome
  noResponse : ∀ t ∈ tries, codeOf t.outcome = noResponseCode ↔ ∃ f, t.outcome = .error f
  /-- The kind that is kept is that of the latest attempt that came to a failure. -/
  lastError : history.lastError = tries.reverse.findSome? fun t => t.came.result.kind?

/-- The attempts before some place end with the one before it. -/
theorem getLast?_take_of_lt {β : Type} {l : List β} {i : Nat} {b : β} (hb : l[i]? = some b) :
    (l.take i).getLast? = if i = 0 then none else l[i - 1]? := by
  have hlt := (List.getElem?_eq_some_iff.mp hb).1
  rw [List.getLast?_take]
  split
  · rfl
  · rw [List.getElem?_eq_getElem (by omega)]
    rfl

/-- The numbers of the retries. -/
theorem filter_range_ne_zero (n : Nat) :
    (List.range n).filter (· ≠ 0) = List.range' 1 (n - 1) := by
  cases n with
  | zero => rfl
  | succ n =>
      rw [List.range_succ_eq_map, List.filter_cons_of_neg (by simp), List.filter_eq_self.mpr,
        List.range'_eq_map_range]
      · exact List.map_congr_left fun i _ => Nat.add_comm i 1
      · intro i hi
        obtain ⟨j, -, rfl⟩ := List.mem_map.mp hi
        exact decide_eq_true (Nat.succ_ne_zero j)

section Course

variable {tries : List (Try α)} {talk : List Deed} {out : Retried α}

/-- The code of an attempt is that of the response, and `-1` where the transport failed. -/
theorem code_of_course {history : RetryHistory} {past : Past}
    (h : Course request handler history past tries talk out) {t : Try α} (ht : t ∈ tries) :
    t.came.code = codeOf t.outcome ∧
      (codeOf t.outcome = noResponseCode ↔ ∃ f, t.outcome = .error f) := by
  obtain ⟨past, a, -, hjudges, hreviews⟩ := (h.made t ht).judged
  obtain ⟨hc, hiff⟩ := Handler.code_of_judges hjudges
  exact ⟨(Handler.value_of_reviews hreviews).2.trans hc, hc ▸ hiff⟩

/-- There are too few attempts for the number of one to saturate, so each is its place in the
    list. -/
theorem position_of_course (h : Course request handler .empty [] tries talk out)
    (hle : tries.length ≤ request.maxRetries.toNat + 1) {i : Nat} {t : Try α}
    (ht : tries[i]? = some t) :
    t.position = ⟨i, if i = 0 then none else tries[i - 1]?.map fun t => t.came.code⟩ := by
  have hmax : request.maxRetries.toNat ≤ Position.maxAttempt :=
    Nat.le_of_lt_succ request.maxRetries.toNat_lt
  have hlt := (List.getElem?_eq_some_iff.mp ht).1
  have hlength : (tries.take i).length = i := List.length_take_of_le (Nat.le_of_lt hlt)
  rw [(h.stands i t ht).1, RetryHistory.next_after_empty _ (by omega), hlength,
    getLast?_take_of_lt ht]
  by_cases hi : i = 0
  · rw [if_pos hi, if_pos hi]
    rfl
  · rw [if_neg hi, if_neg hi]

/-- The numbers of the attempts. -/
theorem numbers_of_course (h : Course request handler .empty [] tries talk out)
    (hle : tries.length ≤ request.maxRetries.toNat + 1) :
    tries.map (fun t => t.position.attempt) = List.range tries.length := by
  refine List.ext_getElem? fun i => ?_
  rw [List.getElem?_map]
  cases ht : tries[i]? with
  | none =>
      have hge := List.getElem?_eq_none_iff.mp ht
      exact (List.getElem?_eq_none_iff.mpr (by rwa [List.length_range])).symm
  | some t =>
      have hlt := (List.getElem?_eq_some_iff.mp ht).1
      rw [List.getElem?_range hlt, Option.map_some, position_of_course h hle ht]

/-- What has a course from the beginning has an account. -/
theorem account_of_course (h : Course request handler .empty [] tries talk out) :
    Account request handler tries talk out.1 out.2 := by
  have hzero : (RetryHistory.empty).attempts = 0 := rfl
  obtain ⟨before, last, rfl, hresult, hbefore, hle, hlast⟩ := h.bounded (Nat.zero_le _)
  rw [hzero, Nat.zero_add] at hle hlast
  refine
    { bounds := ⟨by simp, hle⟩
      made := h.made
      positions := fun i t ht => position_of_course h hle ht
      pasts := ?pasts
      repeated := ?repeated
      last := ⟨last, by simp, hresult, ?lastOne⟩
      delays := ?delays
      calls := h.calls
      said := ?said
      codes := ?codes
      noResponse := fun t ht => (code_of_course h ht).2
      lastError := ?lastError }
  case pasts =>
    intro i t ht
    rw [(h.stands i t ht).2, getLast?_take_of_lt ht]
    by_cases hi : i = 0
    · rw [if_pos hi, if_pos hi]
      rfl
    · rw [if_neg hi, if_neg hi]
  case repeated =>
    rw [List.dropLast_concat]
    exact hbefore
  case lastOne =>
    exact (Classical.em _).symm.imp id hlast
  case delays =>
    rw [h.pauses, numbers_of_course h hle, filter_range_ne_zero]
  case said =>
    obtain ⟨words, htalk, hwords⟩ := h.said
    exact ⟨words, htalk, hwords.imp id fun heq => by rw [heq, hzero, Nat.zero_add]⟩
  case codes =>
    rw [h.history_eq, RetryHistory.codes_after]
    exact List.map_congr_left fun t ht => (code_of_course h ht).1
  case lastError =>
    rw [h.history_eq, RetryHistory.lastError_after]
    exact Option.or_none

end Course

/-- To ask a handler about an attempt is neither a call nor a delay. -/
theorem review_calm (handler : Handler α) (a : Attempted α) : (review handler a).Calm True := by
  rw [review]
  split
  · refine ⟨rfl, ?_⟩
    split <;> exact trivial
  · exact trivial

theorem trial_calm (request : Request) (handler : Handler α) (past : Past) (position : Position) :
    (trial request handler past position).Calm True :=
  (attempt_calm request handler past position).bind (review_calm handler)

theorem attempts_calm (request : Request) (handler : Handler α) (history : RetryHistory)
    (past : Past) : (attempts request handler history past).Calm True := by
  induction history, past using @attempts.induct α request with
  | case1 history past ih =>
      rw [attempts, lead]
      have hbody : ∀ a : Attempted (Product α), (if !request.repeats a.result then
          (.done (a.result.map (·.value), history.add a) : Program (Retried α))
        else if request.maxRetries.toNat ≤ history.next.attempt then
          .tell (.retriesExhausted (history.add a).attempts request.urlText)
            (.done (a.result.map (·.value), history.add a))
        else attempts request handler (history.add a) a.past).Calm True := by
        intro a
        split
        · exact trivial
        · split
          · exact ⟨rfl, trivial⟩
          · rename_i hleft
            exact ih a hleft
      have hattempt := (trial_calm request handler past history.next).bind hbody
      split
      · exact ⟨rfl, hattempt⟩
      · exact ⟨rfl, rfl, hattempt⟩

/-- **THE EXACT TRACE OF A RETRIED REQUEST.**  If the handler answers, every conversation with the
    retry loop in which the transport answers ends with a result that its attempts account for; and
    on its own, with any sink and delayer, the loop comes to such an end when it is given time. -/
theorem run_account (request : Request) (handler : Handler α) (hh : handler.Returns) :
    (∀ talk q, (run request handler).Goes talk q → q.isOver = true →
      (∀ c ∈ callsOf talk, c.2.Returns) →
      ∃ tries result history, q = .done (result, history) ∧
        Account request handler tries talk result history) ∧
    ∀ (parts : Parts) (l : Ledger), (∀ earlier call, (parts.transport earlier call).Returns) →
      ∃ tries talk result history l', Account request handler tries talk result history ∧
        Program.Accounted parts l talk l' ∧
        ∃ bound, ∀ limit, bound ≤ limit →
          (run request handler).play parts limit l = (l', .done (result, history)) := by
  have hends : ∀ talk q, (run request handler).Goes talk q → q.isOver = true →
      (∀ c ∈ callsOf talk, c.2.Returns) →
      ∃ tries result history, q = .done (result, history) ∧
        Account request handler tries talk result history := by
    intro talk q hg hq hb
    obtain ⟨tries, out, rfl, hcourse⟩ := course_of_goes hh .empty [] hg hq hb
    exact ⟨tries, out.1, out.2, rfl, account_of_course hcourse⟩
  refine ⟨hends, fun parts l htransport => ?_⟩
  obtain ⟨talk, q, l', hg, hq, haccounted, bound, hplay⟩ :=
    Program.play_of_calm parts l (attempts_calm request handler .empty [])
  have hb : ∀ c ∈ callsOf talk, c.2.Returns := by
    intro c hc
    obtain ⟨earlier, call, heq⟩ := haccounted.answers c hc
    exact heq ▸ htransport earlier call
  obtain ⟨tries, result, history, rfl, haccount⟩ := hends talk q hg hq hb
  exact ⟨tries, talk, result, history, l', haccount, haccounted, bound,
    fun limit hlimit => hplay limit hlimit _ rfl⟩

/-- A request that may be repeated as often as can be asked for, after a 503 and when time runs
    out. -/
def stubborn : Request :=
  { (default : Request) with
    maxRetries := 4294967295
    retryStatuses := [503]
    retryKinds := [.timeout] }

/-- A transport whose first call is answered with a 503 and whose second runs out of time; a delayer
    that waits a millisecond longer each time; and a cleanup that makes every last pass. -/
def wavering : Parts where
  transport earlier _ :=
    match earlier.length with
    | 0 => .give (.ok ⟨⟨503, by decide, by decide⟩, [], []⟩)
    | 1 => .wait ⟨5000000⟩ (.give (.error .timeout))
    | _ => .give (.ok default)
  sink := .silent
  delayer _ attempt := ⟨attempt * 1000000⟩
  lastPass _ := true

theorem wavering_returns (earlier : List Call) (call : Call) :
    (wavering.transport earlier call).Returns := by
  rw [wavering]
  dsimp only
  split <;> exact trivial

theorem response_returns : Handler.response.Returns :=
  ⟨fun _ _ => ⟨_, rfl⟩, fun _ _ => ⟨_, rfl⟩, fun _ _ => rfl, fun _ => ⟨_, rfl⟩⟩

/-- The stubborn request comes to an end that its attempts account for. -/
theorem run_account_of_stubborn :
    Handler.response.Returns ∧
    (∀ earlier call, (wavering.transport earlier call).Returns) ∧
    ∃ tries talk result history l', Account stubborn .response tries talk result history ∧
      Program.Accounted wavering (.start 0 0) talk l' ∧
      ∃ bound, ∀ limit, bound ≤ limit →
        (run stubborn .response).play wavering limit (.start 0 0)
          = (l', .done (result, history)) :=
  ⟨response_returns, wavering_returns,
    (run_account stubborn .response response_returns).2 wavering (.start 0 0) wavering_returns⟩

/-- The codes of its attempts. -/
example :
    (match ((run stubborn .response).play wavering 1000000000 (.start 0 0)).2 with
      | .done out => out.2.codes
      | _ => []) = [503, noResponseCode, 200] := by
  decide +kernel

end Retry

end Courier
