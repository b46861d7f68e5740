import Courier.Proofs.Attempt.Observation
import Courier.Proofs.Request.Identity
import Courier.Proofs.Retry.Course

/-!
# Finality — a success is not repeated

The retries of a request are broken off as soon as an attempt succeeds.  Two things make it so.  No
way of building a request enrols a code of success, in whatever order codes are enrolled and removed
(`Request.failures_of_ofSteps`); and the loop asks the status that a result shows, never the raw
code, so that a result without a status cannot be enrolled at all (`Request.stands_of_success`).
How far a request has come is told at every point of every conversation by its `Trail`: nothing is
assumed of the transport and the handler, which may panic or never answer.
-/

namespace Courier

variable {α : Type} {request : Request} {handler : Handler α}

/-! ## Success -/

/-- A result succeeds if it shows a status of success, or no status. -/
def Product.Succeeds (p : Product α) : Prop :=
  ∀ code, p.status = some code → 200 ≤ code ∧ code ≤ 299

namespace Request

open RequestBuilder

/-- **NO WAY OF BUILDING ENROLS A SUCCESS.** -/
theorem failures_of_ofSteps {steps : List Step} (h : ofSteps steps = .ok request) :
    ∀ code ∈ request.retryStatuses, ¬ (200 ≤ code ∧ code ≤ 299) := by
  rw [ofSteps] at h
  cases hb : new.applyAll 0 steps with
  | error e =>
      rw [hb] at h
      cases h
  | ok b =>
      rw [hb, applyAll_new hb] at h
      have hkept : request.retryStatuses = (ofTold (told steps)).retryStatuses := by
        dsimp only at h
        rw [build] at h
        split at h <;> cases h
        rfl
      rintro code hcode ⟨hlow, hhigh⟩
      have hfails := (Sound.ofTold (told steps)).failures code (hkept ▸ hcode)
      simp only [isSuccessCode, Bool.and_eq_false_iff, decide_eq_false_iff_not] at hfails
      omega

/-- A success is not repeated where none is enrolled. -/
theorem stands_of_success
    (hfailures : ∀ code ∈ request.retryStatuses, ¬ (200 ≤ code ∧ code ≤ 299))
    {p : Product α} (hp : p.Succeeds) : request.repeats (.ok p) = false := by
  rw [← Bool.not_eq_true, repeats_iff]
  rintro (⟨_, code, ⟨⟩, hstatus, hcode⟩ | ⟨f, hf, -⟩)
  · exact hfailures code hcode (hp code hstatus)
  · exact nomatch hf

end Request

/-- What the plain handler makes of an attempt is the response of the transport, or the failure; and
    it was told of the outcome last. -/
theorem response_of_attempt {past : Past} {position : Position} {talk : List Deed}
    {a : Attempted Response}
    (hg : (attempt request .response past position).Goes talk (.done a)) :
    ∃ now b rest said outcome, talk = .time now :: .called request b :: rest ∧
      b.Leads said (.give outcome) ∧ a.code = codeOf outcome ∧ a.result = outcome ∧
      ∃ heard, a.past = lastWord outcome :: heard := by
  obtain ⟨now, b, rest, rfl, -, hwatched⟩ :=
    (attempt_watched hg).resolve_left fun hquiet => nomatch hquiet.2.2
  cases hwatched with
  | watching said here path answers unanswered callbacks stops =>
      -- an attempt without outcome stops by stalling or in a panic, and has no value
      have hbreaks := stops rfl
      cases here with
      | report e next =>
          obtain ⟨text, -, hq⟩ := hbreaks
          exact nomatch hq
      | tell | wait | give => exact hbreaks.elim
      | stall | panic => exact nomatch hbreaks
  | arrived said outcome path answers answered callbacks goesOn => exact nomatch goesOn
  | told said outcome path answers answered callbacks stops =>
      have hconcludes := stops rfl
      cases outcome with
      | ok r =>
          cases hconcludes
          exact ⟨now, b, rest, said, .ok r, rfl, path, rfl, rfl, _, rfl⟩
      | error f =>
          cases hconcludes
          exact ⟨now, b, rest, said, .error f, rfl, path, rfl, rfl, _, rfl⟩

/-- **WHAT THE PLAIN HANDLER MAKES OF AN ATTEMPT**, once it was asked about it, is the response of the
    transport with its status, or the failure. -/
theorem Retry.response_of_trial {past : Past} {position : Position} {talk : List Deed}
    {a : Attempted (Product Response)}
    (hg : (trial request .response past position).Goes talk (.done a)) :
    ∃ now b rest said outcome, talk = .time now :: .called request b :: rest ∧
      b.Leads said (.give outcome) ∧ a.code = codeOf outcome ∧
      a.result = outcome.map fun r => ⟨r, some r.code⟩ := by
  rcases hg.through_bind with ⟨p, -, hunfinished, hp⟩ | ⟨a', first, last, rfl, hfirst, hlast⟩
  · exact absurd hp.symm (Program.bind_ne_done hunfinished _ a)
  obtain ⟨now, b, rest, said, outcome, rfl, hleads, hcode, hresult, heard, hpast⟩ :=
    response_of_attempt hfirst
  refine ⟨now, b, rest ++ last, said, outcome, rfl, hleads, ?_⟩
  rw [review, hresult, hpast] at hlast
  cases outcome with
  | ok r =>
      cases hlast with
      | note hlast =>
          cases hlast
          exact ⟨hcode, rfl⟩
  | error f =>
      cases hlast
      exact ⟨hcode, rfl⟩

namespace Retry

/-! ## Trails that stop -/

variable {history : RetryHistory} {past : Past} {talk : List Deed} {q : Program (Retried α)}
  {came : List (Attempted (Product α))}

namespace Trail

/-- The attempts of a trail were made of the request. -/
theorem made (h : Trail request handler history past came talk q) :
    ∀ a ∈ came, ∃ past position first,
      (trial request handler past position).Goes first (.done a) := by
  induction h with
  | preparing within goesOn => exact nofun
  | attempting goes unfinished => exact nofun
  | final goes stands => exact List.forall_mem_singleton.mpr ⟨_, _, _, goes⟩
  | exhausted goes again spent ends => exact List.forall_mem_singleton.mpr ⟨_, _, _, goes⟩
  | again goes again left onward ih => exact List.forall_mem_cons.mpr ⟨⟨_, _, _, goes⟩, ih⟩

/-- At the end, the codes of the attempts have been kept. -/
theorem codes (h : Trail request handler history past came talk q) {out : Retried α}
    (hq : q = .done out) : out.2.codes = history.codes ++ came.map (·.code) := by
  induction h with
  | preparing within goesOn =>
      cases hq
      exact nomatch goesOn
  | attempting goes unfinished => exact absurd hq (Program.bind_ne_done unfinished _ out)
  | final goes stands =>
      cases hq
      rfl
  | exhausted goes again spent ends =>
      cases hq
      cases ends with
      | note ends =>
          cases ends
          rfl
  | again goes again left onward ih =>
      rw [ih hq, RetryHistory.add, List.append_assoc]
      rfl

/-- **AN ATTEMPT THAT IS NOT TO BE REPEATED IS THE LAST**, and its result is the result. -/
theorem stops (h : Trail request handler history past came talk q) {i : Nat}
    {a : Attempted (Product α)} (ha : came[i]? = some a) (stands : request.repeats a.result = false) :
    i + 1 = came.length ∧ ∃ kept, q = .done (a.result.map (·.value), kept) := by
  induction h generalizing i with
  | preparing within goesOn => exact nomatch ha
  | attempting goes unfinished => exact nomatch ha
  | final goes _ =>
      cases i with
      | zero =>
          cases ha
          exact ⟨rfl, _, rfl⟩
      | succ i => exact nomatch ha
  | exhausted goes again spent ends =>
      cases i with
      | zero =>
          cases ha
          exact nomatch stands.symm.trans again
      | succ i => exact nomatch ha
  | again goes again left onward ih =>
      cases i with
      | zero =>
          cases ha
          exact nomatch stands.symm.trans again
      | succ i =>
          obtain ⟨hlast, hend⟩ := ih ha
          exact ⟨congrArg (· + 1) hlast, hend⟩

end Trail

/-- Among the attempts of the plain handler, one with a code of success is the last, and its
    response is the result. -/
theorem last_of_success (hfailures : ∀ code ∈ request.retryStatuses, ¬ (200 ≤ code ∧ code ≤ 299))
    {came : List (Attempted (Product Response))} {q : Program (Retried Response)}
    (h : Trail request .response history past came talk q) {i : Nat}
    {a : Attempted (Product Response)} (ha : came[i]? = some a) (hlow : 200 ≤ a.code) (hhigh : a.code ≤ 299) :
    i + 1 = came.length ∧ ∃ r kept, q = .done (.ok r, kept) ∧ (r.code : Int) = a.code := by
  obtain ⟨past, position, first, hgoes⟩ := h.made a (List.mem_of_getElem? ha)
  obtain ⟨-, -, -, -, outcome, -, -, hcode, hresult⟩ := response_of_trial hgoes
  cases outcome with
  | ok r =>
      have hrcode : (r.code : Int) = a.code := hcode.symm
      have hsuccess : Product.Succeeds ⟨r, some r.code⟩ := by
        rintro code ⟨⟩
        omega
      have hstands : request.repeats a.result = false :=
        hresult ▸ Request.stands_of_success hfailures hsuccess
      obtain ⟨hlast, kept, hq⟩ := h.stops ha hstands
      rw [hresult] at hq
      exact ⟨hlast, r, kept, hq, hrcode⟩
  | error f =>
      have hnone : a.code = noResponseCode := hcode
      rw [hnone] at hlow
      exact absurd hlow (by decide)

/-- **SUCCESS IS FINAL.**  No request that can be built enrols a code of success.  So wherever a
    conversation with its retry loop has got to, an attempt whose result shows a status of success,
    or no status, is the last one, the loop has come to its end, and that result is the result.
    What the plain handler makes of an attempt is what the transport gave, with its status, so a
    response of success ends the loop and is the result; and among the raw codes of its run one of
    success can only be the last. -/
theorem success_is_final {steps : List RequestBuilder.Step}
    (h : Request.ofSteps steps = .ok request) (handler : Handler α) :
    (∀ code ∈ request.retryStatuses, ¬ (200 ≤ code ∧ code ≤ 299)) ∧
    (∀ talk q, (run request handler).Goes talk q →
      ∃ came, Trail request handler .empty [] came talk q ∧
        ∀ (i : Nat) a p, came[i]? = some a → a.result = .ok p → p.Succeeds →
          i + 1 = came.length ∧ ∃ kept, q = .done (.ok p.value, kept)) ∧
    (∀ past position talk a, (trial request .response past position).Goes talk (.done a) →
      ∃ now b rest said outcome, talk = .time now :: .called request b :: rest ∧
        b.Leads said (.give outcome) ∧ a.code = codeOf outcome ∧
        a.result = outcome.map fun r => ⟨r, some r.code⟩) ∧
    ∀ talk q, (run request .response).Goes talk q →
      ∃ came, Trail request .response .empty [] came talk q ∧
        (∀ (i : Nat) a, came[i]? = some a → 200 ≤ a.code → a.code ≤ 299 →
          i + 1 = came.length ∧ ∃ r kept, q = .done (.ok r, kept) ∧ (r.code : Int) = a.code) ∧
        ∀ result kept, q = .done (result, kept) → kept.codes = came.map (·.code) ∧
          ∀ (i : Nat) code, kept.codes[i]? = some code → 200 ≤ code → code ≤ 299 →
            i + 1 = kept.codes.length ∧ ∃ r, result = .ok r ∧ (r.code : Int) = code := by
  have hfailures := Request.failures_of_ofSteps h
  refine ⟨hfailures, ?success, fun _ _ _ _ => response_of_trial, ?codes⟩
  case success =>
    intro talk q hg
    obtain ⟨came, htrail⟩ := trail_of_goes hg
    refine ⟨came, htrail, fun i a p ha hresult hsuccess => ?_⟩
    have hstands : request.repeats a.result = false :=
      hresult ▸ Request.stands_of_success hfailures hsuccess
    obtain ⟨hlast, kept, hq⟩ := htrail.stops ha hstands
    rw [hresult] at hq
    exact ⟨hlast, kept, hq⟩
  case codes =>
    intro talk q hg
    obtain ⟨came, htrail⟩ := trail_of_goes hg
    refine ⟨came, htrail, fun i a => last_of_success hfailures htrail, fun result kept hq => ?_⟩
    have hcodes : kept.codes = came.map (·.code) := htrail.codes hq
    refine ⟨hcodes, fun i code hcode hlow hhigh => ?_⟩
    rw [hcodes, List.getElem?_map, Option.map_eq_some_iff] at hcode
    obtain ⟨a, ha, rfl⟩ := hcode
    obtain ⟨hlast, r, kept', hend, hrcode⟩ := last_of_success hfailures htrail ha hlow hhigh
    rw [hcodes, List.length_map]
    cases hq.symm.trans hend
    exact ⟨hlast, r, rfl, hrcode⟩

/-- Steps that enrol a failure and a success. -/
def hopefulSteps : List RequestBuilder.Step :=
  [.url "http://[::1]/", .retryStatus 503, .retryStatus 204, .maxRetries 5]

/-- The request that comes of them. -/
def hopeful : Request where
  method := "GET"
  url := ⟨"http", "", "", some (.ipv6 [0, 0, 0, 0, 0, 0, 0, 1]), none, .segments [""], none, none⟩
  headers := []
  body := none
  timeout := none
  maxRetries := 5
  retryStatuses := [503]
  retryKinds := []
  critical := false

/-- The hopeful request meets a 503, which is repeated, and then a 204, which is the last response
    and the result. -/
theorem success_is_final_of_hopeful :
    Request.ofSteps hopefulSteps = .ok hopeful ∧
    ∃ came talk kept, kept.codes = [503, 204] ∧
      (run hopeful .response).Goes talk (.done (.ok ⟨⟨204, by decide, by decide⟩, [], []⟩, kept)) ∧
      Trail hopeful .response .empty [] came talk
        (.done (.ok ⟨⟨204, by decide, by decide⟩, [], []⟩, kept)) ∧
      kept.codes = came.map (·.code) ∧ 2 = came.length := by
  have hsteps : Request.ofSteps hopefulSteps = .ok hopeful := by
    have hsome : (Request.ofSteps hopefulSteps).toOption = some hopeful := by decide +kernel
    cases hr : Request.ofSteps hopefulSteps with
    | error f =>
        rw [hr] at hsome
        cases hsome
    | ok r =>
        rw [hr] at hsome
        cases hsome
        rfl
  let busy : Response := ⟨⟨503, by decide, by decide⟩, [], []⟩
  let quiet : Response := ⟨⟨204, by decide, by decide⟩, [], []⟩
  have hsecond : ∃ talk kept, kept.codes = [503, 204] ∧
      (attempts hopeful .response ⟨[503], none⟩ [.status, .completed busy]).Goes talk
        (.done (.ok quiet, kept)) := by
    rw [attempts]
    exact ⟨_, _, rfl, .note (.pause (.note (.clock ⟨0, 0⟩ (.call (.give (.ok quiet))
      (.answered (.clock ⟨0, 0⟩ (.record none (.note (.note (.stay _))))))))))⟩
  obtain ⟨rest, kept, hkept, hrest⟩ := hsecond
  have hgoes : ∃ talk, (run hopeful .response).Goes talk (.done (.ok quiet, kept)) := by
    rw [run, attempts]
    exact ⟨_, .note (.clock ⟨0, 0⟩ (.call (.give (.ok busy))
      (.answered (.clock ⟨0, 0⟩ (.record none (.note (.note hrest)))))))⟩
  obtain ⟨talk, hg⟩ := hgoes
  obtain ⟨-, -, -, hcodes⟩ := success_is_final hsteps .response
  obtain ⟨came, htrail, hlast, hend⟩ := hcodes talk _ hg
  obtain ⟨hmap, hfinal⟩ := hend _ _ rfl
  obtain ⟨hlength, -⟩ := hfinal 1 204 (hkept ▸ rfl) (by decide) (by decide)
  rw [hmap, List.length_map] at hlength
  exact ⟨hsteps, came, talk, kept, hkept, hg, htrail, hmap, hlength⟩

end Retry

end Courier
