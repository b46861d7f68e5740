import Courier.Proofs.Retry.Trace

/-!
# Gates — what a dispatch has to pass

A dispatch asks once whether the client is closed, and where its request wants retries it then asks
once for a slot; only then does it call the transport.  This is so in every conversation
(`Gates.of_goes`), whoever answers and whatever happens between two of its deeds: a close may come
before the first question, between the two, or later.
-/

namespace Courier

variable {α β : Type}

/-- Whether a deed asks for leave to go on: whether the client is closed, or for a slot. -/
def Deed.asksLeave : Deed → Bool
  | .checked _ | .slot _ => true
  | _ => false

/-- A calm program never asks for leave. -/
theorem Program.Calm.goes {mayCall : Prop} {p q : Program β} {talk : List Deed}
    (hp : p.Calm mayCall) (hg : p.Goes talk q) : ∀ x ∈ talk, x.asksLeave = false := by
  induction hg with
  | stay p => exact fun x hx => nomatch hx
  | note hg ih => exact List.forall_mem_cons.mpr ⟨rfl, ih hp.2⟩
  | clock now hg ih => exact List.forall_mem_cons.mpr ⟨rfl, ih (hp now)⟩
  | sleep hg ih => exact List.forall_mem_cons.mpr ⟨rfl, ih hp⟩
  | pause hg ih => exact List.forall_mem_cons.mpr ⟨rfl, ih hp⟩
  | closed b hg ih => exact hp.elim
  | slot b hg ih => exact hp.elim
  | call behaviour hg ih => exact List.forall_mem_cons.mpr ⟨rfl, ih (hp.2 behaviour)⟩
  | answered hg ih => exact List.forall_mem_cons.mpr ⟨rfl, ih hp⟩
  | record refusal hg ih => exact List.forall_mem_cons.mpr ⟨rfl, ih (hp refusal)⟩

/-- **THE GATES OF A DISPATCH**: how far its conversation is, and what is left to do. -/
inductive Gates (request : Request) (handler : Handler α) :
    List Deed → Program (Outcome α) → Prop where
  | outside : Gates request handler [] (dispatch request handler)
  /-- The client is closed. -/
  | closed : Gates request handler [.checked true] (.done (.error .closed))
  /-- The request wants no retries. -/
  | plain {talk : List Deed} {q : Program (Outcome α)} (hr : request.hasRetryPolicy = false)
      (ht : ∀ x ∈ talk, x.asksLeave = false) : Gates request handler (.checked false :: talk) q
  /-- The request wants retries, and has no slot yet. -/
  | inLine {next : Bool → Program (Outcome α)} (hr : request.hasRetryPolicy = true) :
      Gates request handler [.checked false] (.slot next)
  | refused (hr : request.hasRetryPolicy = true) :
      Gates request handler [.checked false, .slot false] (.done (.error .closed))
  | granted {talk : List Deed} {q : Program (Outcome α)} (hr : request.hasRetryPolicy = true)
      (ht : ∀ x ∈ talk, x.asksLeave = false) :
      Gates request handler (.checked false :: .slot true :: talk) q

/-- **EVERY CONVERSATION OF A DISPATCH GOES THROUGH ITS GATES.** -/
theorem Gates.of_goes {request : Request} {handler : Handler α} {talk : List Deed}
    {q : Program (Outcome α)} (h : (dispatch request handler).Goes talk q) :
    Gates request handler talk q := by
  -- behind the gates there is nothing but attempts, and these ask for no leave
  have honce : ((attempt request handler [] .first).bind fun a => .done a.result).Calm True :=
    (attempt_calm request handler [] .first).bind fun _ => trivial
  cases h with
  | stay => exact .outside
  | closed b h =>
      cases b with
      | true =>
          cases h with
          | stay => exact .closed
      | false =>
          cases hr : request.hasRetryPolicy with
          | false =>
              rw [hr] at h
              exact .plain hr (honce.goes h)
          | true =>
              rw [hr] at h
              cases h with
              | stay => exact .inLine hr
              | slot granted h =>
                  cases granted with
                  | false =>
                      cases h with
                      | stay => exact .refused hr
                  | true =>
                      refine .granted hr (Program.Calm.goes (?_ : Program.Calm True _) h)
                      exact (Retry.attempts_calm request handler .empty []).bind
                        fun _ => ⟨rfl, trivial⟩

namespace Gates

variable {request : Request} {handler : Handler α} {talk : List Deed} {q : Program (Outcome α)}

/-- Whoever is told that the client is closed, or is refused a slot, calls nobody and comes to
    nothing but that. -/
theorem turnedDown (h : Gates request handler talk q)
    (ht : .checked true ∈ talk ∨ .slot false ∈ talk) :
    callsOf talk = [] ∧ q = .done (.error .closed) := by
  have hpassed : ∀ {rest : List Deed}, (∀ x ∈ rest, x.asksLeave = false) →
      ¬ (.checked true ∈ rest ∨ .slot false ∈ rest) := by
    rintro rest hrest (hx | hx) <;> exact nomatch hrest _ hx
  cases h with
  | outside => exact absurd ht (by simp)
  | closed => exact ⟨rfl, rfl⟩
  | plain hr hrest => exact (hpassed hrest (by simpa using ht)).elim
  | inLine hr => exact absurd ht (by simp)
  | refused hr => exact ⟨rfl, rfl⟩
  | granted hr hrest => exact (hpassed hrest (by simpa using ht)).elim

/-- Whoever wants retries and calls the transport has got a slot before, and asks for no other. -/
theorem slot_first (h : Gates request handler talk q) (hr : request.hasRetryPolicy = true)
    (hcalls : callsOf talk ≠ []) :
    ∃ rest, talk = .checked false :: .slot true :: rest ∧ ∀ b, .slot b ∉ rest := by
  cases h with
  | outside => exact absurd rfl hcalls
  | closed => exact absurd rfl hcalls
  | plain hr' ht => cases hr.symm.trans hr'
  | inLine hr' => exact absurd rfl hcalls
  | refused hr' => exact absurd rfl hcalls
  | granted hr' ht => exact ⟨_, rfl, fun b hb => nomatch ht _ hb⟩

/-- Whoever wants no retries asks for no slot. -/
theorem no_slot (h : Gates request handler talk q) (hr : request.hasRetryPolicy = false) (b : Bool) :
    .slot b ∉ talk := by
  cases h with
  | outside => exact List.not_mem_nil
  | closed => simp
  | plain hr' ht =>
      intro hb
      exact nomatch ht _ ((List.mem_cons.mp hb).resolve_left nofun)
  | inLine hr' => cases hr.symm.trans hr'
  | refused hr' => cases hr.symm.trans hr'
  | granted hr' ht => cases hr.symm.trans hr'

end Gates

end Courier
