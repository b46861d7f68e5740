import Courier.Request.Builder
import Courier.Proofs.Request.Sorted

/-!
# Identity — what a request depends on

A step of building says something about one part of the request (`Step.effects`): a header name, the
query, a status code, a kind of failure, or one of the fields that are simply set.  What was said
about one part decides that part alone, in the order it was said (`Sees.decided`), so two ways of
building in which every part was told the same (`Agree`) give the same request, however they mix the
parts (`Request.identity`), and every part is described by what was said about it (`Describes`).
-/

namespace Courier

open Courier.Text

/-- What is said about a header name. -/
inductive HeaderCall where
  | add (value : String)
  | set (value : String)
  deriving DecidableEq

namespace HeaderCall

def value : HeaderCall → String
  | add v | set v => v

def isSet : HeaderCall → Bool
  | add _ => false
  | set _ => true

/-- The values of a name after a call. -/
def change : HeaderCall → List String → List String
  | add v, vs => vs ++ [v]
  | set v, _ => [v]

/-- The calls from the last one on that replaces the values; all calls if none does. -/
def lasting : List HeaderCall → List HeaderCall
  | [] => []
  | call :: rest => if rest.any isSet then lasting rest else call :: rest

variable {calls : List HeaderCall}

theorem lasting_ne_nil (h : calls ≠ []) : lasting calls ≠ [] := by
  induction calls with
  | nil => exact absurd rfl h
  | cons call rest ih =>
      rw [lasting]
      split
      · rename_i hany
        refine ih fun hnil => ?_
        rw [hnil] at hany
        exact absurd hany Bool.false_ne_true
      · exact List.cons_ne_nil _ _

/-- **ONLY THE LASTING CALLS TELL**, each with its value; what stood before stays if none replaces. -/
theorem foldl_change (calls : List HeaderCall) (vs : List String) :
    calls.foldl (fun vs call => call.change vs) vs
      = if calls.any isSet then (lasting calls).map value
        else vs ++ (lasting calls).map value := by
  induction calls generalizing vs with
  | nil => exact (List.append_nil vs).symm
  | cons call rest ih =>
      rw [List.foldl_cons, ih, lasting, List.any_cons]
      by_cases hany : rest.any isSet = true
      · simp only [hany, Bool.or_true, if_true]
      · have hrest : lasting rest = rest := by
          cases rest with
          | nil => rfl
          | cons c r =>
              rw [List.any_cons, Bool.or_eq_true, not_or] at hany
              exact if_neg hany.2
        cases call <;> simp [hany, hrest, change, isSet, value]

/-- What the calls for a name leave under it: nothing is there if there were none. -/
theorem foldl_lookup (calls : List HeaderCall) :
    calls.foldl (fun vs call => some (call.change (vs.getD []))) none
      = if calls = [] then none else some ((lasting calls).map value) := by
  have hsome : ∀ (calls : List HeaderCall) (vs : List String),
      calls.foldl (fun vs call => some (call.change (vs.getD []))) (some vs)
        = some (calls.foldl (fun vs call => call.change vs) vs) := by
    intro calls
    induction calls with
    | nil => exact fun _ => rfl
    | cons call rest ih => exact fun vs => ih (call.change vs)
  cases calls with
  | nil => rfl
  | cons call rest =>
      have hfold := foldl_change (call :: rest) []
      rw [List.nil_append, ite_self] at hfold
      rw [if_neg (List.cons_ne_nil call rest), ← hfold]
      exact hsome rest (call.change [])

end HeaderCall

namespace RequestBuilder

/-! ## What is said -/

/-- Something that is said about a request. -/
inductive Effect where
  | header (name : String) (call : HeaderCall)
  | query (name value : String)
  | status (code : Nat) (enrolled : Bool)
  | kind (kind : FailureKind) (enrolled : Bool)
  | method (name : String)
  | url (text : String)
  | body (octets : List UInt8)
  | timeout (length : Duration)
  | maxRetries (count : UInt32)
  | critical (flag : Bool)

/-- What a step says.  Names of headers are meant in any case; a JSON body says its content type. -/
def Step.effects : Step → List Effect
  | .reset => []
  | .method name => [.method name]
  | .url text => [.url text]
  | .addHeader name value => [.header (Ascii.lowercase name) (.add value)]
  | .setHeader name value => [.header (Ascii.lowercase name) (.set value)]
  | .query name value => [.query name value]
  | .body octets => [.body octets]
  | .json (.ok value) =>
    [.header "content-type" (.set "application/json"), .body (Utf8.encode value.print)]
  | .json (.error _) => []
  | .timeout length => [.timeout length]
  | .maxRetries count => [.maxRetries count]
  | .retryStatus code => [.status code true]
  | .unretryStatus code => [.status code false]
  | .retryKind kind => [.kind kind true]
  | .unretryKind kind => [.kind kind false]
  | .critical flag => [.critical flag]

/-- What stands after a step: a new builder has been told nothing. -/
def Step.onto (told : List Effect) : Step → List Effect
  | .reset => []
  | s => told ++ s.effects

/-- What steps have told the builder that comes of them. -/
def told (steps : List Step) : List Effect :=
  steps.foldl Step.onto []

/-- A builder that is told something. -/
def after (b : RequestBuilder) : Effect → RequestBuilder
  | .header name call => { b with headers := b.headers.update name call.change }
  | .query name value => { b with query := b.query ++ [(name, value)] }
  | .status code enrolled =>
    { b with retryStatuses :=
        if enrolled then
          if isSuccessCode code then b.retryStatuses else enroll id code b.retryStatuses
        else b.retryStatuses.filter (· != code) }
  | .kind kind enrolled =>
    { b with retryKinds :=
        if enrolled then enroll FailureKind.rank kind b.retryKinds
        else b.retryKinds.filter (· != kind) }
  | .method name => { b with method := name }
  | .url text => { b with url := some text }
  | .body octets => { b with body := some octets }
  | .timeout length => { b with timeout := some length }
  | .maxRetries count => { b with maxRetries := count }
  | .critical flag => { b with critical := flag }

/-- The builder that was told this. -/
def ofTold (effects : List Effect) : RequestBuilder :=
  effects.foldl after new

/-- Every step succeeds. -/
def Completes (steps : List Step) : Prop :=
  ∃ b, new.applyAll 0 steps = .ok b

/-- A result is fine exactly if it is some value. -/
theorem isOk_iff {ε α : Type} {x : Except ε α} : x.isOk = true ↔ ∃ a, x = .ok a := by
  cases x with
  | error e => exact iff_of_false Bool.false_ne_true nofun
  | ok a => exact iff_of_true rfl ⟨a, rfl⟩

instance (steps : List Step) : Decidable (Completes steps) :=
  decidable_of_iff _ isOk_iff

variable {b b' : RequestBuilder} {steps : List Step} {es es' : List Effect}

/-- A name that may stand is known in small letters. -/
theorem checkHeader_ok {name value n : String} (h : checkHeader name value = .ok n) :
    n = Ascii.lowercase name := by
  unfold checkHeader Http.fieldName? at h
  split at h
  · cases h
  · rename_i m hm
    split at hm
    · split at h
      · cases hm
        cases h
        rfl
      · cases h
    · cases hm

/-- A header call that succeeds is made under the name in small letters. -/
theorem map_checkHeader_ok {name value : String} (call : HeaderCall)
    (h : (checkHeader name value).map
      (fun n => { b with headers := b.headers.update n call.change }) = .ok b') :
    b' = b.after (.header (Ascii.lowercase name) call) := by
  cases hcheck : checkHeader name value with
  | error f =>
      rw [hcheck] at h
      cases h
  | ok n =>
      rw [hcheck] at h
      cases h
      rw [checkHeader_ok hcheck]
      rfl

/-- What a step adds to what was said, it does to the builder. -/
theorem ofTold_onto {s : Step} (hs : s.onto es = es ++ s.effects) :
    ofTold (s.onto es) = s.effects.foldl after (ofTold es) := by
  rw [hs]
  exact List.foldl_append

/-- **A STEP THAT SUCCEEDS DOES WHAT IT SAYS.** -/
theorem apply_ok {s : Step} (h : (ofTold es).apply s = .ok b') : b' = ofTold (s.onto es) := by
  cases s with
  | reset =>
      cases h
      rfl
  | addHeader name value =>
      rw [ofTold_onto]
      · exact map_checkHeader_ok (.add value) h
      · rfl
  | setHeader name value =>
      rw [ofTold_onto]
      · exact map_checkHeader_ok (.set value) h
      · rfl
  | json payload =>
      cases payload with
      | error words => cases h
      | ok value =>
          -- two things are said here
          cases hset : (ofTold es).setHeader "content-type" "application/json" with
          | error f =>
              rw [apply, json, hset] at h
              cases h
          | ok b₁ =>
              have hb₁ := map_checkHeader_ok (.set "application/json") hset
              have hname : Ascii.lowercase "content-type" = "content-type" := by decide
              rw [hname] at hb₁
              rw [apply, json, hset] at h
              cases h
              rw [hb₁, ofTold_onto] <;> rfl
  | retryStatus code =>
      cases h
      rw [ofTold_onto]
      · simp only [Step.effects, List.foldl_cons, List.foldl_nil, after, if_true]
        split <;> rfl
      · rfl
  | method | url | query | body | timeout | maxRetries | unretryStatus | retryKind | unretryKind
  | critical =>
      cases h
      rw [ofTold_onto] <;> rfl

/-- Steps that succeed give the builder that was told what they say. -/
theorem applyAll_ok {n : Nat} (h : (ofTold es).applyAll n steps = .ok b) :
    b = ofTold (steps.foldl Step.onto es) := by
  induction steps generalizing es n with
  | nil =>
      cases h
      rfl
  | cons s rest ih =>
      rw [applyAll] at h
      split at h
      · cases h
      · rename_i b₁ hs
        rw [apply_ok hs] at h
        exact ih h

/-! ## Parts -/

namespace Effect

/-- What is said about a header name. -/
def header? (name : String) : Effect → Option HeaderCall
  | .header n call => if n = name then some call else none
  | _ => none

/-- A parameter of the query. -/
def query? : Effect → Option (String × String)
  | .query name value => some (name, value)
  | _ => none

/-- Whether a code is enrolled or removed. -/
def status? (code : Nat) : Effect → Option Bool
  | .status c enrolled => if c = code then some enrolled else none
  | _ => none

/-- Whether a kind of failure is enrolled or removed. -/
def kind? (kind : FailureKind) : Effect → Option Bool
  | .kind k enrolled => if k = kind then some enrolled else none
  | _ => none

/-- The method, if this is about the method. -/
def method? : Effect → Option String
  | .method name => some name
  | _ => none

/-- The address, if this is about the address. -/
def url? : Effect → Option String
  | .url text => some text
  | _ => none

/-- The body, if this is about the body. -/
def body? : Effect → Option (List UInt8)
  | .body octets => some octets
  | _ => none

/-- The time limit, if this is about the time limit. -/
def timeout? : Effect → Option Duration
  | .timeout length => some length
  | _ => none

/-- The number of retries, if this is about their number. -/
def maxRetries? : Effect → Option UInt32
  | .maxRetries count => some count
  | _ => none

/-- Whether the request is critical, if this is about that. -/
def critical? : Effect → Option Bool
  | .critical flag => some flag
  | _ => none

end Effect

open Effect

variable {γ δ : Type}

/-- What was said about a header name. -/
def headerCalls (name : String) (es : List Effect) : List HeaderCall :=
  es.filterMap (header? name)

/-- The last thing that was said about a part. -/
def last? (part : Effect → Option δ) (es : List Effect) : Option δ :=
  (es.filterMap part).getLast?

/-- Every part was told the same: the same in the same order, or the same last where only the last
counts. -/
structure Agree (es es' : List Effect) : Prop where
  header : ∀ name, headerCalls name es = headerCalls name es'
  query : es.filterMap query? = es'.filterMap query?
  status : ∀ code, es.filterMap (status? code) = es'.filterMap (status? code)
  kind : ∀ kind, es.filterMap (kind? kind) = es'.filterMap (kind? kind)
  method : last? method? es = last? method? es'
  url : last? url? es = last? url? es'
  body : last? body? es = last? body? es'
  timeout : last? timeout? es = last? timeout? es'
  maxRetries : last? maxRetries? es = last? maxRetries? es'
  critical : last? critical? es = last? critical? es'

/-- Headers are in the order of their names, what is enrolled is in order, and no code of success
is enrolled. -/
structure Sound (b : RequestBuilder) : Prop where
  headers : b.headers.Sorted
  statuses : Ranked id b.retryStatuses
  failures : ∀ code ∈ b.retryStatuses, isSuccessCode code = false
  kinds : Ranked FailureKind.rank b.retryKinds

/-- A builder that was told nothing is sound. -/
theorem Sound.new : Sound RequestBuilder.new :=
  ⟨.nil, .nil, nofun, .nil⟩

/-- Whatever a builder is told, it stays sound. -/
theorem Sound.after (hb : Sound b) (e : Effect) : Sound (b.after e) := by
  cases e with
  | header name call => exact { hb with headers := hb.headers.update name _ }
  | status code enrolled =>
      rw [RequestBuilder.after]
      split
      · split
        · exact hb
        · rename_i hfails
          refine { hb with statuses := hb.statuses.enroll (fun _ _ => id) code,
                           failures := fun c hc => ?_ }
          rcases mem_enroll.mp hc with rfl | hc
          · exact eq_false_of_ne_true hfails
          · exact hb.failures c hc
      · exact { hb with statuses := hb.statuses.filter _,
                        failures := fun c hc => hb.failures c (List.mem_of_mem_filter hc) }
  | kind kind enrolled =>
      refine { hb with kinds := ?_ }
      rw [RequestBuilder.after]
      split
      · exact hb.kinds.enroll FailureKind.rank_inj kind
      · exact hb.kinds.filter _
  | query | method | url | body | timeout | maxRetries | critical => exact ⟨hb.1, hb.2, hb.3, hb.4⟩

theorem Sound.foldl (hb : Sound b) (es : List Effect) :
    Sound (es.foldl RequestBuilder.after b) := by
  induction es generalizing b with
  | nil => exact hb
  | cons e rest ih => exact ih (hb.after e)

/-- A builder is sound whatever it was told. -/
theorem Sound.ofTold (es : List Effect) : Sound (ofTold es) :=
  Sound.new.foldl es

/-- A view of a builder is changed by what is said about one part, and by nothing else. -/
def Sees (part : Effect → Option δ) (view : RequestBuilder → γ) (change : γ → δ → γ) : Prop :=
  ∀ b e, Sound b → view (b.after e) = (part e).elim (view b) (change (view b))

/-- **A PART IS DECIDED BY WHAT IT WAS TOLD**, in the order it was told. -/
theorem Sees.decided {part : Effect → Option δ} {view : RequestBuilder → γ} {change : γ → δ → γ}
    (h : Sees part view change) (es : List Effect) :
    view (ofTold es) = (es.filterMap part).foldl change (view new) := by
  suffices hall : ∀ b, Sound b →
      view (es.foldl after b) = (es.filterMap part).foldl change (view b) from
    hall new Sound.new
  induction es with
  | nil => exact fun _ _ => rfl
  | cons e rest ih =>
      intro b hb
      rw [List.foldl_cons, ih _ (hb.after e), h b e hb, List.filterMap_cons]
      cases part e <;> rfl

/-- Where a new value replaces the old one, the last one stands. -/
theorem foldl_last (f : δ → γ) (c : γ) (xs : List δ) :
    xs.foldl (fun _ x => f x) c = (xs.getLast?.map f).getD c := by
  induction xs generalizing c with
  | nil => rfl
  | cons x rest ih =>
      rw [List.foldl_cons, ih, List.getLast?_cons]
      cases rest.getLast? <;> rfl

/-! ## What each part sees -/

/-- The values of a name see the header calls of that name, in order. -/
theorem sees_header (name : String) :
    Sees (header? name) (·.headers.lookup name) fun vs call => some (call.change (vs.getD [])) := by
  intro b e hb
  cases e with
  | header n call =>
      show (b.headers.update n call.change).lookup name = _
      rw [hb.headers.lookup_update, header?]
      by_cases hn : n = name
      · rw [if_pos hn.symm, if_pos hn, hn]
        rfl
      · rw [if_neg (Ne.symm hn), if_neg hn]
        rfl
  | _ => rfl

/-- The query sees its parameters, and puts each at the end. -/
theorem sees_query :
    Sees query? (·.query) fun query param => query ++ [param] :=
  fun _ e _ => by cases e <;> rfl

/-- A code of success is never enrolled. -/
theorem sees_status (code : Nat) :
    Sees (status? code) (fun b => decide (code ∈ b.retryStatuses))
      fun _ enrolled => enrolled && !isSuccessCode code := by
  intro b e hb
  cases e with
  | status c enrolled =>
      rw [status?, after]
      by_cases hc : c = code
      · subst hc
        cases enrolled with
        | false => simp
        | true =>
            cases hs : isSuccessCode c with
            | false => simp [mem_enroll]
            | true =>
                -- it was not enrolled before either
                have hnot : c ∉ b.retryStatuses := fun hc => by
                  rw [hb.failures c hc] at hs
                  exact Bool.false_ne_true hs
                simp [hnot]
      · cases enrolled <;> cases isSuccessCode c <;> simp [mem_enroll, hc, Ne.symm hc]
  | _ => rfl

/-- A kind of failure is enrolled as was said last. -/
theorem sees_kind (kind : FailureKind) :
    Sees (kind? kind) (fun b => decide (kind ∈ b.retryKinds)) fun _ enrolled => enrolled := by
  intro b e hb
  cases e with
  | kind k enrolled =>
      rw [kind?, after]
      by_cases hk : k = kind
      · cases enrolled <;> simp [mem_enroll, hk]
      · cases enrolled <;> simp [mem_enroll, hk, Ne.symm hk]
  | _ => rfl

/-- The method is what was said last. -/
theorem sees_method : Sees method? (·.method) fun _ name => name :=
  fun _ e _ => by cases e <;> rfl

theorem sees_url : Sees url? (·.url) fun _ text => some text :=
  fun _ e _ => by cases e <;> rfl

theorem sees_body : Sees body? (·.body) fun _ octets => some octets :=
  fun _ e _ => by cases e <;> rfl

theorem sees_timeout : Sees timeout? (·.timeout) fun _ length => some length :=
  fun _ e _ => by cases e <;> rfl

theorem sees_maxRetries : Sees maxRetries? (·.maxRetries) fun _ count => count :=
  fun _ e _ => by cases e <;> rfl

theorem sees_critical : Sees critical? (·.critical) fun _ flag => flag :=
  fun _ e _ => by cases e <;> rfl

/-! ## What parts amount to -/

section Parts

variable {part : Effect → Option δ} {view : RequestBuilder → γ} {change : γ → δ → γ} {f : δ → γ}

/-- A part that was told the same is the same. -/
theorem Sees.eq_of_same (h : Sees part view change)
    (hsame : es.filterMap part = es'.filterMap part) : view (ofTold es) = view (ofTold es') := by
  rw [h.decided, h.decided, hsame]

/-- A part that is replaced each time is what was said last. -/
theorem Sees.decided_last (h : Sees part view fun _ x => f x) (es : List Effect) :
    view (ofTold es) = ((last? part es).map f).getD (view new) :=
  (h.decided es).trans (foldl_last f _ _)

theorem Sees.decided_value {view : RequestBuilder → δ} (h : Sees part view fun _ x => x)
    (es : List Effect) : view (ofTold es) = (last? part es).getD (view new) := by
  rw [h.decided_last, Option.map_id']

theorem Sees.decided_option {view : RequestBuilder → Option δ}
    (h : Sees part view fun _ x => some x) (hnew : view new = none) (es : List Effect) :
    view (ofTold es) = last? part es := by
  rw [h.decided_last, hnew]
  cases last? part es <;> rfl

/-- Where each value replaces the one before, the same last word makes the same part. -/
theorem Sees.eq_of_last (h : Sees part view fun _ x => f x)
    (hlast : last? part es = last? part es') : view (ofTold es) = view (ofTold es') := by
  rw [h.decided_last, h.decided_last, hlast]

end Parts

attribute [ext] RequestBuilder

/-- **TELLINGS THAT AGREE GIVE ONE BUILDER**, however they mix the parts. -/
theorem Agree.ofTold_eq (h : Agree es es') : ofTold es = ofTold es' := by
  have hes := Sound.ofTold es
  have hes' := Sound.ofTold es'
  refine RequestBuilder.ext ?_ ?_ ?_ ?_ ?_ ?_ ?_ ?_ ?_ ?_
  · exact sees_method.eq_of_last h.method
  · exact sees_url.eq_of_last h.url
  · exact hes.headers.ext hes'.headers fun name => (sees_header name).eq_of_same (h.header name)
  · exact sees_query.eq_of_same h.query
  · exact sees_body.eq_of_last h.body
  · exact sees_timeout.eq_of_last h.timeout
  · exact sees_maxRetries.eq_of_last h.maxRetries
  · refine hes.statuses.ext hes'.statuses fun code => ?_
    simpa using (sees_status code).eq_of_same (h.status code)
  · refine hes.kinds.ext hes'.kinds fun kind => ?_
    simpa using (sees_kind kind).eq_of_same (h.kind kind)
  · exact sees_critical.eq_of_last h.critical

/-- The parameters, in the order they were said. -/
theorem query_ofTold (es : List Effect) : (ofTold es).query = es.filterMap query? := by
  have happend : ∀ ps qs : List (String × String),
      ps.foldl (fun query param => query ++ [param]) qs = qs ++ ps := by
    intro ps
    induction ps with
    | nil => exact fun qs => (List.append_nil qs).symm
    | cons p rest ih =>
        intro qs
        rw [List.foldl_cons, ih, List.append_assoc]
        rfl
  exact (sees_query.decided es).trans (happend _ [])

/-- The codes that are enrolled in the end: no codes of success, and enrolled when last spoken of.
    -/
theorem mem_statuses_ofTold {code : Nat} :
    code ∈ (ofTold es).retryStatuses ↔
      isSuccessCode code = false ∧ last? (status? code) es = some true := by
  have hlast := (sees_status code).decided_last es
  cases hsaid : last? (status? code) es with
  | none => simpa [hsaid, new] using hlast
  | some enrolled =>
      cases enrolled <;> cases hs : isSuccessCode code <;> simpa [hsaid, hs, new] using hlast

/-- The kinds of failure that are enrolled in the end. -/
theorem mem_kinds_ofTold {kind : FailureKind} :
    kind ∈ (ofTold es).retryKinds ↔ last? (kind? kind) es = some true := by
  have hlast := (sees_kind kind).decided_value es
  cases hsaid : last? (kind? kind) es with
  | none => simpa [hsaid, new] using hlast
  | some enrolled => cases enrolled <;> simpa [hsaid, new] using hlast

/-- The values that stand under a name. -/
theorem lookup_ofTold (name : String) (es : List Effect) :
    (ofTold es).headers.lookup name
      = if headerCalls name es = [] then none
        else some ((HeaderCall.lasting (headerCalls name es)).map (·.value)) :=
  ((sees_header name).decided es).trans (HeaderCall.foldl_lookup _)

/-- The headers that stand in the end: those with a call, with the values that last. -/
theorem mem_headers_ofTold {name : String} {vs : List String} :
    (name, vs) ∈ (ofTold es).headers ↔
      headerCalls name es ≠ [] ∧ vs = (HeaderCall.lasting (headerCalls name es)).map (·.value) := by
  rw [← (Sound.ofTold es).headers.lookup_iff, lookup_ofTold]
  split
  · rename_i hnil
    exact iff_of_false nofun fun h => h.1 hnil
  · rename_i hne
    rw [Option.some.injEq]
    exact ⟨fun heq => ⟨hne, heq.symm⟩, fun h => h.2.symm⟩

/-- A call of a name was said. -/
theorem mem_of_headerCalls {name : String} {call : HeaderCall} (h : call ∈ headerCalls name es) :
    .header name call ∈ es := by
  obtain ⟨e, he, hsome⟩ := List.mem_filterMap.mp h
  cases e with
  | header n c =>
      rw [header?] at hsome
      split at hsome
      · rename_i hn
        cases hsome
        exact hn ▸ he
      · cases hsome
  | _ => cases hsome

/-- What was said was said by a step. -/
theorem mem_told {e : Effect} (h : e ∈ told steps) : ∃ s ∈ steps, e ∈ s.effects := by
  suffices hall : ∀ es, e ∈ steps.foldl Step.onto es → e ∈ es ∨ ∃ s ∈ steps, e ∈ s.effects from
    (hall [] h).resolve_left List.not_mem_nil
  clear h
  induction steps with
  | nil => exact fun _ => Or.inl
  | cons s rest ih =>
      intro es he
      rcases ih _ he with hs | ⟨s', hs', he'⟩
      · have hone : e ∈ es ∨ e ∈ s.effects := by
          cases s with
          | reset => exact absurd hs List.not_mem_nil
          | _ => exact List.mem_append.mp hs
        exact hone.imp id fun he => ⟨s, List.mem_cons_self, he⟩
      · exact Or.inr ⟨s', List.mem_cons_of_mem s hs', he'⟩

/-- Names of headers are known in small letters. -/
theorem lowercase_of_told {name : String} {call : HeaderCall}
    (h : .header name call ∈ told steps) : Ascii.lowercase name = name := by
  obtain ⟨s, -, hs⟩ := mem_told h
  cases s with
  | addHeader n value | setHeader n value =>
      cases List.mem_singleton.mp hs
      exact Text.Ascii.lowercase_lowercase n
  | json payload =>
      cases payload with
      | error words => cases hs
      | ok value =>
          simp only [Step.effects, List.mem_cons, Effect.header.injEq, reduceCtorEq,
            List.not_mem_nil, or_false] at hs
          rw [hs.1]
          decide
  | _ => simp [Step.effects] at hs

/-- **THE BUILDER THAT COMES OF STEPS IS THE ONE THAT WAS TOLD WHAT THEY SAY.** -/
theorem applyAll_new (h : new.applyAll 0 steps = .ok b) : b = ofTold (told steps) := by
  have hnew : (ofTold []).applyAll 0 steps = .ok b := h
  exact applyAll_ok hnew

end RequestBuilder

open RequestBuilder

namespace Request

/-- A request is described by what was said. -/
structure Describes (es : List Effect) (r : Request) : Prop where
  method : r.method = (last? Effect.method? es).getD "GET"
  url : ∃ url, Url.parse ((last? Effect.url? es).getD defaultUrl) = .ok url ∧
    r.url = url.addQuery (es.filterMap Effect.query?)
  /-- No name stands twice. -/
  names : (r.headers.map Prod.fst).Nodup
  /-- Exactly the names that something was said about stand there, each with the values of the
  lasting calls. -/
  headers : ∀ name vs, (name, vs) ∈ r.headers ↔
    headerCalls name es ≠ [] ∧ vs = (HeaderCall.lasting (headerCalls name es)).map (·.value)
  lowercase : ∀ name vs, (name, vs) ∈ r.headers → Ascii.lowercase name = name
  nonempty : ∀ name, (name, []) ∉ r.headers
  /-- The first of the values is the one that is found, in any case of letters. -/
  first : ∀ name, r.header? name =
    ((HeaderCall.lasting (headerCalls (Ascii.lowercase name) es)).map (·.value)).head?
  body : r.body = last? Effect.body? es
  timeout : r.timeout = last? Effect.timeout? es
  maxRetries : r.maxRetries = (last? Effect.maxRetries? es).getD 3
  statuses : ∀ code, code ∈ r.retryStatuses ↔
    ¬ (200 ≤ code ∧ code ≤ 299) ∧ last? (Effect.status? code) es = some true
  kinds : ∀ kind, kind ∈ r.retryKinds ↔ last? (Effect.kind? kind) es = some true
  critical : r.critical = (last? Effect.critical? es).getD false

/-- **WHAT IS BUILT IS DESCRIBED BY WHAT THE STEPS SAID.** -/
theorem describes_of_build {steps : List Step} {r : Request}
    (h : (ofTold (told steps)).build = .ok r) : Describes (told steps) r := by
  have hes := Sound.ofTold (told steps)
  rw [build] at h
  split at h
  · cases h
  · rename_i url hurl
    rw [sees_url.decided_option rfl] at hurl
    cases h
    exact {
      method := sees_method.decided_value _
      url := ⟨url, hurl, by rw [query_ofTold]⟩
      names := hes.headers.names_nodup
      headers := fun _ _ => mem_headers_ofTold
      lowercase := fun name vs hmem => by
        obtain ⟨call, hcall⟩ := List.exists_mem_of_ne_nil _ (mem_headers_ofTold.mp hmem).1
        exact lowercase_of_told (mem_of_headerCalls hcall)
      nonempty := fun name hmem => by
        obtain ⟨hne, heq⟩ := mem_headers_ofTold.mp hmem
        exact HeaderCall.lasting_ne_nil hne (List.map_eq_nil_iff.mp heq.symm)
      first := fun name => by
        rw [header?, Headers.values, lookup_ofTold]
        split
        · rename_i hnil
          rw [hnil]
          rfl
        · rfl
      body := sees_body.decided_option rfl _
      timeout := sees_timeout.decided_option rfl _
      maxRetries := sees_maxRetries.decided_value _
      statuses := fun code => by
        rw [mem_statuses_ofTold]
        refine and_congr_left' ?_
        simp only [isSuccessCode]
        grind
      kinds := fun _ => mem_kinds_ofTold
      critical := sees_critical.decided_value _ }

/-- **A REQUEST DEPENDS ON WHAT WAS SAID ABOUT EACH PART, AND ON NOTHING ELSE.**  Steps that build a
request build the one that is described by what they say, and steps that all succeed and told every
part the same have the same outcome: the same request, which is the same key, or the same error. -/
theorem identity (steps : List Step) :
    (∀ r, ofSteps steps = .ok r → Describes (told steps) r) ∧
      ∀ others, Completes steps → Completes others → Agree (told steps) (told others) →
        ofSteps steps = ofSteps others := by
  constructor
  · intro r h
    rw [ofSteps] at h
    split at h
    · cases h
    · rename_i b hb
      rw [applyAll_new hb] at h
      exact describes_of_build h
  · rintro others ⟨b, hb⟩ ⟨b', hb'⟩ hagree
    have heq : b = b' := by
      rw [applyAll_new hb, applyAll_new hb']
      exact hagree.ofTold_eq
    rw [ofSteps, ofSteps, hb, hb', heq]

/-- Steps that come back to a part after another. -/
def mixedSteps : List Step :=
  [.addHeader "X-Trace" "1", .retryStatus 503, .json (.ok .null), .setHeader "x-trace" "2",
    .unretryStatus 503, .url "http://[::1]/", .addHeader "X-TRACE" "3"]

/-- Steps that finish one part before the next, with the JSON text as a plain body. -/
def groupedSteps : List Step :=
  [.addHeader "x-trace" "1", .setHeader "X-Trace" "2", .addHeader "x-Trace" "3",
    .setHeader "Content-Type" "application/json", .body [110, 117, 108, 108],
    .retryStatus 503, .unretryStatus 503, .url "http://[::1]/"]

theorem identity_of_mixed :
    (∃ r, ofSteps mixedSteps = .ok r ∧ Describes (told mixedSteps) r) ∧
      Completes mixedSteps ∧ Completes groupedSteps ∧ Agree (told mixedSteps) (told groupedSteps) ∧
        ofSteps mixedSteps = ofSteps groupedSteps := by
  have hmixed : Completes mixedSteps := by decide +kernel
  have hgrouped : Completes groupedSteps := by decide +kernel
  have htrace : ∀ name ∈ ["X-Trace", "x-trace", "X-TRACE", "x-Trace"],
      Ascii.lowercase name = "x-trace" := by decide
  have htype : Ascii.lowercase "Content-Type" = "content-type" := by decide
  have hagree : Agree (told mixedSteps) (told groupedSteps) := by
    have hbody : Utf8.encode Json.null.print = [110, 117, 108, 108] := by decide +kernel
    simp only [told, mixedSteps, groupedSteps, List.foldl_cons, List.foldl_nil, Step.onto,
      Step.effects, List.nil_append, List.cons_append, htrace, htype, hbody, List.mem_cons, true_or,
      or_true]
    refine { header := fun name => ?_, status := fun _ => rfl, kind := fun _ => rfl, query := rfl,
             method := rfl, url := rfl, body := rfl, timeout := rfl, maxRetries := rfl,
             critical := rfl }
    by_cases hx : "x-trace" = name
    · subst hx
      rfl
    · simp [headerCalls, List.filterMap_cons, Effect.header?, hx]
  obtain ⟨r, hr⟩ : ∃ r, ofSteps mixedSteps = .ok r := isOk_iff.mp (by decide +kernel)
  exact ⟨⟨r, hr, (identity mixedSteps).1 r hr⟩, hmixed, hgrouped, hagree,
    (identity mixedSteps).2 groupedSteps hmixed hgrouped hagree⟩

end Request

end Courier
