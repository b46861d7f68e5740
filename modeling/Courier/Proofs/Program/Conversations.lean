import Courier.Ledger
import Courier.Retry

/-!
# Conversations — the ways through a program

A program is a tree.  At every point it asks for something or does something, and what it is told
says where it goes on.  A conversation is a way from one point of the tree to another
(`Program.Goes`): it leaves open who answers, so what holds of all conversations of a program holds
wherever the program runs, alone or beside others, and whatever time passes between two deeds.

A conversation with two programs in a row is a conversation with the first, and then one with the
second (`Program.Goes.through_bind`).  A program that runs alone has one conversation, in which the
ledger answers (`Program.play_of_calm`).
-/

namespace Courier

variable {β γ : Type}

/-- One thing that a program does or asks for, with what it is told. -/
inductive Deed where
  | noted (what : Happening)
  | time (now : Moment)
  | slept (length : Duration)
  | paused (attempt : Nat)
  | checked (closed : Bool)
  | slot (granted : Bool)
  | called (request : Request) (behaviour : Behaviour)
  | answered
  | recorded (record : Record) (refusal : Option String)

namespace Deed

/-- The retry that the delayer is asked about, if it is. -/
def pause? : Deed → Option Nat
  | paused attempt => some attempt
  | _ => none

/-- The request the transport is called with, and what it does, if it is called. -/
def call? : Deed → Option (Request × Behaviour)
  | called request behaviour => some (request, behaviour)
  | _ => none

end Deed

/-- The delays that were asked for in a conversation, in order. -/
def pausesOf (talk : List Deed) : List Nat :=
  talk.filterMap Deed.pause?

/-- The calls that were made in a conversation, in order. -/
def callsOf (talk : List Deed) : List (Request × Behaviour) :=
  talk.filterMap Deed.call?

theorem pausesOf_append (talk talk' : List Deed) :
    pausesOf (talk ++ talk') = pausesOf talk ++ pausesOf talk' :=
  List.filterMap_append

theorem callsOf_append (talk talk' : List Deed) :
    callsOf (talk ++ talk') = callsOf talk ++ callsOf talk' :=
  List.filterMap_append

/-- Whether something that happened is no more than a remark. -/
def Happening.isRemark : Happening → Bool
  | .told _ | .handled _ => true
  | _ => false

namespace Program

/-- Whether a program has nothing more to do or to ask for. -/
def isOver : Program β → Bool
  | .done _ | .panic _ | .stall => true
  | _ => false

/-- A program goes from one point to another in a conversation. -/
inductive Goes : Program β → List Deed → Program β → Prop where
  | stay (p : Program β) : Goes p [] p
  | note {what : Happening} {next q : Program β} {talk : List Deed} :
      Goes next talk q → Goes (.note what next) (.noted what :: talk) q
  | clock {next : Moment → Program β} {q : Program β} {talk : List Deed} (now : Moment) :
      Goes (next now) talk q → Goes (.clock next) (.time now :: talk) q
  | sleep {length : Duration} {next q : Program β} {talk : List Deed} :
      Goes next talk q → Goes (.sleep length next) (.slept length :: talk) q
  | pause {attempt : Nat} {next q : Program β} {talk : List Deed} :
      Goes next talk q → Goes (.pause attempt next) (.paused attempt :: talk) q
  | closed {next : Bool → Program β} {q : Program β} {talk : List Deed} (b : Bool) :
      Goes (next b) talk q → Goes (.closed next) (.checked b :: talk) q
  | slot {next : Bool → Program β} {q : Program β} {talk : List Deed} (b : Bool) :
      Goes (next b) talk q → Goes (.slot next) (.slot b :: talk) q
  | call {request : Request} {next : Behaviour → Program β} {q : Program β}
      {talk : List Deed} (behaviour : Behaviour) : Goes (next behaviour) talk q →
      Goes (.call request next) (.called request behaviour :: talk) q
  | answered {next q : Program β} {talk : List Deed} :
      Goes next talk q → Goes (.answered next) (.answered :: talk) q
  | record {r : Record} {next : Option String → Program β} {q : Program β}
      {talk : List Deed} (refusal : Option String) : Goes (next refusal) talk q →
      Goes (.record r next) (.recorded r refusal :: talk) q

variable {p q : Program β} {talk : List Deed}

/-! ## Programs in a row -/

/-- **A CONVERSATION WITH TWO PROGRAMS IN A ROW** is one with the first, as far as that has no
    value; and once it has, one with the second comes after it. -/
theorem Goes.through_bind {p : Program β} {k : β → Program γ} {q : Program γ} {talk : List Deed}
    (h : (p.bind k).Goes talk q) :
    (∃ p', p.Goes talk p' ∧ (∀ v, p' ≠ .done v) ∧ q = p'.bind k) ∨
      ∃ v first rest, talk = first ++ rest ∧ p.Goes first (.done v) ∧ (k v).Goes rest q := by
  -- each step of the first program is a deed of its conversation, and what it leads to is one more
  -- step away
  have step : ∀ {p next : Program β} {x : Deed} {talk : List Deed},
      (∀ {talk p'}, next.Goes talk p' → p.Goes (x :: talk) p') →
      ((∃ p', next.Goes talk p' ∧ (∀ v, p' ≠ .done v) ∧ q = p'.bind k) ∨
        ∃ v first rest, talk = first ++ rest ∧ next.Goes first (.done v) ∧ (k v).Goes rest q) →
      (∃ p', p.Goes (x :: talk) p' ∧ (∀ v, p' ≠ .done v) ∧ q = p'.bind k) ∨
        ∃ v first rest, x :: talk = first ++ rest ∧ p.Goes first (.done v) ∧
          (k v).Goes rest q := by
    rintro p next x talk hx (⟨p', hp, hv, rfl⟩ | ⟨v, first, rest, rfl, hp, hr⟩)
    · exact .inl ⟨p', hx hp, hv, rfl⟩
    · exact .inr ⟨v, x :: first, rest, rfl, hx hp, hr⟩
  induction p generalizing talk with
  | done value => exact .inr ⟨value, [], talk, rfl, .stay _, h⟩
  | panic text =>
      cases h with
      | stay => exact .inl ⟨.panic text, .stay _, nofun, rfl⟩
  | stall =>
      cases h with
      | stay => exact .inl ⟨.stall, .stay _, nofun, rfl⟩
  | note what next ih =>
      cases h with
      | stay => exact .inl ⟨.note what next, .stay _, nofun, rfl⟩
      | note h => exact step .note (ih h)
  | clock next ih =>
      cases h with
      | stay => exact .inl ⟨.clock next, .stay _, nofun, rfl⟩
      | clock now h => exact step (.clock now) (ih now h)
  | sleep length next ih =>
      cases h with
      | stay => exact .inl ⟨.sleep length next, .stay _, nofun, rfl⟩
      | sleep h => exact step .sleep (ih h)
  | pause attempt next ih =>
      cases h with
      | stay => exact .inl ⟨.pause attempt next, .stay _, nofun, rfl⟩
      | pause h => exact step .pause (ih h)
  | closed next ih =>
      cases h with
      | stay => exact .inl ⟨.closed next, .stay _, nofun, rfl⟩
      | closed b h => exact step (.closed b) (ih b h)
  | slot next ih =>
      cases h with
      | stay => exact .inl ⟨.slot next, .stay _, nofun, rfl⟩
      | slot b h => exact step (.slot b) (ih b h)
  | call request next ih =>
      cases h with
      | stay => exact .inl ⟨.call request next, .stay _, nofun, rfl⟩
      | call behaviour h => exact step (.call behaviour) (ih behaviour h)
  | answered next ih =>
      cases h with
      | stay => exact .inl ⟨.answered next, .stay _, nofun, rfl⟩
      | answered h => exact step .answered (ih h)
  | record r next ih =>
      cases h with
      | stay => exact .inl ⟨.record r next, .stay _, nofun, rfl⟩
      | record refusal h => exact step (.record refusal) (ih refusal h)

/-- A program without value that something follows is over where it is over itself. -/
theorem isOver_bind {p : Program β} (hp : ∀ v, p ≠ .done v) (k : β → Program γ) :
    (p.bind k).isOver = p.isOver := by
  cases p with
  | done value => exact absurd rfl (hp value)
  | _ => rfl

theorem bind_ne_done {p : Program β} (hp : ∀ v, p ≠ .done v) (k : β → Program γ) :
    ∀ w, p.bind k ≠ .done w := by
  cases p with
  | done value => exact absurd rfl (hp value)
  | _ => exact nofun

/-- A conversation that starts with notes. -/
theorem Goes.of_notes {whats : List Happening} {next : Program β}
    (h : (notes whats next).Goes talk q) (hq : q.isOver = true) :
    ∃ rest, talk = whats.map .noted ++ rest ∧ next.Goes rest q := by
  induction whats generalizing talk with
  | nil => exact ⟨talk, rfl, h⟩
  | cons what whats ih =>
      cases h with
      | stay => exact nomatch hq
      | note h =>
          obtain ⟨rest, rfl, hr⟩ := ih h
          exact ⟨rest, rfl, hr⟩

/-- A conversation that starts with notes is among them, or past them. -/
theorem Goes.through_notes {whats : List Happening} {next : Program β}
    (h : (notes whats next).Goes talk q) :
    (∃ rest, talk = whats.map Deed.noted ++ rest ∧ next.Goes rest q) ∨
      (q.isOver = false ∧ ∃ said : List Happening, talk = said.map Deed.noted ∧
        ∀ what ∈ said, what ∈ whats) := by
  induction whats generalizing talk with
  | nil => exact .inl ⟨talk, rfl, h⟩
  | cons what whats ih =>
      cases h with
      | stay => exact .inr ⟨rfl, [], rfl, fun _ h => nomatch h⟩
      | note h =>
          rcases ih h with ⟨rest, rfl, hrest⟩ | ⟨hq, said, rfl, hsaid⟩
          · exact .inl ⟨rest, rfl, hrest⟩
          · refine .inr ⟨hq, what :: said, rfl, ?_⟩
            exact List.forall_mem_cons.mpr
              ⟨List.mem_cons_self, fun w hw => List.mem_cons_of_mem _ (hsaid w hw)⟩

/-! ## Calm programs -/

/-- A program that never asks whether the client is closed, nor for a retry slot, and notes nothing
    but remarks.  Whether it may call the transport is another matter. -/
def Calm (mayCall : Prop) : Program β → Prop
  | .done _ | .panic _ | .stall => True
  | .note what next => what.isRemark = true ∧ next.Calm mayCall
  | .clock next => ∀ now, (next now).Calm mayCall
  | .sleep _ next | .pause _ next | .answered next => next.Calm mayCall
  | .closed _ | .slot _ => False
  | .call _ next => mayCall ∧ ∀ behaviour, (next behaviour).Calm mayCall
  | .record _ next => ∀ refusal, (next refusal).Calm mayCall

variable {mayCall : Prop}

theorem Calm.mono {mayCall' : Prop} (hp : p.Calm mayCall) (h : mayCall → mayCall') :
    p.Calm mayCall' := by
  induction p with
  | done value => exact trivial
  | panic text => exact trivial
  | stall => exact trivial
  | note what next ih => exact ⟨hp.1, ih hp.2⟩
  | clock next ih => exact fun now => ih now (hp now)
  | sleep length next ih => exact ih hp
  | pause attempt next ih => exact ih hp
  | closed next ih => exact hp.elim
  | slot next ih => exact hp.elim
  | call request next ih => exact ⟨h hp.1, fun behaviour => ih behaviour (hp.2 behaviour)⟩
  | answered next ih => exact ih hp
  | record r next ih => exact fun refusal => ih refusal (hp refusal)

theorem Calm.notes {whats : List Happening} {next : Program β}
    (hwhats : ∀ what ∈ whats, what.isRemark = true) (hnext : next.Calm mayCall) :
    (notes whats next).Calm mayCall := by
  induction whats with
  | nil => exact hnext
  | cons what whats ih =>
      exact ⟨hwhats what List.mem_cons_self, ih fun w hw => hwhats w (List.mem_cons_of_mem _ hw)⟩

theorem Calm.bind {k : β → Program γ} (hp : p.Calm mayCall) (hk : ∀ b, (k b).Calm mayCall) :
    (p.bind k).Calm mayCall := by
  induction p with
  | done value => exact hk value
  | panic text => exact trivial
  | stall => exact trivial
  | note what next ih => exact ⟨hp.1, ih hp.2⟩
  | clock next ih => exact fun now => ih now (hp now)
  | sleep length next ih => exact ih hp
  | pause attempt next ih => exact ih hp
  | closed next ih => exact hp.elim
  | slot next ih => exact hp.elim
  | call request next ih => exact ⟨hp.1, fun behaviour => ih behaviour (hp.2 behaviour)⟩
  | answered next ih => exact ih hp
  | record r next ih => exact fun refusal => ih refusal (hp refusal)

/-- A calm program that may not call makes no call. -/
theorem Calm.no_calls (hp : p.Calm False) (hg : p.Goes talk q) : callsOf talk = [] := by
  induction hg with
  | stay p => rfl
  | note hg ih => exact ih hp.2
  | clock now hg ih => exact ih (hp now)
  | sleep hg ih => exact ih hp
  | pause hg ih => exact ih hp
  | closed b hg ih => exact hp.elim
  | slot b hg ih => exact hp.elim
  | call behaviour hg ih => exact hp.1.elim
  | answered hg ih => exact ih hp
  | record refusal hg ih => exact ih (hp refusal)

/-! ## Programs alone -/

/-- A ledger has kept account of a conversation: the delays that were asked for, the calls that were
    made, and that it was the transport that said what it does with them. -/
structure Accounted (parts : Parts) (l : Ledger) (talk : List Deed) (l' : Ledger) : Prop where
  pauses : l'.pauses = (pausesOf talk).reverse ++ l.pauses
  calls : l'.calls.map Call.request
    = ((callsOf talk).map Prod.fst).reverse ++ l.calls.map Call.request
  answers : ∀ c ∈ callsOf talk, ∃ earlier call, c.2 = parts.transport earlier call

variable {parts : Parts} {l m l' : Ledger}

theorem Accounted.refl (parts : Parts) (l : Ledger) : Accounted parts l [] l :=
  ⟨rfl, rfl, fun _ h => nomatch h⟩

/-- A deed of which a ledger keeps nothing. -/
theorem Accounted.skip {x : Deed} (h : Accounted parts m talk l') (hp : x.pause? = none)
    (hc : x.call? = none) (hpauses : m.pauses = l.pauses) (hcalls : m.calls = l.calls) :
    Accounted parts l (x :: talk) l' := by
  have hp' : pausesOf (x :: talk) = pausesOf talk := List.filterMap_cons_none hp
  have hc' : callsOf (x :: talk) = callsOf talk := List.filterMap_cons_none hc
  refine ⟨?_, ?_, ?_⟩
  · rw [hp', ← hpauses]
    exact h.pauses
  · rw [hc', ← hcalls]
    exact h.calls
  · rw [hc']
    exact h.answers

/-- A delay that is asked for. -/
theorem Accounted.pause {attempt : Nat} (h : Accounted parts m talk l')
    (hpauses : m.pauses = attempt :: l.pauses) (hcalls : m.calls = l.calls) :
    Accounted parts l (.paused attempt :: talk) l' := by
  refine ⟨?_, ?_, h.answers⟩
  · show l'.pauses = (attempt :: pausesOf talk).reverse ++ l.pauses
    rw [h.pauses, hpauses, List.reverse_cons, List.append_assoc]
    rfl
  · rw [← hcalls]
    exact h.calls

/-- A call that is made. -/
theorem Accounted.call {task : Nat} {request : Request}
    (h : Accounted parts (l.call parts task request).1 talk l') :
    Accounted parts l (.called request (l.call parts task request).2 :: talk) l' := by
  refine ⟨h.pauses, ?_, ?_⟩
  · show _ = (request :: (callsOf talk).map Prod.fst).reverse ++ _
    rw [h.calls, List.reverse_cons, List.append_assoc]
    rfl
  · intro c hc
    rcases List.mem_cons.mp hc with rfl | hc
    · exact ⟨_, _, rfl⟩
    · exact h.answers c hc

theorem pauses_answered (l : Ledger) (task : Nat) :
    (l.answered task).pauses = l.pauses ∧ (l.answered task).calls = l.calls := by
  rw [Ledger.answered]
  split <;> exact ⟨rfl, rfl⟩

theorem pauses_record (l : Ledger) (parts : Parts) (task : Nat) (r : Record) :
    (l.record parts task r).1.pauses = l.pauses ∧ (l.record parts task r).1.calls = l.calls := by
  rw [Ledger.record]
  split <;> exact ⟨rfl, rfl⟩

/-- **A CALM PROGRAM THAT RUNS ALONE HAS A CONVERSATION TO THE END**, of which the ledger keeps
    account; and if that end is a value, the program comes to it, given enough time. -/
theorem play_of_calm (parts : Parts) (l : Ledger) (hp : p.Calm mayCall) :
    ∃ talk q l', p.Goes talk q ∧ q.isOver = true ∧ Accounted parts l talk l' ∧
      ∃ bound, ∀ limit, bound ≤ limit → ∀ v, q = .done v → p.play parts limit l = (l', .done v) := by
  -- the limit has to lie behind whatever the program waits for, so the bound grows with each wait
  induction p generalizing l with
  | done value =>
      refine ⟨[], _, l, .stay _, rfl, .refl parts l, 0, ?_⟩
      rintro limit - v hv
      cases hv
      rfl
  | panic text => exact ⟨[], _, l, .stay _, rfl, .refl parts l, 0, fun _ _ _ hv => nomatch hv⟩
  | stall => exact ⟨[], _, l, .stay _, rfl, .refl parts l, 0, fun _ _ _ hv => nomatch hv⟩
  | note what next ih =>
      obtain ⟨talk, q, l', hg, ho, ha, bound, hb⟩ := ih (l.mark (some 0) what) hp.2
      exact ⟨_, q, l', .note hg, ho, ha.skip rfl rfl rfl rfl, bound, hb⟩
  | clock next ih =>
      obtain ⟨talk, q, l', hg, ho, ha, bound, hb⟩ := ih l.now l (hp l.now)
      exact ⟨_, q, l', .clock _ hg, ho, ha.skip rfl rfl rfl rfl, bound, hb⟩
  | sleep length next ih =>
      obtain ⟨talk, q, l', hg, ho, ha, bound, hb⟩ := ih { l with elapsed := l.due length } hp
      refine ⟨_, q, l', .sleep hg, ho, ha.skip rfl rfl rfl rfl, max (l.due length) bound, ?_⟩
      intro limit hlimit v hv
      rw [play, if_neg (Nat.not_lt.mpr (Nat.le_trans (Nat.le_max_left _ _) hlimit))]
      exact hb limit (Nat.le_trans (Nat.le_max_right _ _) hlimit) v hv
  | pause attempt next ih =>
      let m := (l.pause parts 0 attempt).1
      let due := m.due (l.pause parts 0 attempt).2
      obtain ⟨talk, q, l', hg, ho, ha, bound, hb⟩ := ih { m with elapsed := due } hp
      refine ⟨_, q, l', .pause hg, ho, ha.pause rfl rfl, max due bound, ?_⟩
      intro limit hlimit v hv
      rw [play]
      refine (if_neg (Nat.not_lt.mpr (Nat.le_trans (Nat.le_max_left _ _) hlimit))).trans ?_
      exact hb limit (Nat.le_trans (Nat.le_max_right _ _) hlimit) v hv
  | closed next ih => exact hp.elim
  | slot next ih => exact hp.elim
  | call request next ih =>
      obtain ⟨talk, q, l', hg, ho, ha, bound, hb⟩ :=
        ih (l.call parts 0 request).2 (l.call parts 0 request).1 (hp.2 _)
      exact ⟨_, q, l', .call _ hg, ho, ha.call, bound, hb⟩
  | answered next ih =>
      obtain ⟨talk, q, l', hg, ho, ha, bound, hb⟩ := ih (l.answered 0) hp
      obtain ⟨hpauses, hcalls⟩ := pauses_answered l 0
      exact ⟨_, q, l', .answered hg, ho, ha.skip rfl rfl hpauses hcalls, bound, hb⟩
  | record r next ih =>
      obtain ⟨talk, q, l', hg, ho, ha, bound, hb⟩ :=
        ih (l.record parts 0 r).2 (l.record parts 0 r).1 (hp _)
      obtain ⟨hpauses, hcalls⟩ := pauses_record l parts 0 r
      exact ⟨_, q, l', .record _ hg, ho, ha.skip rfl rfl hpauses hcalls, bound, hb⟩

end Program

end Courier
