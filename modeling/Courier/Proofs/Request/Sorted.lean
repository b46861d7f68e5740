import Courier.Request
import Mathlib.Data.List.Perm.Basic

/-!
# Sorted lists — headers as a map, enrolled codes and kinds as sets

The headers of a request are a list that is sorted by name, and what is enrolled for retries is a
list that is sorted by rank.  Every operation keeps them sorted and is described by what it does to
the values of a name (`Headers.lookup_update`), or to the members (`mem_enroll`).  A sorted list is
told by its members alone (`eq_of_members`), so two such lists are equal as soon as they agree as
maps or as sets, in whatever order they came about.
-/

namespace Courier

variable {β : Type}

/-- A strict order in which members may stand. -/
structure Strict (before : β → β → Prop) : Prop where
  irrefl : ∀ a, ¬ before a a
  asymm : ∀ a b, before a b → ¬ before b a

/-- **A SORTED LIST IS TOLD BY ITS MEMBERS.** -/
theorem eq_of_members {before : β → β → Prop} (hs : Strict before) {xs ys : List β}
    (hx : xs.Pairwise before) (hy : ys.Pairwise before) (h : ∀ a, a ∈ xs ↔ a ∈ ys) : xs = ys := by
  have hnodup : ∀ {zs : List β}, zs.Pairwise before → zs.Nodup := by
    intro zs hz
    refine hz.imp fun hab heq => ?_
    exact hs.irrefl _ (heq ▸ hab)
  refine List.Perm.eq_of_pairwise (fun a b _ _ hab hba => ?_) hx hy ?_
  · exact absurd hba (hs.asymm a b hab)
  · exact (List.perm_ext_iff_of_nodup (hnodup hx) (hnodup hy)).mpr h

/-! ## Headers -/

namespace Headers

/-- One header stands before another. -/
def Before (x y : String × List String) : Prop :=
  x.1 < y.1

/-- Every name stands once, in order. -/
def Sorted (headers : Headers) : Prop :=
  headers.Pairwise Before

theorem strict_before : Strict Before :=
  ⟨fun _ => String.lt_irrefl _, fun _ _ => String.lt_asymm⟩

variable {headers : Headers} {name n : String} {vs : List String}

theorem Sorted.names_nodup (hs : headers.Sorted) : (headers.map Prod.fst).Nodup := by
  refine List.pairwise_map.mpr (hs.imp fun {x y} hlt heq => ?_)
  have hself : x.1 < x.1 := by
    rw [Before, ← heq] at hlt
    exact hlt
  exact String.lt_irrefl _ hself

theorem mem_update {x : String × List String} {change : List String → List String}
    (h : x ∈ headers.update name change) : x.1 = name ∨ x ∈ headers := by
  induction headers with
  | nil =>
      rw [update, List.mem_singleton] at h
      exact Or.inl (congrArg Prod.fst h)
  | cons y rest ih =>
      obtain ⟨k, ws⟩ := y
      rw [update] at h
      split at h
      · exact (List.mem_cons.mp h).imp (congrArg Prod.fst) id
      · split at h
        · rename_i heq
          refine (List.mem_cons.mp h).imp (fun hx => ?_) (List.mem_cons_of_mem _)
          rw [hx, heq]
        · rcases List.mem_cons.mp h with hx | hx
          · exact Or.inr (hx ▸ List.mem_cons_self)
          · exact (ih hx).imp id (List.mem_cons_of_mem _)

theorem Sorted.update (hs : headers.Sorted) (name : String) (change : List String → List String) :
    (headers.update name change).Sorted := by
  induction headers with
  | nil => exact List.pairwise_singleton _ _
  | cons y rest ih =>
      obtain ⟨k, ws⟩ := y
      obtain ⟨hfirst, hrest⟩ := List.pairwise_cons.mp hs
      rw [Headers.update]
      split
      · rename_i hlt
        refine List.pairwise_cons.mpr ⟨fun x hx => ?_, hs⟩
        rcases List.mem_cons.mp hx with rfl | hx
        · exact hlt
        · exact String.lt_trans hlt (hfirst x hx)
      · rename_i hle
        split
        · exact List.pairwise_cons.mpr ⟨hfirst, hrest⟩
        · rename_i hne
          refine List.pairwise_cons.mpr ⟨fun x hx => ?_, ih hrest⟩
          rcases mem_update hx with hname | hx
          · -- the name is neither before the first nor the first
            show k < x.1
            rw [hname]
            refine Decidable.byContradiction fun hnot => hne ?_
            exact String.le_antisymm (String.not_lt.mp hnot) (String.not_lt.mp hle)
          · exact hfirst x hx

/-- A name that stands before the first does not occur. -/
theorem lookup_of_before (h : ∀ x ∈ headers, name < x.1) : headers.lookup name = none := by
  refine List.lookup_eq_none_iff.mpr fun x hx => bne_iff_ne.mpr ?_
  rintro rfl
  exact String.lt_irrefl _ (h x hx)

/-- **A CHANGE IS SEEN UNDER ITS NAME ONLY**, and a name that did not occur had no values. -/
theorem Sorted.lookup_update (hs : headers.Sorted) (change : List String → List String) :
    (headers.update name change).lookup n
      = if n = name then some (change (headers.values name)) else headers.lookup n := by
  induction headers with
  | nil =>
      rw [Headers.update, List.lookup_cons]
      by_cases hn : n = name
      · rw [hn, beq_self_eq_true, if_pos rfl]
        rfl
      · rw [beq_false_of_ne hn, if_neg hn]
  | cons y rest ih =>
      obtain ⟨k, ws⟩ := y
      obtain ⟨hfirst, hrest⟩ := List.pairwise_cons.mp hs
      rw [Headers.update]
      split
      · rename_i hlt
        have hnone : ((k, ws) :: rest).lookup name = none := by
          refine lookup_of_before (List.forall_mem_cons.mpr ⟨hlt, fun x hx => ?_⟩)
          exact String.lt_trans hlt (hfirst x hx)
        rw [List.lookup_cons, values, hnone]
        by_cases hn : n = name
        · rw [hn, beq_self_eq_true, if_pos rfl]
          rfl
        · rw [beq_false_of_ne hn, if_neg hn]
      · split
        · rename_i heq
          rw [List.lookup_cons, List.lookup_cons, values, heq, List.lookup_cons_self]
          by_cases hn : n = k
          · rw [hn, beq_self_eq_true, if_pos rfl]
            rfl
          · rw [beq_false_of_ne hn, if_neg hn]
        · rename_i hne
          have hvalues : values name ((k, ws) :: rest) = values name rest := by
            rw [values, List.lookup_cons, beq_false_of_ne hne]
            rfl
          rw [List.lookup_cons, List.lookup_cons, hvalues, ih hrest]
          by_cases hn : n = k
          · have hname : k ≠ name := Ne.symm hne
            rw [hn, beq_self_eq_true, if_neg hname, if_neg hname]
          · rw [beq_false_of_ne hn]

/-- What stands under a name is found there. -/
theorem Sorted.lookup_iff (hs : headers.Sorted) :
    headers.lookup n = some vs ↔ (n, vs) ∈ headers := by
  constructor
  · intro h
    obtain ⟨before, after, heq, -⟩ := List.lookup_eq_some_iff.mp h
    exact heq ▸ List.mem_append_right before List.mem_cons_self
  · intro h
    obtain ⟨before, after, heq⟩ := List.append_of_mem h
    refine List.lookup_eq_some_iff.mpr ⟨before, after, heq, fun x hx => bne_iff_ne.mpr ?_⟩
    rw [heq] at hs
    have hbefore : Before x (n, vs) := (List.pairwise_append.mp hs).2.2 x hx _ List.mem_cons_self
    rintro rfl
    exact String.lt_irrefl _ hbefore

/-- **HEADERS ARE TOLD BY THE VALUES OF THE NAMES.** -/
theorem Sorted.ext {headers' : Headers} (hs : headers.Sorted) (hs' : headers'.Sorted)
    (h : ∀ n, headers.lookup n = headers'.lookup n) : headers = headers' := by
  refine eq_of_members strict_before hs hs' fun x => ?_
  rw [← hs.lookup_iff, ← hs'.lookup_iff, h]

end Headers

/-! ## What is enrolled -/

section Enroll

variable {rank : β → Nat} {a b : β} {xs ys : List β}

/-- A list is sorted by rank. -/
def Ranked (rank : β → Nat) (xs : List β) : Prop :=
  xs.Pairwise fun a b => rank a < rank b

theorem Ranked.filter (hs : Ranked rank xs) (keep : β → Bool) : Ranked rank (xs.filter keep) :=
  List.Pairwise.filter keep hs

/-- **WHAT IS ENROLLED IS TOLD BY ITS MEMBERS.** -/
theorem Ranked.ext (hs : Ranked rank xs) (hs' : Ranked rank ys) (h : ∀ a, a ∈ xs ↔ a ∈ ys) :
    xs = ys := by
  have hstrict : Strict fun a b => rank a < rank b :=
    ⟨fun _ => Nat.lt_irrefl _, fun _ _ => Nat.lt_asymm⟩
  exact eq_of_members hstrict hs hs' h

variable [DecidableEq β]

theorem mem_enroll : b ∈ enroll rank a xs ↔ b = a ∨ b ∈ xs := by
  induction xs with
  | nil => simp [enroll]
  | cons x rest ih =>
      rw [enroll]
      split
      · exact List.mem_cons
      · split
        · rename_i heq
          simp [heq]
        · rw [List.mem_cons, ih, List.mem_cons]
          exact or_left_comm

theorem Ranked.enroll (hs : Ranked rank xs) (hinj : ∀ a b, rank a = rank b → a = b) (a : β) :
    Ranked rank (enroll rank a xs) := by
  induction xs with
  | nil => exact List.pairwise_singleton _ _
  | cons x rest ih =>
      obtain ⟨hfirst, hrest⟩ := List.pairwise_cons.mp hs
      rw [Courier.enroll]
      split
      · rename_i hlt
        refine List.pairwise_cons.mpr ⟨fun y hy => ?_, hs⟩
        rcases List.mem_cons.mp hy with rfl | hy
        · exact hlt
        · exact Nat.lt_trans hlt (hfirst y hy)
      · rename_i hle
        split
        · exact hs
        · rename_i hne
          refine List.pairwise_cons.mpr ⟨fun y hy => ?_, ih hrest⟩
          rcases mem_enroll.mp hy with rfl | hy
          · exact Nat.lt_of_le_of_ne (Nat.le_of_not_lt hle) fun heq => hne (hinj _ _ heq.symm)
          · exact hfirst y hy

end Enroll

/-- Kinds have different ranks. -/
theorem FailureKind.rank_inj (k k' : FailureKind) (h : k.rank = k'.rank) : k = k' := by
  have hmem : k ∈ FailureKind.all := by
    cases k <;> decide
  exact (List.idxOf_inj hmem).mp h

end Courier
