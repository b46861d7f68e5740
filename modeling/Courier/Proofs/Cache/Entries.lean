import Courier.Cache

/-!
# Entries — the entries of a cache as a map

The cache keeps its entries in a list.  As long as no request occurs twice
(`Distinct`) the list is a map from requests to entries, and every operation on
it is described by what it does to `lookup`:

* `adjust` changes the entry of one request (`lookup_adjust`),
* `remove` takes it away (`lookup_remove`),
* a filter keeps or drops each entry by itself (`lookup_filter`).
-/

namespace Courier

namespace Entries

variable {entries : Entries} {r r' : Request} {e : CacheEntry}

/-- No request occurs twice. -/
def Distinct (entries : Entries) : Prop :=
  (entries.map Prod.fst).Nodup

/-- Of distinct entries, what is there is found. -/
theorem lookup_of_mem (hd : Distinct entries) (h : (r, e) ∈ entries) :
    entries.lookup r = some e := by
  induction entries with
  | nil => exact nomatch h
  | cons hd' tl ih =>
      obtain ⟨k, x⟩ := hd'
      obtain ⟨hk, hrest⟩ := List.nodup_cons.mp (show (k :: tl.map Prod.fst).Nodup from hd)
      rcases List.mem_cons.mp h with heq | hmem
      · cases heq
        exact List.lookup_cons_self
      · have hne : r ≠ k := by
          intro hrk
          exact hk (hrk ▸ List.mem_map_of_mem hmem)
        rw [List.lookup_cons, beq_eq_false_iff_ne.mpr hne]
        exact ih hrest hmem

/-- A request that is not found does not occur. -/
theorem not_mem_keys_of_lookup (h : entries.lookup r = none) : r ∉ entries.map Prod.fst := by
  intro hmem
  obtain ⟨p, hp, rfl⟩ := List.mem_map.mp hmem
  have hne := List.lookup_eq_none_iff.mp h p hp
  simp at hne

/-- A request that is not found can be added. -/
theorem Distinct.append_singleton (hd : Distinct entries) (h : entries.lookup r = none) :
    Distinct (entries ++ [(r, e)]) := by
  rw [Distinct, List.map_append]
  refine List.nodup_append.mpr ⟨hd, List.nodup_cons.mpr ⟨List.not_mem_nil, List.nodup_nil⟩, ?_⟩
  intro a ha b hb hab
  have hbr : b = r := List.mem_singleton.mp hb
  rw [hab, hbr] at ha
  exact not_mem_keys_of_lookup h ha

/-- A change of one entry leaves the requests alone. -/
theorem keys_adjust (change : CacheEntry → CacheEntry) :
    (adjust r change entries).map Prod.fst = entries.map Prod.fst := by
  rw [adjust, List.map_map]
  refine List.map_congr_left ?_
  intro p _
  show (if p.1 = r then (p.1, change p.2) else (p.1, p.2)).1 = p.1
  split <;> rfl

/-- A change of one entry is seen under its request only. -/
theorem lookup_adjust (change : CacheEntry → CacheEntry) :
    (adjust r change entries).lookup r'
      = if r' = r then (entries.lookup r').map change else entries.lookup r' := by
  induction entries with
  | nil => split <;> rfl
  | cons hd tl ih =>
      obtain ⟨k, x⟩ := hd
      have hcons : adjust r change ((k, x) :: tl)
          = (if k = r then (k, change x) else (k, x)) :: adjust r change tl := rfl
      rw [hcons]
      by_cases hk : r' = k
      · subst hk
        by_cases hr : r' = r
        · rw [if_pos hr, if_pos hr, List.lookup_cons_self, List.lookup_cons_self]
          rfl
        · rw [if_neg hr, if_neg hr, List.lookup_cons_self, List.lookup_cons_self]
      · have hb : (r' == k) = false := beq_eq_false_iff_ne.mpr hk
        have hskip : ((if k = r then (k, change x) else (k, x)) :: adjust r change tl).lookup r'
            = (adjust r change tl).lookup r' := by
          split <;> rw [List.lookup_cons, hb]
        rw [hskip, ih, List.lookup_cons, hb]

/-- A new request at the end is found there. -/
theorem lookup_append_singleton (h : entries.lookup r = none) :
    (entries ++ [(r, e)]).lookup r' = if r' = r then some e else entries.lookup r' := by
  rw [List.lookup_append]
  by_cases hr : r' = r
  · rw [hr, h, if_pos rfl, List.lookup_cons_self]
    rfl
  · rw [if_neg hr, List.lookup_cons, beq_eq_false_iff_ne.mpr hr]
    exact Option.or_none

/-- What was removed is not found, and everything else is. -/
theorem lookup_remove :
    (remove r entries).lookup r' = if r' = r then none else entries.lookup r' := by
  induction entries with
  | nil => split <;> rfl
  | cons hd tl ih =>
      obtain ⟨k, x⟩ := hd
      by_cases hk : k = r
      · have hcons : remove r ((k, x) :: tl) = remove r tl := by
          simp [remove, hk]
        rw [hcons, ih]
        by_cases hr : r' = r
        · rw [if_pos hr, if_pos hr]
        · rw [if_neg hr, if_neg hr, List.lookup_cons,
            beq_eq_false_iff_ne.mpr (hk ▸ hr : r' ≠ k)]
      · have hcons : remove r ((k, x) :: tl) = (k, x) :: remove r tl := by
          simp [remove, hk]
        by_cases hr : r' = k
        · rw [hcons, hr, List.lookup_cons_self, List.lookup_cons_self, if_neg hk]
        · rw [hcons, List.lookup_cons, List.lookup_cons, beq_eq_false_iff_ne.mpr hr]
          exact ih

/-- Of distinct entries, a filter judges each by itself. -/
theorem lookup_filter (keep : CacheEntry → Bool) (hd : Distinct entries) :
    (entries.filter fun p => keep p.2).lookup r = (entries.lookup r).filter keep := by
  induction entries with
  | nil => rfl
  | cons hd' tl ih =>
      obtain ⟨k, x⟩ := hd'
      obtain ⟨hk, hrest⟩ := List.nodup_cons.mp (show (k :: tl.map Prod.fst).Nodup from hd)
      by_cases hr : r = k
      · subst hr
        rw [List.lookup_cons_self, Option.filter_some]
        rw [List.filter_cons]
        by_cases hx : keep x = true
        · rw [if_pos hx, if_pos hx, List.lookup_cons_self]
        · rw [if_neg hx, if_neg hx]
          -- nothing further down the list has this request
          refine List.lookup_eq_none_iff.mpr ?_
          intro p hp
          have hne : r ≠ p.1 := by
            intro hrp
            exact hk (hrp ▸ List.mem_map_of_mem (List.mem_filter.mp hp).1)
          exact bne_iff_ne.mpr hne
      · have hb : (r == k) = false := beq_eq_false_iff_ne.mpr hr
        rw [List.lookup_cons, hb, List.filter_cons]
        split
        · rw [List.lookup_cons, hb]
          exact ih hrest
        · exact ih hrest

/-- The entry that was not asked for for the longest time is one of the entries that no load is
    running for. -/
theorem oldest?_mem {p : Request × CacheEntry} (h : oldest? entries = some p) :
    p ∈ entries ∧ p.2.isLoading = false := by
  have hfold : ∀ (rest : Entries) (first : Request × CacheEntry),
      rest.foldl older first = first ∨ rest.foldl older first ∈ rest := by
    intro rest
    induction rest with
    | nil => intro first; exact Or.inl rfl
    | cons x tl ih =>
        intro first
        rw [List.foldl_cons]
        rcases ih (older first x) with hold | hmem
        · rw [hold, older]
          split
          · exact Or.inr List.mem_cons_self
          · exact Or.inl rfl
        · exact Or.inr (List.mem_cons_of_mem _ hmem)
  rw [oldest?] at h
  split at h
  · exact nomatch h
  · rename_i first rest hfilter
    have hmem : p ∈ first :: rest := by
      rw [← Option.some.inj h]
      rcases hfold rest first with heq | htail
      · rw [heq]; exact List.mem_cons_self
      · exact List.mem_cons_of_mem _ htail
    rw [← hfilter] at hmem
    obtain ⟨hin, hidle⟩ := List.mem_filter.mp hmem
    exact ⟨hin, by simpa using hidle⟩

end Entries

end Courier
