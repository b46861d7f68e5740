import Courier.Proofs.Cache.Answers

/-!
# Room — a cache that is large enough

A get may leave more entries than are allowed, and then the cache makes room and drops entries that
are still good.  As long as no get of a history does (`History.Roomy`), no room is ever made, and
every event does to the view just what it says (`view_step_of_room`): the cache is a map from
requests to entries.

Whether a get is a hit depends on the entry that the request has (`History.isHit`).
-/

namespace Courier

namespace Cache

variable {c c' : Cache}

/-- A cache that is small enough stays as it is when room is made. -/
theorem enforceCapacity_of_size (h : c.size ≤ c.config.maximumSize) :
    c.enforceCapacity.1 = c := by
  rw [enforceCapacity, Nat.sub_eq_zero_of_le h]
  rfl

/-- A request that is found occurs. -/
theorem mem_keys_iff {r : Request} : r ∈ c.entries.map Prod.fst ↔ c.find? r ≠ none := by
  constructor
  · intro hmem hnone
    exact Entries.not_mem_keys_of_lookup hnone hmem
  · intro hfound
    refine Decidable.byContradiction fun hno => hfound (List.lookup_eq_none_iff.mpr ?_)
    intro p hp
    refine bne_iff_ne.mpr fun heq => hno ?_
    exact heq ▸ List.mem_map_of_mem hp

/-- A cache has at most as many entries as there are requests that may have one. -/
theorem size_le_of_keys (hd : Entries.Distinct c.entries) (keys : List Request)
    (h : ∀ r, c.find? r ≠ none → r ∈ keys) : c.size ≤ keys.length := by
  have hlen := List.Nodup.length_le_of_subset hd fun r hr => h r (mem_keys_iff.mp hr)
  rw [List.length_map] at hlen
  exact hlen

/-- A cache that has entries for fewer requests is not larger. -/
theorem size_le_of_find? (hd : Entries.Distinct c.entries)
    (h : ∀ r, c.find? r ≠ none → c'.find? r ≠ none) : c.size ≤ c'.size := by
  have hlen := size_le_of_keys hd _ fun r hr => mem_keys_iff.mpr (h r hr)
  rw [List.length_map] at hlen
  exact hlen

/-- A cache with an entry is not empty. -/
theorem size_pos_of_find? {r : Request} {e : CacheEntry} (h : c.find? r = some e) : 0 < c.size := by
  have hmem := mem_keys_iff.mpr (Option.ne_none_iff_exists'.mpr ⟨e, h⟩)
  have hpos := List.length_pos_of_mem hmem
  rw [List.length_map] at hpos
  exact hpos

end Cache

namespace History

variable {config : CacheConfig} {h : History}

/-- Whether no room has to be made for an event: a get leaves no more entries than are allowed. -/
def HasRoom (h : History) : CacheEvent → Prop
  | .get r => (h.ask r).cache.size ≤ h.cache.config.maximumSize
  | _ => True

/-- Whether no room has to be made while some events happen: at no time there are more entries than
    are allowed. -/
def Roomy (h : History) : List CacheEvent → Prop
  | [] => True
  | ev :: rest => h.HasRoom ev ∧ (h.step ev).Roomy rest

instance (h : History) (ev : CacheEvent) : Decidable (h.HasRoom ev) :=
  match ev with
  | .get r => inferInstanceAs (Decidable ((h.ask r).cache.size ≤ h.cache.config.maximumSize))
  | .pass _ | .invalidate _ | .invalidateAll | .purge | .land _ _ => .isTrue trivial

/-- Whether there is always room can be computed. -/
instance decidableRoomy : (h : History) → (events : List CacheEvent) → Decidable (h.Roomy events)
  | _, [] => .isTrue trivial
  | h, ev :: rest =>
    have := decidableRoomy (h.step ev) rest
    inferInstanceAs (Decidable (h.HasRoom ev ∧ (h.step ev).Roomy rest))

/-- There is always room if there is before and after. -/
theorem roomy_append {before after : List CacheEvent} :
    h.Roomy (before ++ after) ↔ h.Roomy before ∧ (h.steps before).Roomy after := by
  induction before generalizing h with
  | nil => exact ⟨fun hr => ⟨trivial, hr⟩, fun hr => hr.2⟩
  | cons ev rest ih => exact (and_congr_right fun _ => ih).trans and_assoc.symm

/-- What every history of a cache is: in order, sound, and of one configuration. -/
structure Proper (config : CacheConfig) (h : History) : Prop where
  orderly : h.Orderly
  sound : h.view.Sound
  config : h.cache.config = config

/-- Whatever happens, it is still the history of a cache. -/
theorem Proper.steps (hp : h.Proper config) (events : List CacheEvent) :
    (h.steps events).Proper config :=
  ⟨orderly_steps hp.orderly events, sound_steps hp.orderly hp.sound events,
    (config_steps hp.orderly events).trans hp.config⟩

theorem Proper.step (hp : h.Proper config) (ev : CacheEvent) : (h.step ev).Proper config :=
  hp.steps [ev]

/-- Nothing has happened to a cache that is new. -/
theorem proper_start (config : CacheConfig) : (start config).Proper config :=
  ⟨orderly_start config, CacheView.sound_start config, rfl⟩

/-- All runs of a cache are such histories. -/
theorem proper_run (config : CacheConfig) (events : List CacheEvent) :
    (run config events).Proper config :=
  (proper_start config).steps events

/-- What a get makes of a cache is what it makes of the view of it. -/
theorem Proper.view_ask (hp : h.Proper config) (r : Request) :
    (h.ask r).view = h.view.ask config r :=
  hp.config ▸ (asked hp.orderly r).view

/-- The load that answers it can be told from the view. -/
theorem Proper.answer (hp : h.Proper config) (r : Request) :
    h.answer r = h.view.answer config r :=
  hp.config ▸ answer_eq hp.orderly r

/-- An event that no room has to be made for does to a view what it says. -/
theorem view_step_of_room (hp : h.Proper config) (ev : CacheEvent) (hroom : h.HasRoom ev) :
    (h.step ev).view = h.view.next config ev := by
  rw [← hp.config]
  refine view_step hp.orderly ?_
  rintro r rfl
  refine Cache.enforceCapacity_of_size ?_
  rw [(asked hp.orderly r).config]
  exact hroom

end History

/-! ## Hits -/

/-- Whether asking for a request is a hit: it has an entry, and not one whose value has expired. -/
def CacheView.isHit (config : CacheConfig) (v : CacheView) (r : Request) : Bool :=
  (v.find? r).any fun e => !e.isExpired v.now config.expire

namespace History

/-- Whether asking for a request now is a hit. -/
def isHit (h : History) (r : Request) : Bool :=
  h.view.isHit h.cache.config r

end History

end Courier
