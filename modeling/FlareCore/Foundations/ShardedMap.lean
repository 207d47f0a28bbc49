import Mathlib.Data.List.AList
import Mathlib.Data.List.FinRange
import Mathlib.Data.Finset.Card
import Mathlib.Algebra.BigOperators.Fin

/-!
# Maps split over a fixed number of shards

A sharded map keeps its bindings in `n` small maps, and a function of the key
decides which of them a binding lives in.  Whoever looks a key up consults one
shard only, so the arrangement is sound exactly when every binding sits in the
shard of its own key.  That condition is the field `placed` of the structure
below: a map with a misplaced binding cannot be built, and the lookup laws need
no side condition.

Two kinds of operation are developed.  `get`, `insert` and `erase` touch one
shard.  `getMany` resolves a list of keys the way a batch reader does, by
collecting the keys of each shard and visiting the shards in order; the main
fact about it, `getMany_perm`, says that regrouping neither loses nor repeats a
key, whatever the distribution over the shards.
-/

namespace FlareCore.Foundations

set_option autoImplicit false

universe u v

/-- Grouping a list by a key and concatenating the groups permutes it. -/
theorem flatMap_filter_perm {α : Type u} {κ : Type v} [DecidableEq κ] (keyOf : α → κ)
    {keys : List κ} (nodup : keys.Nodup) {list : List α}
    (covered : ∀ item ∈ list, keyOf item ∈ keys) :
    (keys.flatMap fun key => list.filter fun item => keyOf item = key).Perm list := by
  induction keys generalizing list with
  | nil =>
      have empty : list = [] :=
        List.eq_nil_iff_forall_not_mem.mpr fun item member =>
          List.not_mem_nil (covered item member)
      rw [empty]
      rfl
  | cons key keys inductionHypothesis =>
      obtain ⟨fresh, nodup⟩ := List.nodup_cons.mp nodup
      -- the later groups do not miss the items of the first one
      have later : (keys.flatMap fun other => list.filter fun item => keyOf item = other) =
          keys.flatMap fun other =>
            (list.filter fun item => !decide (keyOf item = key)).filter
              fun item => keyOf item = other := by
        refine List.flatMap_congr ?_
        intro other member
        rw [List.filter_filter]
        refine List.filter_congr ?_
        intro item _
        by_cases here : keyOf item = other
        · have distinct : keyOf item ≠ key := fun same => fresh (same ▸ here ▸ member)
          simp [here, here ▸ distinct]
        · simp [here]
      rw [List.flatMap_cons, later]
      refine (List.Perm.append_left _ (inductionHypothesis nodup ?_)).trans
        (List.filter_append_perm _ _)
      intro item member
      obtain ⟨inList, other⟩ := List.mem_filter.mp member
      rcases List.mem_cons.mp (covered item inList) with same | inKeys
      · simp [same] at other
      · exact inKeys

/-- A map from `K` to `V` split over `n` shards by `shardOf`. -/
structure ShardedMap {K : Type u} {n : Nat} (shardOf : K → Fin n) (V : Type v) where
  shards : Fin n → AList (fun _ : K => V)
  placed : ∀ shard key, key ∈ shards shard → shardOf key = shard

namespace ShardedMap

variable {K : Type u} {V : Type v} {n : Nat} {shardOf : K → Fin n}

/-- The map without bindings. -/
def empty : ShardedMap shardOf V where
  shards := fun _ => ∅
  placed := fun _ key member => absurd member (AList.notMem_empty key)

instance : EmptyCollection (ShardedMap shardOf V) := ⟨empty⟩

instance : Inhabited (ShardedMap shardOf V) := ⟨empty⟩

/-- All keys, shard after shard. -/
def keys (m : ShardedMap shardOf V) : List K :=
  (List.finRange n).flatMap fun shard => (m.shards shard).keys

/-- All bindings, shard after shard. -/
def bindings (m : ShardedMap shardOf V) : List (K × V) :=
  (List.finRange n).flatMap fun shard =>
    (m.shards shard).entries.map fun entry => (entry.1, entry.2)

/-- The number of bindings. -/
def size (m : ShardedMap shardOf V) : Nat :=
  m.keys.length

variable [DecidableEq K]

/-- The value bound to a key, found in the key's own shard. -/
def get (m : ShardedMap shardOf V) (key : K) : Option V :=
  (m.shards (shardOf key)).lookup key

/-- Binds a key in its own shard, replacing an earlier binding. -/
def insert (m : ShardedMap shardOf V) (key : K) (value : V) : ShardedMap shardOf V where
  shards := Function.update m.shards (shardOf key)
    ((m.shards (shardOf key)).insert key value)
  placed := by
    intro shard other member
    by_cases same : shard = shardOf key
    · subst same
      rw [Function.update_self, AList.mem_insert] at member
      rcases member with rfl | member
      · rfl
      · exact m.placed _ _ member
    · rw [Function.update_of_ne same] at member
      exact m.placed _ _ member

/-- Removes the binding of a key, if there is one. -/
def erase (m : ShardedMap shardOf V) (key : K) : ShardedMap shardOf V where
  shards := Function.update m.shards (shardOf key) ((m.shards (shardOf key)).erase key)
  placed := by
    intro shard other member
    by_cases same : shard = shardOf key
    · subst same
      rw [Function.update_self, AList.mem_erase] at member
      exact m.placed _ _ member.2
    · rw [Function.update_of_ne same] at member
      exact m.placed _ _ member

/-! ## Lookup after an update -/

@[simp]
theorem get_empty (key : K) : (∅ : ShardedMap shardOf V).get key = none :=
  AList.lookup_empty key

@[simp]
theorem get_insert_self (m : ShardedMap shardOf V) (key : K) (value : V) :
    (m.insert key value).get key = some value := by
  simp only [get, insert, Function.update_self, AList.lookup_insert]

theorem get_insert_of_ne (m : ShardedMap shardOf V) {key other : K} (value : V)
    (distinct : other ≠ key) : (m.insert key value).get other = m.get other := by
  by_cases same : shardOf other = shardOf key
  · simp only [get, insert, same, Function.update_self, AList.lookup_insert_ne distinct]
  · simp only [get, insert, Function.update_of_ne same]

theorem get_insert (m : ShardedMap shardOf V) (key other : K) (value : V) :
    (m.insert key value).get other = if other = key then some value else m.get other := by
  split_ifs with same
  · rw [same, get_insert_self]
  · exact get_insert_of_ne m value same

@[simp]
theorem get_erase_self (m : ShardedMap shardOf V) (key : K) : (m.erase key).get key = none := by
  simp only [get, erase, Function.update_self, AList.lookup_erase]

theorem get_erase_of_ne (m : ShardedMap shardOf V) {key other : K}
    (distinct : other ≠ key) : (m.erase key).get other = m.get other := by
  by_cases same : shardOf other = shardOf key
  · simp only [get, erase, same, Function.update_self, AList.lookup_erase_ne distinct]
  · simp only [get, erase, Function.update_of_ne same]

theorem get_erase (m : ShardedMap shardOf V) (key other : K) :
    (m.erase key).get other = if other = key then none else m.get other := by
  split_ifs with same
  · rw [same, get_erase_self]
  · exact get_erase_of_ne m same

/-! ## Keys and sizes -/

theorem mem_keys {m : ShardedMap shardOf V} {key : K} :
    key ∈ m.keys ↔ (m.get key).isSome := by
  rw [get, AList.lookup_isSome]
  simp only [keys, List.mem_flatMap, List.mem_finRange, true_and]
  constructor
  · rintro ⟨shard, member⟩
    have here : shardOf key = shard := m.placed shard key member
    rw [here]
    exact member
  · intro member
    exact ⟨shardOf key, member⟩

omit [DecidableEq K] in
theorem nodup_keys (m : ShardedMap shardOf V) : m.keys.Nodup := by
  refine List.nodup_flatMap.mpr ⟨fun shard _ => (m.shards shard).keys_nodup, ?_⟩
  refine (List.nodup_finRange n).imp ?_
  intro first second distinct key inFirst inSecond
  exact distinct ((m.placed first key inFirst).symm.trans (m.placed second key inSecond))

/-- Maps that bind the same keys have the same size. -/
theorem size_congr {V' : Type v} {m : ShardedMap shardOf V} {m' : ShardedMap shardOf V'}
    (sameKeys : ∀ key, (m.get key).isSome = (m'.get key).isSome) : m.size = m'.size := by
  refine List.Perm.length_eq ((List.perm_ext_iff_of_nodup m.nodup_keys m'.nodup_keys).mpr ?_)
  intro key
  rw [mem_keys, mem_keys, sameKeys]

@[simp]
theorem size_empty : (∅ : ShardedMap shardOf V).size = 0 := by
  refine List.length_eq_zero_iff.mpr (List.eq_nil_iff_forall_not_mem.mpr ?_)
  intro key member
  rw [mem_keys, get_empty] at member
  exact Bool.noConfusion member

theorem size_insert_of_get_eq_none {m : ShardedMap shardOf V} {key : K} (value : V)
    (missing : m.get key = none) : (m.insert key value).size = m.size + 1 := by
  have fresh : key ∉ m.keys := by
    rw [mem_keys, missing]
    exact Bool.noConfusion
  have perm : (m.insert key value).keys.Perm (key :: m.keys) := by
    refine (List.perm_ext_iff_of_nodup (nodup_keys _)
      (List.nodup_cons.mpr ⟨fresh, m.nodup_keys⟩)).mpr ?_
    intro other
    rw [List.mem_cons, mem_keys, mem_keys, get_insert]
    by_cases same : other = key <;> simp [same]
  simpa [size] using perm.length_eq

theorem size_insert_of_get_eq_some {m : ShardedMap shardOf V} {key : K} {old : V} (value : V)
    (present : m.get key = some old) : (m.insert key value).size = m.size := by
  refine size_congr ?_
  intro other
  rw [get_insert]
  by_cases same : other = key <;> simp [same, present]

theorem size_erase_of_get_eq_some {m : ShardedMap shardOf V} {key : K} {old : V}
    (present : m.get key = some old) : (m.erase key).size + 1 = m.size := by
  have reinserted : ((m.erase key).insert key old).size = m.size := by
    refine size_congr ?_
    intro other
    rw [get_insert, get_erase]
    by_cases same : other = key <;> simp [same, present]
  rw [← reinserted, size_insert_of_get_eq_none old (get_erase_self m key)]

/-- A map whose keys embed into the keys of another is no larger. -/
theorem size_le_size_of_injOn {K' : Type u} {V' : Type v} {n' : Nat} {shardOf' : K' → Fin n'}
    [DecidableEq K'] {m : ShardedMap shardOf V} {m' : ShardedMap shardOf' V'} (f : K → K')
    (maps : ∀ key, (m.get key).isSome → (m'.get (f key)).isSome)
    (injective : ∀ first second, (m.get first).isSome → (m.get second).isSome →
      f first = f second → first = second) : m.size ≤ m'.size := by
  have card : m.keys.toFinset.card ≤ m'.keys.toFinset.card := by
    refine Finset.card_le_card_of_injOn f ?_ ?_
    · intro key member
      have bound := mem_keys.mp (List.mem_toFinset.mp member)
      exact List.mem_toFinset.mpr (mem_keys.mpr (maps key bound))
    · intro first inFirst second inSecond same
      exact injective first second (mem_keys.mp (List.mem_toFinset.mp inFirst))
        (mem_keys.mp (List.mem_toFinset.mp inSecond)) same
  rwa [List.toFinset_card_of_nodup m.nodup_keys, List.toFinset_card_of_nodup m'.nodup_keys] at card

/-! ## All bindings -/

/-- What a shard holds, the map finds. -/
theorem get_of_mem_shard {m : ShardedMap shardOf V} {shard : Fin n} {key : K} {value : V}
    (listed : ⟨key, value⟩ ∈ (m.shards shard).entries) : m.get key = some value := by
  have bound : (m.shards shard).lookup key = some value := AList.mem_lookup_iff.mpr listed
  have member : key ∈ m.shards shard := AList.lookup_isSome.mp (by rw [bound]; rfl)
  rw [get, m.placed shard key member, bound]

theorem mem_bindings {m : ShardedMap shardOf V} {key : K} {value : V} :
    (key, value) ∈ m.bindings ↔ m.get key = some value := by
  have inShard : ∀ shard, (key, value) ∈ (m.shards shard).entries.map
      (fun entry => (entry.1, entry.2)) ↔ (m.shards shard).lookup key = some value := by
    intro shard
    rw [← Option.mem_def, AList.mem_lookup_iff]
    constructor
    · intro member
      obtain ⟨entry, listed, same⟩ := List.mem_map.mp member
      obtain ⟨rfl, rfl⟩ := Prod.mk.inj same
      exact listed
    · intro listed
      exact List.mem_map.mpr ⟨⟨key, value⟩, listed, rfl⟩
  simp only [bindings, List.mem_flatMap, List.mem_finRange, true_and, inShard, get]
  constructor
  · rintro ⟨shard, found⟩
    have member : key ∈ m.shards shard := AList.lookup_isSome.mp (by rw [found]; rfl)
    rw [m.placed shard key member]
    exact found
  · intro found
    exact ⟨shardOf key, found⟩

/-! ## Batch access -/

/-- The keys of a list that live in one shard, in the order of the list. -/
def group (shardOf : K → Fin n) (keys : List K) (shard : Fin n) : List K :=
  keys.filter fun key => shardOf key = shard

/-- The groups of a list of keys, shards without any left out. -/
def groups (shardOf : K → Fin n) (keys : List K) : List (List K) :=
  ((List.finRange n).map (group shardOf keys)).filter fun keys => !keys.isEmpty

/-- The values of the listed keys that a visit to one shard finds. -/
def getShard (m : ShardedMap shardOf V) (shard : Fin n) (keys : List K) : List (K × V) :=
  keys.filterMap fun key => ((m.shards shard).lookup key).map fun value => (key, value)

/-- The values of the listed keys, collected by one visit to each shard. -/
def getMany (m : ShardedMap shardOf V) (keys : List K) : List (K × V) :=
  (List.finRange n).flatMap fun shard => m.getShard shard (group shardOf keys shard)

omit [DecidableEq K] in
theorem mem_group {keys : List K} {shard : Fin n} {key : K} :
    key ∈ group shardOf keys shard ↔ key ∈ keys ∧ shardOf key = shard := by
  simp only [group, List.mem_filter, decide_eq_true_eq]

omit [DecidableEq K] in
/-- Grouping a list by shard and concatenating the groups permutes it. -/
theorem flatMap_group_perm (keys : List K) :
    ((List.finRange n).flatMap (group shardOf keys)).Perm keys :=
  flatMap_filter_perm shardOf (List.nodup_finRange n) fun key _ => List.mem_finRange (shardOf key)

omit [DecidableEq K] in
theorem flatten_groups (keys : List K) :
    (groups shardOf keys).flatten = (List.finRange n).flatMap (group shardOf keys) :=
  List.flatten_filter_not_isEmpty

omit [DecidableEq K] in
/-- The groups of a list hold its keys, each as often as the list does. -/
theorem flatten_groups_perm (keys : List K) : (groups shardOf keys).flatten.Perm keys := by
  rw [flatten_groups]
  exact flatMap_group_perm keys

omit [DecidableEq K] in
theorem groups_nil : groups shardOf ([] : List K) = [] := by
  refine List.filter_eq_nil_iff.mpr fun keys member => ?_
  obtain ⟨shard, -, rfl⟩ := List.mem_map.mp member
  exact Bool.noConfusion

omit [DecidableEq K] in
/-- One key is one group. -/
theorem groups_singleton (key : K) : groups shardOf [key] = [[key]] := by
  have flat : (groups shardOf [key]).flatten = [key] :=
    List.perm_singleton.mp (flatten_groups_perm [key])
  have nonempty : [] ∉ groups shardOf [key] := by
    simp only [groups, List.mem_filter, List.isEmpty_nil, Bool.not_true, Bool.false_eq_true,
      and_false, not_false_eq_true]
  generalize groups shardOf [key] = all at *
  cases all with
  | nil => cases flat
  | cons first others =>
      cases first with
      | nil => exact absurd List.mem_cons_self nonempty
      | cons head tail =>
          obtain ⟨rfl, rest⟩ := List.cons.inj flat
          obtain ⟨rfl, empty⟩ := List.append_eq_nil_iff.mp rest
          cases others with
          | nil => rfl
          | cons second others =>
              have blank : second = [] := (List.append_eq_nil_iff.mp empty).1
              exact absurd (blank ▸ .tail _ List.mem_cons_self) nonempty

theorem getShard_group (m : ShardedMap shardOf V) (keys : List K) (shard : Fin n) :
    m.getShard shard (group shardOf keys shard) =
      (group shardOf keys shard).filterMap fun key => (m.get key).map fun value => (key, value) := by
  refine List.filterMap_congr ?_
  intro key member
  rw [get, (mem_group.mp member).2]

/-- **Regrouping by shard neither loses nor repeats a key.** -/
theorem getMany_perm (m : ShardedMap shardOf V) (keys : List K) :
    (m.getMany keys).Perm
      (keys.filterMap fun key => (m.get key).map fun value => (key, value)) := by
  have regrouped : m.getMany keys = ((List.finRange n).flatMap (group shardOf keys)).filterMap
      fun key => (m.get key).map fun value => (key, value) := by
    simp only [getMany, getShard_group, List.filterMap_flatMap]
  rw [regrouped]
  exact (flatMap_group_perm keys).filterMap _

end ShardedMap

end FlareCore.Foundations
