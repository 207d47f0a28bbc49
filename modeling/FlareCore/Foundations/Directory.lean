import FlareCore.Foundations.ShardedMap
import Mathlib.Data.Set.Card

/-!
# Directories

A directory is a partial map, with nothing said about how it is stored: its keys are a set, taking
keys out is a difference of sets, and its size is a cardinality.  Values may have owners, so that
the keys of an owner are a set as well.

A sharded map stores a directory (`ShardedMap.stores`), seen through a function of the values that
forgets what is of no concern to its users.  What it does to one key, and what it lists, is what the
directory does and has.
-/

namespace FlareCore.Foundations

set_option autoImplicit false

universe u v w

/-- A partial map. -/
abbrev Directory (Key : Type u) (Value : Type v) := Key → Option Value

namespace Directory

variable {Key : Type u} {Value : Type v} {Owner : Type w}

def keys (directory : Directory Key Value) : Set Key :=
  {key | (directory key).isSome}

/-- The keys whose values have a property. -/
def keysWith (directory : Directory Key Value) (property : Value → Prop) : Set Key :=
  {key | ∃ value, directory key = some value ∧ property value}

/-- The keys of an owner. -/
def ownedBy (directory : Directory Key Value) (ownerOf : Value → Option Owner) (owner : Owner) :
    Set Key :=
  directory.keysWith fun value => ownerOf value = some owner

/-- Those that own a key. -/
def owners (directory : Directory Key Value) (ownerOf : Value → Option Owner) : Set Owner :=
  {owner | (directory.ownedBy ownerOf owner).Nonempty}

/-- The number of keys; a directory that is stored has finitely many. -/
noncomputable def size (directory : Directory Key Value) : Nat :=
  directory.keys.ncard

section Updates

open Classical in
/-- A key is bound. -/
noncomputable def put (directory : Directory Key Value) (key : Key) (value : Value) :
    Directory Key Value :=
  fun other => if other = key then some value else directory other

open Classical in
/-- Keys are taken out. -/
noncomputable def without (directory : Directory Key Value) (gone : Set Key) :
    Directory Key Value :=
  fun key => if key ∈ gone then none else directory key

variable (directory : Directory Key Value)

theorem put_self (key : Key) (value : Value) : directory.put key value key = some value :=
  if_pos rfl

theorem put_of_ne {key other : Key} (value : Value) (distinct : other ≠ key) :
    directory.put key value other = directory other :=
  if_neg distinct

theorem without_of_mem {gone : Set Key} {key : Key} (taken : key ∈ gone) :
    directory.without gone key = none :=
  if_pos taken

theorem without_of_not_mem {gone : Set Key} {key : Key} (kept : key ∉ gone) :
    directory.without gone key = directory key :=
  if_neg kept

/-- Taking out what is not there changes nothing. -/
theorem without_eq_self {gone : Set Key} (absent : ∀ key ∈ gone, directory key = none) :
    directory.without gone = directory := by
  funext key
  by_cases taken : key ∈ gone
  · rw [directory.without_of_mem taken, absent key taken]
  · exact directory.without_of_not_mem taken

theorem mem_keys {key : Key} : key ∈ directory.keys ↔ ∃ value, directory key = some value :=
  Option.isSome_iff_exists

end Updates

end Directory

namespace ShardedMap

variable {K : Type u} {V : Type v} {n : Nat} {shardOf : K → Fin n} [DecidableEq K] {Value : Type w}

/-- The directory that a sharded map stores. -/
def stores (m : ShardedMap shardOf V) (view : V → Value) : Directory K Value :=
  fun key => (m.get key).map view

variable {m : ShardedMap shardOf V} {view : V → Value}

theorem mem_keys_stores {key : K} : key ∈ (m.stores view).keys ↔ key ∈ m.keys := by
  rw [ShardedMap.mem_keys]
  simp [Directory.keys, stores]

theorem stores_insert (key : K) (value : V) :
    (m.insert key value).stores view = (m.stores view).put key (view value) := by
  funext other
  by_cases same : other = key
  · subst same
    rw [Directory.put_self, stores, get_insert_self, Option.map_some]
  · rw [Directory.put_of_ne _ _ same, stores, get_insert_of_ne m value same, stores]

theorem stores_erase (key : K) :
    (m.erase key).stores view = (m.stores view).without {key} := by
  funext other
  by_cases same : other = key
  · subst same
    rw [Directory.without_of_mem _ (Set.mem_singleton other), stores, get_erase_self,
      Option.map_none]
  · have kept : other ∉ ({key} : Set K) := same
    rw [Directory.without_of_not_mem _ kept, stores, get_erase_of_ne m same, stores]

/-- The number of bindings is the size of the directory. -/
theorem size_stores : (m.stores view).size = m.size := by
  have listed : (m.stores view).keys = (m.keys.toFinset : Set K) := by
    ext key
    rw [mem_keys_stores, Finset.mem_coe, List.mem_toFinset]
  rw [Directory.size, listed, Set.ncard_coe_finset, List.toFinset_card_of_nodup m.nodup_keys, size]

end ShardedMap

end FlareCore.Foundations
