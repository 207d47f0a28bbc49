import FlareCore.Foundations.TaskPool
import Mathlib.Logic.Function.Basic
import Mathlib.Tactic.SplitIfs

/-!
# Caches that their readers fill

Tasks look up a key in a cache.  A task that finds nothing builds a value, with the cache free for
others, and then puts it in unless somebody else has done so in the meantime; either way it goes on
with what the cache holds.  So several values may be built for one key, and all but one of them
are thrown away.

Values are built as a configuration says.  A change of the configuration empties the cache, and
begins a new era; it takes the cache exclusively, so no task is under way then.

Within an era the answers are a function of the key (`Sound.answer_eq`), and two answers are one
item exactly if they were given in one era for one key (`Sound.same_item_iff`).
-/

namespace FlareCore.Foundations

set_option autoImplicit false

universe u

/-- How values are built, whether a configuration needs any, and how configurations change. -/
structure Recipe (Config Key Value Change : Type u) where
  needed : Config → Bool
  build : Config → Key → Value
  change : Config → Change → Config

/-- A shared value.  Two items are one and the same exactly if their identities are. -/
structure Item (Value : Type u) where
  identity : Nat
  value : Value

/-- A configuration, and what the cache holds under it. -/
structure Era (Config Key Value : Type u) where
  config : Config
  entries : Key → Option (Item Value)

/-- The cache.  The eras before the present one, and what each item was built for, are looked at by
nobody. -/
structure SharedCache (Config Key Value : Type u) where
  past : List (Era Config Key Value)
  present : Era Config Key Value
  built : List (Nat × Key)

/-- Where a task stands. -/
inductive Lookup (Key Value : Type u) where
  | asked (key : Key)
  | missed (key : Key)
  | holding (key : Key) (item : Item Value)
  | answered (era : Nat) (key : Key) (answer : Option (Item Value))

/-- A task is done. -/
def Lookup.isAnswered {Key Value : Type u} : Lookup Key Value → Bool
  | answered _ _ _ => true
  | asked _ | missed _ | holding _ _ => false

namespace SharedCache

variable {Config Key Value Change : Type u}

/-- A configuration under which nothing has been cached. -/
def empty (config : Config) : SharedCache Config Key Value where
  past := []
  present := ⟨config, fun _ => none⟩
  built := []

def eras (cache : SharedCache Config Key Value) : List (Era Config Key Value) :=
  cache.past ++ [cache.present]

section Steps

variable [DecidableEq Key]

/-- The value is put in. -/
def insert (cache : SharedCache Config Key Value) (key : Key) (item : Item Value) :
    SharedCache Config Key Value :=
  { cache with
    present := { cache.present with
      entries := Function.update cache.present.entries key (some item) } }

/-- The next step of a task. -/
def advance (recipe : Recipe Config Key Value Change) (cache : SharedCache Config Key Value) :
    Lookup Key Value → Option (SharedCache Config Key Value × Lookup Key Value)
  | .asked key =>
      if recipe.needed cache.present.config then
        match cache.present.entries key with
        | some found => some (cache, .answered cache.past.length key (some found))
        | none => some (cache, .missed key)
      else some (cache, .answered cache.past.length key none)
  | .missed key =>
      some ({ cache with built := cache.built ++ [(cache.past.length, key)] },
        .holding key ⟨cache.built.length, recipe.build cache.present.config key⟩)
  | .holding key item =>
      match cache.present.entries key with
      | some found => some (cache, .answered cache.past.length key (some found))
      | none => some (cache.insert key item, .answered cache.past.length key (some item))
  | .answered _ _ _ => none

/-- Another configuration, and an empty cache. -/
def reconfigure (recipe : Recipe Config Key Value Change) (cache : SharedCache Config Key Value)
    (change : Change) : SharedCache Config Key Value :=
  { cache with
    past := cache.eras
    present := ⟨recipe.change cache.present.config change, fun _ => none⟩ }

/-- Lookups from any number of tasks, and changes of the configuration. -/
def machine (recipe : Recipe Config Key Value Change) :
    Machine (SharedCache Config Key Value) Key (Lookup Key Value) PUnit Change where
  start _ key := .asked key
  advance cache _ task _ := cache.advance recipe task
  environment := reconfigure recipe

end Steps

/-- The cache and the tasks that look into it. -/
abbrev Readers (Config Key Value : Type u) : Type u :=
  Pool (SharedCache Config Key Value) (Lookup Key Value)

/-- The configuration is changed only while no task is under way. -/
def Exclusive (pool : Readers Config Key Value) : Move Key PUnit Change → Prop
  | .environment _ => ∀ task ∈ pool.tasks, task.isAnswered = true
  | .call _ | .advance _ _ => True

instance (pool : Readers Config Key Value) :
    ∀ move : Move Key PUnit Change, Decidable (Exclusive pool move)
  | .environment _ => inferInstanceAs (Decidable (∀ task ∈ pool.tasks, task.isAnswered = true))
  | .call _ | .advance _ _ => isTrue trivial

/-! ## What the cache holds -/

section Contents

variable (recipe : Recipe Config Key Value Change)

/-- An item was built for a key in an era, as the configuration says. -/
structure Stems (built : List (Nat × Key)) (index : Nat) (config : Config) (key : Key)
    (item : Item Value) : Prop where
  built : built[item.identity]? = some (index, key)
  value : item.value = recipe.build config key

/-- Whatever an era holds was built in it for that key. -/
def Stocked (cache : SharedCache Config Key Value) : Prop :=
  ∀ index era, cache.eras[index]? = some era → ∀ key item, era.entries key = some item →
    Stems recipe cache.built index era.config key item

/-- An answer is what an era holds, and there is one if the configuration needs it. -/
structure Gives (era : Era Config Key Value) (key : Key) (answer : Option (Item Value)) :
    Prop where
  needed : recipe.needed era.config = answer.isSome
  held : ∀ item ∈ answer, era.entries key = some item

/-- A task is where it may be. -/
def Fits (cache : SharedCache Config Key Value) : Lookup Key Value → Prop
  | .asked _ => True
  | .missed _ => recipe.needed cache.present.config = true
  | .holding key item => recipe.needed cache.present.config = true ∧
      Stems recipe cache.built cache.past.length cache.present.config key item
  | .answered index key answer => ∃ era, cache.eras[index]? = some era ∧
      Gives recipe era key answer

structure Sound (pool : Readers Config Key Value) : Prop where
  stocked : pool.memory.Stocked recipe
  fits : ∀ task ∈ pool.tasks, pool.memory.Fits recipe task

end Contents

variable {recipe : Recipe Config Key Value Change} {cache after : SharedCache Config Key Value}
  {index : Nat} {era : Era Config Key Value} {config : Config} {key : Key} {item : Item Value}

theorem getElem?_eras :
    cache.eras[index]? = some era ↔
      cache.past[index]? = some era ∨ index = cache.past.length ∧ cache.present = era := by
  unfold eras
  rw [List.getElem?_append]
  split_ifs with earlier
  · exact (or_iff_left fun present => Nat.ne_of_lt earlier present.1).symm
  · have none : cache.past[index]? = none := List.getElem?_eq_none (Nat.not_lt.mp earlier)
    rw [none, List.getElem?_singleton]
    simp only [Option.ite_none_right_eq_some, Option.some.injEq, reduceCtorEq, false_or]
    apply and_congr_left
    intro _
    omega

theorem getElem?_eras_present (cache : SharedCache Config Key Value) :
    cache.eras[cache.past.length]? = some cache.present :=
  getElem?_eras.mpr (.inr ⟨rfl, rfl⟩)

theorem Stems.mono {built later : List (Nat × Key)}
    (stems : Stems recipe built index config key item) (grown : built <+: later) :
    Stems recipe later index config key item where
  built := by
    obtain ⟨more, rfl⟩ := grown
    obtain ⟨inRange, -⟩ := List.getElem?_eq_some_iff.mp stems.built
    rw [List.getElem?_append_left inRange]
    exact stems.built
  value := stems.value

/-! ## Steps of a task -/

/-- The cache has only gained entries, in the same era. -/
structure Grows (cache after : SharedCache Config Key Value) : Prop where
  past : after.past = cache.past
  config : after.present.config = cache.present.config
  entries : ∀ key item, cache.present.entries key = some item →
    after.present.entries key = some item
  built : cache.built <+: after.built

theorem Grows.refl (cache : SharedCache Config Key Value) : cache.Grows cache :=
  ⟨rfl, rfl, fun _ _ => id, List.prefix_rfl⟩

/-- The other tasks are not affected. -/
theorem Fits.mono {task : Lookup Key Value} (fits : cache.Fits recipe task)
    (grows : cache.Grows after) : after.Fits recipe task := by
  cases task with
  | asked key => trivial
  | missed key =>
      unfold Fits at fits ⊢
      rwa [grows.config]
  | holding key item =>
      unfold Fits at fits ⊢
      rw [grows.config, grows.past]
      exact ⟨fits.1, fits.2.mono grows.built⟩
  | answered index key answer =>
      obtain ⟨era, isEra, needed, held⟩ := fits
      obtain earlier | ⟨isPresent, rfl⟩ := getElem?_eras.mp isEra
      · refine ⟨era, getElem?_eras.mpr (.inl ?_), needed, held⟩
        rw [grows.past]
        exact earlier
      · refine ⟨after.present, getElem?_eras.mpr (.inr ⟨?_, rfl⟩), ?_, ?_⟩
        · rw [grows.past]
          exact isPresent
        · rw [grows.config]
          exact needed
        · exact fun item isAnswer => grows.entries key item (held item isAnswer)

section Steps

variable [DecidableEq Key]

theorem entries_insert_self (cache : SharedCache Config Key Value) (key : Key) (item : Item Value) :
    (cache.insert key item).present.entries key = some item :=
  Function.update_self ..

theorem entries_insert_of_ne {other : Key} (distinct : other ≠ key) :
    (cache.insert key item).present.entries other = cache.present.entries other :=
  Function.update_of_ne distinct ..

theorem Stocked.insert (stocked : cache.Stocked recipe)
    (stems : Stems recipe cache.built cache.past.length cache.present.config key item) :
    (cache.insert key item).Stocked recipe := by
  intro index era isEra other found holds
  obtain earlier | ⟨rfl, rfl⟩ := getElem?_eras.mp isEra
  · exact stocked index era (getElem?_eras.mpr (.inl earlier)) other found holds
  · by_cases same : other = key
    · subst same
      rw [entries_insert_self] at holds
      obtain rfl := Option.some.inj holds
      exact stems
    · rw [entries_insert_of_ne same] at holds
      exact stocked _ _ cache.getElem?_eras_present other found holds

theorem grows_insert (absent : cache.present.entries key = none) :
    cache.Grows (cache.insert key item) where
  past := rfl
  config := rfl
  entries other found holds := by
    have distinct : other ≠ key := by
      rintro rfl
      rw [absent] at holds
      cases holds
    rw [entries_insert_of_ne distinct]
    exact holds
  built := List.prefix_rfl

omit [DecidableEq Key] in
/-- An answer from the present era. -/
theorem fits_answered (needed : recipe.needed cache.present.config = true)
    (holds : cache.present.entries key = some item) :
    cache.Fits recipe (.answered cache.past.length key (some item)) := by
  refine ⟨cache.present, cache.getElem?_eras_present, needed, ?_⟩
  rintro _ ⟨⟩
  exact holds

/-- Each step of a task lets the cache grow, and takes the task to where it may be. -/
theorem advance_spec {task task' : Lookup Key Value} (stocked : cache.Stocked recipe)
    (fits : cache.Fits recipe task) (advanced : cache.advance recipe task = some (after, task')) :
    cache.Grows after ∧ after.Stocked recipe ∧ after.Fits recipe task' := by
  cases task with
  | asked key =>
      simp only [advance] at advanced
      split_ifs at advanced with needed
      · cases holds : cache.present.entries key with
        | some found =>
            rw [holds] at advanced
            cases advanced
            exact ⟨.refl _, stocked, fits_answered needed holds⟩
        | none =>
            rw [holds] at advanced
            cases advanced
            exact ⟨.refl _, stocked, needed⟩
      · cases advanced
        refine ⟨.refl _, stocked, _, cache.getElem?_eras_present, ?_, ?_⟩
        · exact Bool.not_eq_true _ ▸ needed
        · rintro _ ⟨⟩
  | missed key =>
      cases advanced
      have grown : cache.built <+: cache.built ++ [(cache.past.length, key)] :=
        List.prefix_append ..
      refine ⟨⟨rfl, rfl, fun _ _ => id, grown⟩, ?_, fits, ?_, rfl⟩
      · intro index era isEra other found holds
        exact (stocked index era isEra other found holds).mono grown
      · exact List.getElem?_concat_length
  | holding key item =>
      obtain ⟨needed, stems⟩ := fits
      cases holds : cache.present.entries key with
      | some found =>
          simp only [advance, holds] at advanced
          cases advanced
          exact ⟨.refl _, stocked, fits_answered needed holds⟩
      | none =>
          simp only [advance, holds] at advanced
          cases advanced
          refine ⟨grows_insert holds, stocked.insert stems, fits_answered needed ?_⟩
          exact entries_insert_self ..
  | answered index key answer => cases advanced

/-! ## Runs -/

omit [DecidableEq Key] in
theorem sound_empty (config : Config) : Sound recipe ⟨empty config, []⟩ where
  stocked index era isEra key item holds := by
    obtain earlier | ⟨-, rfl⟩ := getElem?_eras.mp isEra
    · exact absurd earlier.symm (Option.some_ne_none era)
    · exact absurd holds.symm (Option.some_ne_none item)
  fits task member := absurd member List.not_mem_nil

omit [DecidableEq Key] in
/-- Nothing in the eras so far changes with the configuration. -/
theorem sound_reconfigure {tasks : List (Lookup Key Value)} {change : Change}
    (sound : Sound recipe ⟨cache, tasks⟩) (exclusive : ∀ task ∈ tasks, task.isAnswered = true) :
    Sound recipe ⟨cache.reconfigure recipe change, tasks⟩ where
  stocked index era isEra key item holds := by
    obtain earlier | ⟨-, rfl⟩ := getElem?_eras.mp isEra
    · exact sound.stocked index era earlier key item holds
    · exact absurd holds.symm (Option.some_ne_none item)
  fits task member := by
    cases task with
    | answered index key answer =>
        obtain ⟨era, isEra, gives⟩ := sound.fits _ member
        exact ⟨era, getElem?_eras.mpr (.inl isEra), gives⟩
    | asked key => cases exclusive _ member
    | missed key => cases exclusive _ member
    | holding key item => cases exclusive _ member

theorem sound_step {before later : Readers Config Key Value}
    (step : (machine recipe).Allowed Exclusive before later) (sound : Sound recipe before) :
    Sound recipe later := by
  refine Machine.step_preserves (I := Sound recipe) ?_ ?_ ?_ step sound
  · intro cache tasks key _ sound
    refine ⟨sound.stocked, fun task member => ?_⟩
    obtain earlier | isNew := List.mem_append.mp member
    · exact sound.fits task earlier
    · obtain rfl := List.mem_singleton.mp isNew
      trivial
  · intro cache earlier task later _ after task' _ sound advanced
    obtain ⟨grows, stocked, fits⟩ := advance_spec sound.stocked
      (sound.fits task (mem_append_cons.mpr (.inl rfl))) advanced
    refine ⟨stocked, fun other member => ?_⟩
    obtain rfl | among := mem_append_cons.mp member
    · exact fits
    · exact (sound.fits other (mem_append_cons.mpr (.inr among))).mono grows
  · intro cache tasks change exclusive sound
    exact sound_reconfigure sound exclusive

variable {pool : Readers Config Key Value}

theorem sound_of_reaches (reached : (machine recipe).Reaches Exclusive ⟨empty config, []⟩ pool) :
    Sound recipe pool :=
  reached.invariant (sound_empty config) sound_step

end Steps

/-! ## Answers -/

section Answers

variable {pool : Readers Config Key Value}

/-- What an era replies for a key in the end. -/
def replyTo (recipe : Recipe Config Key Value Change) (cache : SharedCache Config Key Value)
    (index : Nat) (key : Key) : Option (Item Value) :=
  cache.eras[index]?.bind fun era => if recipe.needed era.config then era.entries key else none

/-- **Within an era the answers are a function of the key.** -/
theorem Sound.answer_eq (sound : Sound recipe pool) {answer : Option (Item Value)}
    (isAnswer : .answered index key answer ∈ pool.tasks) :
    answer = pool.memory.replyTo recipe index key := by
  obtain ⟨era, isEra, needed, held⟩ := sound.fits _ isAnswer
  rw [replyTo, isEra, Option.bind_some, needed]
  cases answer with
  | none => rfl
  | some item => exact (held item rfl).symm

/-- An answer was built in its era for its key. -/
theorem Sound.stems (sound : Sound recipe pool)
    (isAnswer : .answered index key (some item) ∈ pool.tasks) :
    ∃ era, pool.memory.eras[index]? = some era ∧
      Stems recipe pool.memory.built index era.config key item := by
  obtain ⟨era, isEra, -, held⟩ := sound.fits _ isAnswer
  exact ⟨era, isEra, sound.stocked index era isEra key item (held item rfl)⟩

/-- **Two answers are one item exactly if they were given in one era for one key.** -/
theorem Sound.same_item_iff (sound : Sound recipe pool) {other : Nat} {key' : Key}
    {item' : Item Value} (isAnswer : .answered index key (some item) ∈ pool.tasks)
    (isOther : .answered other key' (some item') ∈ pool.tasks) :
    item.identity = item'.identity ↔ index = other ∧ key = key' := by
  constructor
  · intro same
    obtain ⟨-, -, origin, -⟩ := sound.stems isAnswer
    obtain ⟨-, -, origin', -⟩ := sound.stems isOther
    rw [same, origin'] at origin
    obtain ⟨rfl, rfl⟩ := Prod.mk.inj (Option.some.inj origin)
    exact ⟨rfl, rfl⟩
  · rintro ⟨rfl, rfl⟩
    have both := (sound.answer_eq isAnswer).trans (sound.answer_eq isOther).symm
    exact congrArg Item.identity (Option.some.inj both)

end Answers

end SharedCache

end FlareCore.Foundations
