/-
  TradingConfig.Proofs.Repository.Registry
  ────────────────────────────────
  **ONE LOCK PER PATH, WHATEVER ITS SPELLING.**

  The registry only grows, and no two of its entries share a lock
  (`Sound.lock`, `entries_lock`).  So every answer in a sequence of calls is
  what the last registry of the sequence holds (`map_lookup?_lockEach`),
  and two calls are answered with one lock exactly when their paths have the
  same names from the working directory on (`one_lock_per_path`).  The keys
  by which repositories find their locks tell the same paths apart
  (`key_eq_key_iff`).
-/
import Mathlib.Data.List.Nodup
import TradingConfig.Repository.Registry
import TradingConfig.Repository.Lock
import TradingConfig.Proofs.File.Absolute

namespace TradingConfig

namespace LockRegistry

/-! ## §1. What is entered. -/

theorem lookup?_congr (registry : LockRegistry) {first second : Path}
    (same : first.components = second.components) :
    registry.lookup? first = registry.lookup? second := by
  unfold lookup?
  rw [same]

/-- A path is entered under its names from the working directory on. -/
theorem components_entry_eq_iff {home first second : Path} (rooted : home.isAbsolute = true)
    (written : first.text ≠ "") (writtenToo : second.text ≠ "") :
    (entry (some home) first).components = (entry (some home) second).components
      ↔ (home.join first).names = (home.join second).names := by
  obtain ⟨spelled, isSpelled, spelledRooted, names⟩ := Path.exists_absolute? rooted written
  obtain ⟨spelledToo, isSpelledToo, spelledRootedToo, namesToo⟩ :=
    Path.exists_absolute? rooted writtenToo
  unfold entry
  rw [isSpelled, isSpelledToo, Option.getD_some, Option.getD_some,
    Path.components_eq_iff spelledRooted spelledRootedToo, names, namesToo]

/-- The key of a written path is its names from the working directory on. -/
theorem key_eq_absolute {home path : Path} (rooted : home.isAbsolute = true)
    (written : path.text ≠ "") : path.key home.names = .absolute (home.join path).names := by
  unfold Path.key
  rw [if_neg written]
  cases start : path.isAbsolute with
  | true => rw [if_pos rfl, Path.join_of_isAbsolute start]
  | false =>
    rw [if_neg Bool.false_ne_true, Path.names_join (Path.text_ne_empty_of_isAbsolute rooted) start]

/-- The keys of repositories tell apart what the registry does. -/
theorem key_eq_key_iff {home first second : Path} (rooted : home.isAbsolute = true)
    (written : first.text ≠ "") (writtenToo : second.text ≠ "") :
    first.key home.names = second.key home.names
      ↔ (entry (some home) first).components = (entry (some home) second).components := by
  rw [components_entry_eq_iff rooted written writtenToo, key_eq_absolute rooted written,
    key_eq_absolute rooted writtenToo, Path.Key.absolute.injEq]

/-! ## §2. One call. -/

/-- The locks of the entries are different ones, and were all made before. -/
structure Sound (registry : LockRegistry) : Prop where
  /-- No lock is entered twice. -/
  distinct : (registry.entries.map (·.2)).Nodup
  /-- The next lock is new. -/
  made : ∀ entered ∈ registry.entries, entered.2 < registry.next

theorem sound_empty : empty.Sound := ⟨List.nodup_nil, by simp [empty]⟩

theorem exists_mem_of_lookup? {registry : LockRegistry} {path : Path} {lock : Nat}
    (found : registry.lookup? path = some lock) :
    ∃ entered ∈ registry.entries, entered.1.components = path.components ∧ entered.2 = lock := by
  obtain ⟨entered, isFound, rfl⟩ := Option.map_eq_some_iff.mp found
  exact ⟨entered, List.mem_of_find?_eq_some isFound, by simpa using List.find?_some isFound, rfl⟩

/-- Paths with one lock are the same. -/
theorem Sound.components_eq {registry : LockRegistry} (sound : registry.Sound) {lock : Nat}
    {first second : Path} (found : registry.lookup? first = some lock)
    (foundToo : registry.lookup? second = some lock) : first.components = second.components := by
  obtain ⟨entered, member, sameFirst, isLock⟩ := exists_mem_of_lookup? found
  obtain ⟨enteredToo, memberToo, sameSecond, isLockToo⟩ := exists_mem_of_lookup? foundToo
  have oneEntry : entered = enteredToo :=
    List.inj_on_of_nodup_map sound.distinct member memberToo (isLock.trans isLockToo.symm)
  rw [← sameFirst, ← sameSecond, oneEntry]

/-- A call answers with what the registry holds afterwards. -/
theorem lookup?_lock (home : Option Path) (path : Path) (registry : LockRegistry) :
    (registry.lock home path).2.lookup? (entry home path)
      = some (registry.lock home path).1 := by
  unfold lock
  split
  next held => exact held
  next absent =>
    have unknown := Option.map_eq_none_iff.mp absent
    simp [lookup?, List.find?_append, unknown]

/-- A call only adds to the entries. -/
theorem entries_lock (home : Option Path) (path : Path) (registry : LockRegistry) :
    registry.entries <+: (registry.lock home path).2.entries := by
  unfold lock
  split
  · exact List.prefix_refl _
  · exact List.prefix_append _ _

/-- What was entered once is found ever after. -/
theorem lookup?_of_entries {registry grown : LockRegistry}
    (kept : registry.entries <+: grown.entries) {path : Path} {lock : Nat}
    (held : registry.lookup? path = some lock) : grown.lookup? path = some lock := by
  obtain ⟨newer, entries⟩ := kept
  obtain ⟨entered, isFound, isLock⟩ := Option.map_eq_some_iff.mp held
  unfold lookup?
  rw [← entries, List.find?_append, isFound, Option.some_or, Option.map_some, isLock]

theorem Sound.lock {registry : LockRegistry} (sound : registry.Sound) (home : Option Path)
    (path : Path) : (registry.lock home path).2.Sound := by
  unfold LockRegistry.lock
  split
  · exact sound
  · refine ⟨?_, ?_⟩
    · rw [List.map_append, List.nodup_append]
      refine ⟨sound.distinct, List.nodup_singleton _, ?_⟩
      intro lock held fresh isFresh same
      obtain ⟨entered, member, rfl⟩ := List.mem_map.mp held
      obtain rfl := List.mem_singleton.mp isFresh
      exact absurd same (Nat.ne_of_lt (sound.made entered member))
    · intro entered member
      rcases List.mem_append.mp member with older | newest
      · exact Nat.lt_succ_of_lt (sound.made entered older)
      · obtain rfl := List.mem_singleton.mp newest
        exact Nat.lt_succ_self _

/-! ## §3. A sequence of calls. -/

theorem length_lockEach (home : Option Path) (paths : List Path) (registry : LockRegistry) :
    (registry.lockEach home paths).1.length = paths.length := by
  induction paths generalizing registry with
  | nil => rfl
  | cons path paths ih => exact congrArg (· + 1) (ih (registry.lock home path).2)

theorem lockEach_append (home : Option Path) (earlier later : List Path)
    (registry : LockRegistry) :
    registry.lockEach home (earlier ++ later)
      = ((registry.lockEach home earlier).1
            ++ ((registry.lockEach home earlier).2.lockEach home later).1,
          ((registry.lockEach home earlier).2.lockEach home later).2) := by
  induction earlier generalizing registry with
  | nil => rfl
  | cons path earlier ih =>
    simp only [List.cons_append, lockEach, ih (registry.lock home path).2]

theorem entries_lockEach (home : Option Path) (paths : List Path) (registry : LockRegistry) :
    registry.entries <+: (registry.lockEach home paths).2.entries := by
  induction paths generalizing registry with
  | nil => exact List.prefix_refl _
  | cons path paths ih =>
    exact (entries_lock home path registry).trans (ih (registry.lock home path).2)

theorem Sound.lockEach {registry : LockRegistry} (sound : registry.Sound) (home : Option Path)
    (paths : List Path) : (registry.lockEach home paths).2.Sound := by
  induction paths generalizing registry with
  | nil => exact sound
  | cons path paths ih => exact ih (sound.lock home path)

/-- The answers of a sequence of calls are what the last registry holds. -/
theorem map_lookup?_lockEach (home : Option Path) (paths : List Path)
    (registry : LockRegistry) :
    paths.map (fun path => (registry.lockEach home paths).2.lookup? (entry home path))
      = (registry.lockEach home paths).1.map some := by
  induction paths generalizing registry with
  | nil => rfl
  | cons path paths ih =>
    have first := lookup?_of_entries (entries_lockEach home paths (registry.lock home path).2)
      (lookup?_lock home path registry)
    exact List.cons_eq_cons.mpr ⟨first, ih (registry.lock home path).2⟩

/-- The answer at a position is looked up in the last registry. -/
theorem exists_getElem?_lockEach (home : Option Path) (registry : LockRegistry)
    {paths : List Path} {i : Nat} {path : Path} (called : paths[i]? = some path) :
    ∃ lock, (registry.lockEach home paths).1[i]? = some lock
      ∧ (registry.lockEach home paths).2.lookup? (entry home path) = some lock := by
  have position := congrArg (·[i]?) (map_lookup?_lockEach home paths registry)
  simp only [List.getElem?_map, called, Option.map_some] at position
  obtain ⟨lock, isLock, held⟩ := Option.map_eq_some_iff.mp position.symm
  exact ⟨lock, isLock, held.symm⟩

/-- Two answers are one lock exactly for paths that are entered as one. -/
theorem Sound.getElem?_lockEach_eq_iff {registry : LockRegistry} (sound : registry.Sound)
    (home : Option Path) {paths : List Path} {i j : Nat} {first second : Path}
    (called : paths[i]? = some first) (calledToo : paths[j]? = some second) :
    (registry.lockEach home paths).1[i]? = (registry.lockEach home paths).1[j]?
      ↔ (entry home first).components = (entry home second).components := by
  obtain ⟨lock, isLock, held⟩ := exists_getElem?_lockEach home registry called
  obtain ⟨lockToo, isLockToo, heldToo⟩ := exists_getElem?_lockEach home registry calledToo
  rw [isLock, isLockToo]
  constructor
  · intro same
    rw [Option.some.inj same] at held
    exact (sound.lockEach home paths).components_eq held heldToo
  · intro same
    rw [← held, ← heldToo, lookup?_congr _ same]

/-- **Two calls are answered with one lock exactly when their paths have
the same names from the working directory on.**  Spelling makes no
difference, and what was handed out stays with its path for good. -/
theorem one_lock_per_path {home : Path} (rooted : home.isAbsolute = true) (paths : List Path)
    (written : ∀ path ∈ paths, path.text ≠ "") :
    (empty.lockEach (some home) paths).1.length = paths.length
      ∧ (∀ (i j : Nat) (first second : Path), paths[i]? = some first → paths[j]? = some second →
          ((empty.lockEach (some home) paths).1[i]? = (empty.lockEach (some home) paths).1[j]?
              ↔ (home.join first).names = (home.join second).names)
            ∧ (Relation.EqvGen (Path.Respelled home) first second →
                (empty.lockEach (some home) paths).1[i]?
                  = (empty.lockEach (some home) paths).1[j]?))
      ∧ ∀ earlier later, paths = earlier ++ later →
          (empty.lockEach (some home) earlier).1 <+: (empty.lockEach (some home) paths).1
            ∧ (empty.lockEach (some home) earlier).2.entries
                <+: (empty.lockEach (some home) paths).2.entries := by
  refine ⟨length_lockEach (some home) paths empty, ?_, ?_⟩
  · intro i j first second called calledToo
    have oneLock := (sound_empty.getElem?_lockEach_eq_iff (some home) called calledToo).trans
      (components_entry_eq_iff rooted (written first (List.mem_of_getElem? called))
        (written second (List.mem_of_getElem? calledToo)))
    exact ⟨oneLock, fun respelled => oneLock.mpr (Path.names_join_of_eqvGen rooted respelled)⟩
  · rintro earlier later rfl
    rw [lockEach_append]
    exact ⟨List.prefix_append _ _, entries_lockEach _ later _⟩

/-- A working directory. -/
def workshop : Path := ⟨"/srv//app/."⟩

/-- Data files as callers may write them. -/
def spellings : List Path :=
  [⟨"config/markets.json"⟩, ⟨"./config//markets.json/"⟩, ⟨"/srv/app/./config/markets.json"⟩,
    ⟨"//srv/app/config/markets.json"⟩, ⟨"config/../config/markets.json"⟩, ⟨"."⟩]

/-- The first four spellings have one lock; a way back makes another path. -/
theorem one_lock_per_path_workshop :
    (empty.lockEach (some workshop) spellings).1 = [0, 0, 0, 0, 1, 2]
      ∧ (empty.lockEach (some workshop) spellings).1[0]?
          = (empty.lockEach (some workshop) spellings).1[1]?
      ∧ (workshop.join ⟨"config/markets.json"⟩).names
          ≠ (workshop.join ⟨"config/../config/markets.json"⟩).names := by
  have locks : (empty.lockEach (some workshop) spellings).1 = [0, 0, 0, 0, 1, 2] := by
    decide +kernel
  have rooted : workshop.isAbsolute = true := by decide
  obtain ⟨-, exactly, -⟩ := one_lock_per_path rooted spellings (by decide)
  have respelled : Relation.EqvGen (Path.Respelled workshop) ⟨"config/markets.json"⟩
      ⟨"./config//markets.json/"⟩ :=
    .trans _ _ _ (.rel _ _ (.slash "config" "markets.json"))
      (.trans _ _ _ (.rel _ _ (.leadingDot ⟨"config//markets.json"⟩ (by decide) (by decide)))
        (.rel _ _ (.trailingSlash ⟨"./config//markets.json"⟩ (by decide))))
  refine ⟨locks, (exactly 0 1 _ _ rfl rfl).2 respelled, ?_⟩
  intro same
  have oneLock := (exactly 0 4 _ _ rfl rfl).1.mpr same
  rw [locks] at oneLock
  exact absurd oneLock (by decide)

end LockRegistry

end TradingConfig
