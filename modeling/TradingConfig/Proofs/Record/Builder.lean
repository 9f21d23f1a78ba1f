/-
  TradingConfig.Proofs.Record.Builder
  ────────────────────────────────
  **SETTINGS ADDED ONE BY ONE AND SETTINGS READ FROM A BLOCK.**

  A strategy takes any pairs as settings, and the last one with a name counts
  (`Strategy.builtFrom_withSettings`); a block that repeats a name is refused.
  Where no name is repeated both give the keyed list of the pairs
  (`Strategy.withSettings_plain`, `Settings.ofBlock_eq_ok_iff`), so they agree,
  and the order of the pairs does not matter (`builder_agrees_with_blocks`).
-/
import TradingConfig.Proofs.Record.NormalForm

namespace TradingConfig

open KeyedList (LastValue)

/-! ## §1. Settings as they are stored. -/

namespace Settings

/-- The order in which settings are stored does not matter, nor who is
reported if they are malformed. -/
theorem ofBlock_of_perm {owner reader : String} {block other : Option SettingsBlock}
    {settings : Settings} (read : ofBlock owner block = .ok settings)
    (same : (itemsOf other).Perm (itemsOf block)) : ofBlock reader other = .ok settings := by
  obtain ⟨distinct, rfl⟩ := ofBlock_eq_ok_iff.mp read
  have distinctToo : ((itemsOf other).map Setting.name).Nodup :=
    (same.map Setting.name).nodup_iff.mpr distinct
  rw [← map_fst_pairsOf] at distinct
  have sorted : KeyedList.ofPairs (pairsOf other) = KeyedList.ofPairs (pairsOf block) :=
    KeyedList.ofPairs_eq_of_perm distinct (same.map _)
  exact ofBlock_eq_ok_iff.mpr ⟨distinctToo, eq_of_toList sorted.symm⟩

theorem mem_toBlock_iff {settings : Settings} {item : Setting} :
    item ∈ settings.toBlock.items ↔ (item.name, item.value) ∈ settings.toList := by
  show item ∈ settings.toList.map (fun binding => (⟨binding.1, binding.2⟩ : Setting)) ↔ _
  rw [List.mem_map]
  constructor
  · rintro ⟨binding, member, rfl⟩
    exact member
  · intro member
    exact ⟨(item.name, item.value), member, rfl⟩

end Settings

/-! ## §2. Strategies. -/

namespace Strategy

/-- Pairs that are added change the settings alone. -/
theorem withSettings_eq (strategy : Strategy) (pairs : List (String × String)) :
    strategy.withSettings pairs
      = { strategy with
          settings := pairs.foldl (fun settings pair => settings.insert pair.1 pair.2)
            strategy.settings } := by
  induction pairs generalizing strategy with
  | nil => rfl
  | cons head rest ih => exact ih (strategy.withSetting head.1 head.2)

theorem withSettings_plain (id name description className : String)
    (pairs : List (String × String)) :
    (plain id name description className).withSettings pairs
      = ⟨id, name, description, className, .ofPairs pairs⟩ := by
  rw [withSettings_eq, ← Settings.foldl_insert_empty]
  rfl

/-- What comes of pairs that are added to a strategy without settings, one
after the other. -/
structure BuiltFrom (start : Strategy) (pairs : List (String × String)) (strategy : Strategy) :
    Prop where
  /-- Everything but the settings is as it was. -/
  kept : { strategy with settings := start.settings } = start
  /-- The names are those of the pairs. -/
  names_iff : ∀ name, name ∈ strategy.settings.toList.map Prod.fst ↔ name ∈ pairs.map Prod.fst
  /-- Each name has the value of its last pair. -/
  value_iff : ∀ name value, strategy.settings.get? name = some value ↔ LastValue pairs name value
  /-- These settings are the ones that are stored. -/
  stored_iff : ∀ item, item ∈ Settings.itemsOf strategy.toRecord.settings
    ↔ LastValue pairs item.name item.value
  /-- They are stored once each, in the order of the bytes of their names. -/
  normal : SettingsBlock.IsNormal strategy.toRecord.settings

theorem builtFrom_withSettings (id name description className : String)
    (pairs : List (String × String)) :
    BuiltFrom (plain id name description className) pairs
      ((plain id name description className).withSettings pairs) := by
  rw [withSettings_plain]
  constructor
  case kept => rfl
  case names_iff => exact fun _ => KeyedList.mem_keys_ofPairs
  case value_iff => exact fun _ _ => KeyedList.get?_ofPairs_iff
  case stored_iff =>
    exact fun _ => Settings.mem_toBlock_iff.trans KeyedList.mem_ofPairs_iff
  case normal => exact Settings.isNormal_toBlock (.ofPairs pairs)

end Strategy

/-! ## §3. The two ways to settings. -/

/-- Pairs that are added to a new strategy leave the last value of each name,
and are stored once each with their names ascending; and a block is read
exactly where its names are distinct, as the settings that come of adding the
same pairs, in whatever order they stand. -/
theorem builder_agrees_with_blocks (id name description className : String) :
    (∀ pairs, Strategy.BuiltFrom (.plain id name description className) pairs
        ((Strategy.plain id name description className).withSettings pairs))
      ∧ ∀ owner block,
        ((∃ settings, Settings.ofBlock owner block = .ok settings)
            ↔ ((Settings.itemsOf block).map Setting.name).Nodup)
          ∧ ∀ settings, Settings.ofBlock owner block = .ok settings →
            ((Strategy.plain id name description className).withSettings
                (Settings.pairsOf block)).settings = settings
              ∧ ∀ reader other, (Settings.itemsOf other).Perm (Settings.itemsOf block) →
                Settings.ofBlock reader other = .ok settings := by
  refine ⟨Strategy.builtFrom_withSettings id name description className, fun owner block => ?_⟩
  refine ⟨?_, fun settings read => ⟨?_, fun reader other same => ?_⟩⟩
  · exact Settings.exists_ofBlock_iff_nodup owner
  · rw [Strategy.withSettings_plain, (Settings.ofBlock_eq_ok_iff.mp read).2]
  · exact Settings.ofBlock_of_perm read same

/-- A name is added twice; and two settings are read in either order, but not
with one of their names repeated. -/
theorem builder_agrees_with_blocks_repeated :
    Strategy.BuiltFrom (.plain "grid" "Grid" "" "x.Grid")
        [("step", "2"), ("at", "5"), ("step", "3")]
        ⟨"grid", "Grid", "", "x.Grid", ⟨[("at", "5"), ("step", "3")], by decide⟩⟩
      ∧ Settings.ofBlock "grid" (some ⟨[⟨"step", "2"⟩, ⟨"at", "5"⟩]⟩)
        = .ok ((Strategy.plain "grid" "Grid" "" "x.Grid").withSettings
          [("step", "2"), ("at", "5")]).settings
      ∧ Settings.ofBlock "grid" (some ⟨[⟨"at", "5"⟩, ⟨"step", "2"⟩]⟩)
        = .ok ⟨[("at", "5"), ("step", "2")], by decide⟩
      ∧ ¬ ∃ settings, Settings.ofBlock "grid"
        (some ⟨[⟨"step", "2"⟩, ⟨"at", "5"⟩, ⟨"step", "3"⟩]⟩) = .ok settings := by
  obtain ⟨built, blocks⟩ := builder_agrees_with_blocks "grid" "Grid" "" "x.Grid"
  have read : Settings.ofBlock "grid" (some ⟨[⟨"step", "2"⟩, ⟨"at", "5"⟩]⟩)
      = .ok ⟨[("at", "5"), ("step", "2")], by decide⟩ := by decide
  obtain ⟨added, reordered⟩ := (blocks _ _).2 _ read
  refine ⟨?_, ?_, ?_, ?_⟩
  · exact built [("step", "2"), ("at", "5"), ("step", "3")]
  · rw [read, ← added]
    rfl
  · exact reordered "grid" _ (.swap ..)
  · rw [(blocks _ _).1]
    decide

end TradingConfig
