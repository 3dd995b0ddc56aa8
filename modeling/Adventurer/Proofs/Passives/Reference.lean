import Adventurer.Proofs.Passives.Repetition
import Mathlib.Data.Finset.Card
import Mathlib.Data.Finset.Image
import Mathlib.Data.Finset.Prod

/-!
# What a forced tick brings about

`granted` tells for each major stat what the passive that governs it grants by the live situation: by the
creatures in the block of three by three tiles around, by the loaded ammunition, the wielded weapon, the
ground and the stage.  A forced tick of an overlay that does not rest writes that for the passives that are
unlocked, and leaves the stats of the locked ones as it finds them.  So the overlay matches the situation
afterwards exactly if it rests, or if no locked passive had a stat left to drop (`Clean`).
-/

namespace Adventurer

/-! ## The tiles around -/

namespace Place

/-- How far the tiles of a block lie off in each direction. -/
def offsets : Finset Int := {-1, 0, 1}

/-- The block of three by three tiles around a tile. -/
def around (p : Place) : Finset Place := (offsets ×ˢ offsets).image fun d => p.shift d.1 d.2

/-- Two tiles of a block are less than the round of a coordinate apart. -/
theorem nodup_block (p : Place) : p.block.Nodup := by
  have hnear : ∀ d ∈ [((-1 : Int), (-1 : Int)), (-1, 0), (-1, 1), (0, -1), (0, 0), (0, 1), (1, -1),
      (1, 0), (1, 1)], (-1 ≤ d.1 ∧ d.1 ≤ 1) ∧ -1 ≤ d.2 ∧ d.2 ≤ 1 := by decide
  refine List.Nodup.map_on (fun d hd d' hd' h => ?_) (by decide)
  obtain ⟨hx, hy⟩ := hnear d hd
  obtain ⟨hx', hy'⟩ := hnear d' hd'
  simp only [shift, mk.injEq, and_true] at h
  have h1 := eq_of_wrapInt32_eq h.1 (by unfold max32; omega) (by unfold max32; omega)
  have h2 := eq_of_wrapInt32_eq h.2 (by unfold max32; omega) (by unfold max32; omega)
  exact Prod.ext (by omega) (by omega)

theorem toFinset_block (p : Place) : p.block.toFinset = p.around := by
  have hsteps : [((-1 : Int), (-1 : Int)), (-1, 0), (-1, 1), (0, -1), (0, 0), (0, 1), (1, -1), (1, 0),
      (1, 1)].toFinset = offsets ×ˢ offsets := by decide
  ext tile
  unfold around
  rw [← hsteps, List.mem_toFinset, Finset.mem_image, block, List.mem_map]
  simp only [List.mem_toFinset]

theorem mem_block_iff {p tile : Place} : tile ∈ p.block ↔ tile ∈ p.around := by
  rw [← toFinset_block, List.mem_toFinset]

end Place

namespace PassiveState

/-- Locked passives grant nothing any more. -/
def Clean (p : PassiveState) : Prop :=
  ∀ stat, p.isUnlocked stat.governor = false → p.majorOf stat = 0

end PassiveState

namespace Passives

variable {rules : Rules} {world : WorldView} {a : Arena} {c d : Character}

/-! ## The live situation -/

/-- The tiles around with a creature on top that is neither the character nor a summon of it. -/
def strangers (world : WorldView) (c : Character) : Finset Place :=
  c.place.around.filter fun tile =>
    ∃ creature ∈ world.creatureAt tile, creature.id ≠ c.id ∧ creature.isSummonOf c.id = false

/-- The bonus for standing among `n` creatures, of which no more than eight count. -/
def crowding (n : Nat) : Int := if 5 ≤ n then min n 8 - 4 else 0

/-- A monster that no player has summoned is around. -/
def Engaged (world : WorldView) (c : Character) : Prop :=
  ∃ tile ∈ c.place.around, ∃ creature ∈ world.creatureAt tile,
    creature.id ≠ c.id ∧ creature.kind = .monster ∧ ∀ master ∈ creature.master, master.isPlayer = false

instance (world : WorldView) (c : Character) : Decidable (Engaged world c) := by
  unfold Engaged
  infer_instance

/-- The ammunition with which the character would shoot. -/
def loadedAmmo (rules : Rules) (a : Arena) (c : Character) : AmmoType :=
  (rules.attackWeapon? c a false).elim .none fun gear => gear.type.ammoType

/-- Whether the weapon in hand needs both hands. -/
def wieldsTwoHanded (rules : Rules) (a : Arena) (c : Character) : Bool :=
  (rules.attackWeapon? c a true).any fun gear => gear.type.isTwoHanded

/-- The item that feeds Divine Empowerment lies on the tile of the character. -/
def OnField (rules : Rules) (world : WorldView) (c : Character) : Prop :=
  ∃ item ∈ rules.config.divineEmpowermentItem, 0 < world.groundCount c.place ⟨item⟩

instance (rules : Rules) (world : WorldView) (c : Character) : Decidable (OnField rules world c) := by
  unfold OnField
  infer_instance

/-- What the passive of a major stat grants by the live situation. -/
def granted (rules : Rules) (world : WorldView) (a : Arena) (c : Character) : MajorStat → Int
  | .melee => crowding (strangers world c).card
  | .shield => 6 * crowding (strangers world c).card
  | .distance => if Engaged world c then 0 else 3
  | .magic => if Engaged world c then 3 else 0
  | .criticalDamage => if loadedAmmo rules a c = .bolt then 10 else 0
  | .physicalDamage | .holyDamage => if loadedAmmo rules a c = .arrow then 2 else 0
  | .masteryCriticalDamage =>
    if wieldsTwoHanded rules a c then (ByStage.mk 4 8 12).at_ (c.passives.stage .combatMastery) else 0
  | .defense =>
    if wieldsTwoHanded rules a c then 0 else (ByStage.mk 10 20 30).at_ (c.passives.stage .combatMastery)
  | .damage =>
    if OnField rules world c then (ByStage.mk 8 10 12).at_ (c.passives.stage .divineEmpowerment) else 0

/-! ## Evaluators and the situation -/

theorem scan_eq_min (cap : Nat) (test : Place → Bool) :
    ∀ (tiles : List Place) (found : Nat), found ≤ cap →
      scan cap test found tiles = min cap (found + tiles.countP test)
  | [], found, h => by
    unfold scan
    rw [List.countP_nil]
    omega
  | tile :: tiles, found, h => by
    unfold scan
    rw [List.countP_cons]
    by_cases hfull : cap ≤ found
    · rw [if_pos hfull]
      omega
    · rw [if_neg hfull]
      split_ifs with htest
      · rw [scan_eq_min cap test tiles (found + 1) (by omega)]
        omega
      · rw [scan_eq_min cap test tiles found h, Nat.add_zero]

theorem hasStranger_iff {tile : Place} :
    hasStranger world c tile = true ↔
      ∃ creature ∈ world.creatureAt tile, creature.id ≠ c.id ∧ creature.isSummonOf c.id = false := by
  unfold hasStranger
  rw [Option.any_eq_true]
  refine exists_congr fun creature => and_congr Iff.rfl ?_
  rw [Bool.and_eq_true, decide_eq_true_iff, Bool.not_eq_true']

/-- The scan of Battle Instinct counts the strangers around, eight of them at most. -/
theorem creaturesAround_eq (world : WorldView) (c : Character) :
    creaturesAround world c = min 8 (strangers world c).card := by
  have hstrangers : (c.place.block.filter (hasStranger world c)).toFinset = strangers world c := by
    ext tile
    rw [List.mem_toFinset, List.mem_filter, Place.mem_block_iff, hasStranger_iff, strangers, Finset.mem_filter]
  have hcard : c.place.block.countP (hasStranger world c) = (strangers world c).card := by
    rw [← hstrangers, List.toFinset_card_of_nodup (c.place.nodup_block.filter _),
      List.countP_eq_length_filter]
  unfold creaturesAround
  rw [scan_eq_min _ _ _ _ (Nat.zero_le _), hcard, Nat.zero_add]
  rfl

theorem instinctGrant_eq (n : Nat) : instinctGrant (min 8 n) = (crowding n, 6 * crowding n) := by
  unfold instinctGrant crowding instinctThreshold
  split_ifs with h h' h'
  · ext <;> push_cast <;> omega
  · omega
  · omega
  · rfl

theorem isEngaged_iff : isEngaged world c = true ↔ Engaged world c := by
  unfold isEngaged Engaged
  rw [List.any_eq_true]
  refine exists_congr fun tile => and_congr Place.mem_block_iff ?_
  rw [Option.any_eq_true]
  refine exists_congr fun creature => and_congr Iff.rfl ?_
  rw [Bool.and_eq_true, Bool.and_eq_true, decide_eq_true_iff, decide_eq_true_iff, Bool.not_eq_true',
    Option.any_eq_false, and_assoc]
  exact Iff.rfl

theorem isEmpowered_iff (hw : rules.world = some world) :
    isEmpowered rules c = true ↔ OnField rules world c := by
  unfold isEmpowered OnField
  rw [Option.any_eq_true]
  refine exists_congr fun item => and_congr Iff.rfl ?_
  rw [hw, Option.any_some, decide_eq_true_iff]

/-- A passive grants each stat that it governs as the situation has it. -/
theorem majors_grant (hw : rules.world = some world) (a : Arena) (passive : Passive) (c : Character) :
    (grant rules a passive c).majors =
      passive.governs.map fun stat => (stat, granted rules world a c stat) := by
  cases passive with
  | battleInstinct =>
    have hgoverns : Passive.governs .battleInstinct = [.melee, .shield] := by decide
    rw [hgoverns]
    unfold grant battleInstinct
    rw [hw]
    simp only [creaturesAround_eq, instinctGrant_eq]
    rfl
  | positionalTactics =>
    have hgoverns : Passive.governs .positionalTactics = [.distance, .magic] := by decide
    rw [hgoverns]
    unfold grant positionalTactics
    rw [hw]
    simp only [isEngaged_iff]
    unfold granted
    by_cases h : Engaged world c
    · simp only [h, if_true, List.map_cons, List.map_nil]
    · simp only [h, if_false, List.map_cons, List.map_nil]
  | ballisticMastery =>
    have hgoverns : Passive.governs .ballisticMastery =
      [.criticalDamage, .physicalDamage, .holyDamage] := by decide
    rw [hgoverns]
    show (ballisticMastery rules a c).majors = _
    unfold ballisticMastery granted loadedAmmo
    cases (rules.attackWeapon? c a false).elim AmmoType.none fun gear => gear.type.ammoType <;> rfl
  | combatMastery =>
    have hgoverns : Passive.governs .combatMastery = [.masteryCriticalDamage, .defense] := by decide
    rw [hgoverns]
    show (combatMastery rules a c).majors = _
    unfold combatMastery granted wieldsTwoHanded
    cases (rules.attackWeapon? c a true).any fun gear => gear.type.isTwoHanded <;> rfl
  | divineEmpowerment =>
    have hgoverns : Passive.governs .divineEmpowerment = [.damage] := by decide
    rw [hgoverns]
    show (divineEmpowerment rules c).majors = _
    unfold divineEmpowerment granted
    simp only [isEmpowered_iff hw]
    rfl
  | _ => rfl

/-! ## Locked passives -/

theorem kept_refreshOne_of_locked (rules : Rules) (a : Arena) (force : Bool) {done : Character × Bool}
    {passive : Passive} (h : done.1.passives.isUnlocked passive = false) (other : Passive) :
    Kept passive done.1 (refreshOne rules a force done other).1 := by
  by_cases ho : other = passive
  · subst ho
    have hdue : isDue rules force done.1 other = false := by
      unfold isDue
      rw [h, Bool.false_and]
    unfold refreshOne
    simp only [hdue, Bool.false_eq_true, if_false]
    exact .refl other done.1
  · exact kept_refreshOne rules a force done ho

/-- A refresh leaves all that belongs to a locked passive alone. -/
theorem kept_refresh_of_locked (rules : Rules) (a : Arena) (passives : List Passive) (force : Bool)
    {passive : Passive} (h : c.passives.isUnlocked passive = false) :
    Kept passive c (refresh rules a passives force c).1 := by
  refine related_foldl_refreshOne
    (R := fun c d => c.passives.isUnlocked passive = false → Kept passive c d)
    (fun c _ => .refl passive c) (fun {c d e} hone hrest hlocked => ?_) (c, false)
    (fun other _ done hlocked => kept_refreshOne_of_locked rules a force hlocked other) h
  -- what is kept of a locked passive is also that it is locked
  have hkept := hone hlocked
  refine hkept.trans (hrest ?_)
  unfold PassiveState.isUnlocked at hlocked ⊢
  rw [hkept.unlocked, hlocked]

theorem kept_tickGiftOfLife (passive : Passive) (c : Character) (now : Instant) :
    Kept passive c (tickGiftOfLife c now) := by
  unfold tickGiftOfLife Character.mapPassives
  simp only
  split_ifs <;> exact ⟨⟨_, rfl⟩, rfl, rfl, rfl, fun _ _ => rfl, fun _ => rfl⟩

theorem unlocked_onCombatTick (rules : Rules) (a : Arena) (force : Bool) (c : Character) :
    (onCombatTick rules a force c).value.1.passives.unlocked = c.passives.unlocked := by
  have hcount := (kept_tickGiftOfLife default c rules.now).unlocked
  rw [value_onCombatTick]
  split_ifs
  · exact hcount
  · obtain ⟨_, _, _, h⟩ := overlaid_refresh rules a Passive.periodic force (tickGiftOfLife c rules.now)
    rw [h]
    exact hcount

theorem isUnlocked_onCombatTick (rules : Rules) (a : Arena) (force : Bool) (c : Character)
    (passive : Passive) :
    (onCombatTick rules a force c).value.1.passives.isUnlocked passive = c.passives.isUnlocked passive := by
  unfold PassiveState.isUnlocked
  rw [unlocked_onCombatTick]

theorem clean_refresh (rules : Rules) (a : Arena) (passives : List Passive) (force : Bool)
    (h : c.passives.Clean) : (refresh rules a passives force c).1.passives.Clean := by
  intro stat hs
  have hlocked : c.passives.isUnlocked stat.governor = false := by
    obtain ⟨_, _, _, hover⟩ := overlaid_refresh rules a passives force c
    rw [hover] at hs
    exact hs
  rw [(kept_refresh_of_locked rules a passives force hlocked).major stat rfl]
  exact h stat hlocked

theorem clean_onCombatTick (rules : Rules) (a : Arena) (force : Bool) (h : c.passives.Clean) :
    (onCombatTick rules a force c).value.1.passives.Clean := by
  have hcount : (tickGiftOfLife c rules.now).passives.Clean := by
    intro stat hs
    have hkept := kept_tickGiftOfLife stat.governor c rules.now
    unfold PassiveState.isUnlocked at hs
    rw [hkept.unlocked] at hs
    rw [hkept.major stat rfl]
    exact h stat hs
  rw [value_onCombatTick]
  split_ifs
  · exact fun stat _ => PassiveState.majorOf_resetMajors _ stat
  · exact clean_refresh rules a _ force hcount

/-! ## A forced tick -/

/-- The overlay rests: out of a fight, in a protection zone, or with no periodic passive unlocked and no
Gift of Life to wait for. -/
def AtRest (rules : Rules) (world : WorldView) (c : Character) : Prop :=
  c.isInFight rules.now = false ∨ world.zone c.place = .protection ∨
    (∀ passive ∈ Passive.periodic, c.passives.isUnlocked passive = false) ∧
      c.passives.giftOfLifeCooldown = 0

instance (rules : Rules) (world : WorldView) (c : Character) : Decidable (AtRest rules world c) := by
  unfold AtRest
  infer_instance

theorem rests_iff (hw : rules.world = some world) : rests rules c = true ↔ AtRest rules world c := by
  have hnone : c.passives.anyPeriodicUnlocked = false ↔
      ∀ passive ∈ Passive.periodic, c.passives.isUnlocked passive = false := by
    unfold PassiveState.anyPeriodicUnlocked
    simp only [List.any_eq_false, Bool.not_eq_true]
  unfold rests AtRest Rules.zoneOf
  rw [hw, Bool.or_eq_true, Bool.or_eq_true, Bool.and_eq_true, Bool.not_eq_true', Bool.not_eq_true',
    decide_eq_true_iff, decide_eq_true_iff, hnone, or_assoc, Option.elim_some]
  exact or_congr Iff.rfl or_comm

/-- The value that a major stat has by the live situation. -/
def reference (rules : Rules) (world : WorldView) (a : Arena) (c : Character) (stat : MajorStat) : Int :=
  if AtRest rules world c then 0
  else if c.passives.isUnlocked stat.governor then granted rules world a c stat
  else 0

/-- Every major stat has the value of the live situation. -/
def Matches (rules : Rules) (world : WorldView) (a : Arena) (c : Character) : Prop :=
  ∀ stat, c.passives.majorOf stat = reference rules world a c stat

instance (rules : Rules) (world : WorldView) (a : Arena) (c : Character) :
    Decidable (Matches rules world a c) :=
  decidable_of_iff (∀ stat ∈ MajorStat.all, c.passives.majorOf stat = reference rules world a c stat)
    ⟨fun h stat => h stat (Enumerated.mem_all stat), fun h stat _ => h stat⟩

theorem granted_of_stands (hw : rules.world = some world) {stat : MajorStat}
    (h : (grant rules a stat.governor c).Stands c.passives) :
    c.passives.majorOf stat = granted rules world a c stat := by
  refine h.majors (stat, granted rules world a c stat) ?_
  rw [majors_grant hw]
  exact List.mem_map_of_mem (Passive.mem_governs.mpr rfl)

/-- A tick of an overlay that does not rest leaves the stats of locked passives alone. -/
theorem majorOf_onCombatTick_of_locked {force : Bool} {stat : MajorStat}
    (hawake : ¬ rests rules (onCombatTick rules a force c).value.1 = true)
    (hlocked : c.passives.isUnlocked stat.governor = false) :
    (onCombatTick rules a force c).value.1.passives.majorOf stat = c.passives.majorOf stat := by
  have hcount := kept_tickGiftOfLife stat.governor c rules.now
  unfold PassiveState.isUnlocked at hlocked
  rw [← hcount.unlocked] at hlocked
  rw [rests_onCombatTick] at hawake
  rw [value_onCombatTick, if_neg hawake,
    (kept_refresh_of_locked rules a Passive.periodic force hlocked).major stat rfl]
  exact hcount.major stat rfl

/-- The major stats after a forced tick. -/
theorem majorOf_forcedTick (hw : rules.world = some world) (a : Arena) (c : Character) (stat : MajorStat) :
    (onCombatTick rules a true c).value.1.passives.majorOf stat =
      if AtRest rules world (onCombatTick rules a true c).value.1 then 0
      else if c.passives.isUnlocked stat.governor then
        granted rules world a (onCombatTick rules a true c).value.1 stat
      else c.passives.majorOf stat := by
  have hease : AtEase rules a true (onCombatTick rules a true c).value.1 := atEase_onCombatTick (.inl rfl) c
  simp only [AtEase, rests_iff hw] at hease
  split_ifs at hease ⊢ with hrest hunlocked
  · exact hease stat
  · have hdue : isDue rules true (onCombatTick rules a true c).value.1 stat.governor = true := by
      unfold isDue
      rw [isUnlocked_onCombatTick, hunlocked]
      rfl
    exact granted_of_stands hw (hease stat.governor stat.governor_mem_periodic hdue).1
  · rw [Bool.not_eq_true] at hunlocked
    exact majorOf_onCombatTick_of_locked (mt (rests_iff hw).mp hrest) hunlocked

/-- A forced tick makes the overlay match exactly if it rests or no locked passive had a stat left. -/
theorem matches_forcedTick_iff (hw : rules.world = some world) (a : Arena) (c : Character) :
    Matches rules world a (onCombatTick rules a true c).value.1 ↔
      AtRest rules world (onCombatTick rules a true c).value.1 ∨ c.passives.Clean := by
  have hstat := majorOf_forcedTick hw a c
  unfold Matches reference
  by_cases hrest : AtRest rules world (onCombatTick rules a true c).value.1
  · simp only [if_pos hrest] at hstat ⊢
    exact iff_of_true hstat (.inl hrest)
  · simp only [if_neg hrest, isUnlocked_onCombatTick] at hstat ⊢
    constructor
    · refine fun hmatch => .inr fun stat hlocked => ?_
      have hleft := (hstat stat).symm.trans (hmatch stat)
      rw [hlocked] at hleft
      exact hleft
    · intro hor stat
      rw [hstat stat]
      split_ifs with hunlocked
      · rfl
      · rw [Bool.not_eq_true] at hunlocked
        exact hor.resolve_left hrest stat hunlocked

end Passives

end Adventurer
