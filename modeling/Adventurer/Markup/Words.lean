import Adventurer.Config
import Adventurer.Markup.Basic
import Adventurer.Markup.BitNames
import Adventurer.Notice
import Adventurer.Progress.Training
import Adventurer.World.View

/-!
# Words for the kinds of the game

The word under which each member of a kind is written, and the names of the bits of bit sets.
-/

namespace Adventurer

instance : Worded Slot where
  all := Slot.all
  word
    | .head => "head"
    | .necklace => "necklace"
    | .backpack => "backpack"
    | .armor => "armor"
    | .right => "right"
    | .left => "left"
    | .legs => "legs"
    | .feet => "feet"
    | .ring => "ring"
    | .ammo => "ammo"

instance : Worded Skill where
  all := Skill.all
  word
    | .fist => "fist"
    | .club => "club"
    | .sword => "sword"
    | .axe => "axe"
    | .distance => "distance"
    | .shield => "shield"
    | .fishing => "fishing"

instance : Worded WeaponType where
  all := WeaponType.all
  word
    | .none => "none"
    | .sword => "sword"
    | .club => "club"
    | .axe => "axe"
    | .shield => "shield"
    | .distance => "distance"
    | .wand => "wand"
    | .ammo => "ammo"
    | .missile => "missile"

instance : Worded AmmoType where
  all := AmmoType.all
  word
    | .none => "none"
    | .bolt => "bolt"
    | .arrow => "arrow"
    | .spear => "spear"
    | .throwingStar => "throwing_star"
    | .throwingKnife => "throwing_knife"
    | .stone => "stone"

instance : Worded CombatType where
  all := CombatType.all
  word
    | .physical => "physical"
    | .energy => "energy"
    | .earth => "earth"
    | .fire => "fire"
    | .lifeDrain => "life_drain"
    | .manaDrain => "mana_drain"
    | .healing => "healing"
    | .drown => "drown"
    | .ice => "ice"
    | .holy => "holy"
    | .death => "death"

instance : Worded Passive where
  all := Passive.all
  word
    | .battleInstinct => "battle_instinct"
    | .positionalTactics => "positional_tactics"
    | .ballisticMastery => "ballistic_mastery"
    | .combatMastery => "combat_mastery"
    | .divineEmpowerment => "divine_empowerment"
    | .giftOfLife => "gift_of_life"
    | .blessingOfTheGrove => "blessing_of_the_grove"
    | .twinBurst => "twin_burst"
    | .executionersThrow => "executioners_throw"
    | .beamMastery => "beam_mastery"
    | .drainBody => "drain_body"
    | .avatarOfLight => "avatar_of_light"
    | .avatarOfSteel => "avatar_of_steel"
    | .avatarOfNature => "avatar_of_nature"
    | .avatarOfStorm => "avatar_of_storm"

instance : Worded MajorStat where
  all := MajorStat.all
  word
    | .melee => "melee"
    | .shield => "shield"
    | .distance => "distance"
    | .magic => "magic"
    | .criticalDamage => "critical_damage"
    | .masteryCriticalDamage => "mastery_critical_damage"
    | .physicalDamage => "physical_damage"
    | .holyDamage => "holy_damage"
    | .defense => "defense"
    | .damage => "damage"

instance : Worded FightMode where
  all := [.attack, .balanced, .defense]
  word
    | .attack => "attack"
    | .balanced => "balanced"
    | .defense => "defense"

instance : Worded Skull where
  all := [.none, .yellow, .green, .white, .red, .black, .orange]
  word
    | .none => "none"
    | .yellow => "yellow"
    | .green => "green"
    | .white => "white"
    | .red => "red"
    | .black => "black"
    | .orange => "orange"

instance : Worded CreatureKind where
  all := [.player, .monster, .npc]
  word
    | .player => "player"
    | .monster => "monster"
    | .npc => "npc"

instance : Worded Zone where
  all := [.normal, .protection, .noPvp, .pvp]
  word
    | .normal => "normal"
    | .protection => "protection"
    | .noPvp => "no_pvp"
    | .pvp => "pvp"

instance : Worded WorldType where
  all := [.noPvp, .pvp, .pvpEnforced]
  word
    | .noPvp => "no_pvp"
    | .pvp => "pvp"
    | .pvpEnforced => "pvp_enforced"

instance : Worded MessageClass where
  all := [.eventAdvance, .experienceGain, .spectator, .warning, .status]
  word
    | .eventAdvance => "event_advance"
    | .experienceGain => "experience_gain"
    | .spectator => "spectator"
    | .warning => "warning"
    | .status => "status"

instance : Worded BlockType where
  all := [.none, .defense, .armor, .immunity]
  word
    | .none => "None"
    | .defense => "Defense"
    | .armor => "Armor"
    | .immunity => "Immunity"

/-- The word for a condition kind that holds nothing, or the name before what it holds. -/
def ConditionKind.name : ConditionKind → String
  | inFight => "InFight"
  | haste => "Haste"
  | paralyze => "Paralyze"
  | poison => "Poison"
  | burning => "Burning"
  | electrified => "Electrified"
  | bleeding => "Bleeding"
  | drunk => "Drunk"
  | regeneration => "Regeneration"
  | spellCooldown _ => "SpellCooldown"
  | spellGroupCooldown _ => "SpellGroupCooldown"
  | protectionPotion _ => "ProtectionPotion"
  | attackPotion _ => "AttackPotion"

/-- The condition kinds that hold nothing. -/
def ConditionKind.plain : List ConditionKind :=
  [inFight, haste, paralyze, poison, burning, electrified, bleeding, drunk, regeneration]

/-- The names of body positions.  The last one stands for both hands. -/
def SlotPositions.names : BitNames where
  width := 16
  members :=
    [("HEAD", 1), ("NECKLACE", 2), ("BACKPACK", 4), ("ARMOR", 8), ("RIGHT", 16), ("LEFT", 32),
      ("LEGS", 64), ("FEET", 128), ("RING", 256), ("AMMO", 512), ("TWO_HAND", 2048), ("HAND", 48)]

/-- The names of flags. -/
def Flags.names : BitNames where
  width := 32
  members :=
    [("CANNOT_PICKUP_ITEMS", 1), ("HAS_INFINITE_CAPACITY", 2), ("NOT_GAIN_MANA", 4),
      ("NOT_GAIN_EXPERIENCE", 8), ("NOT_GAIN_SKILL", 16), ("NOT_GAIN_IN_FIGHT", 32),
      ("SET_MAX_SPEED", 64)]

end Adventurer
