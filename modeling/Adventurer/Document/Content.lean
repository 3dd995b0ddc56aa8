import Adventurer.Markup.Json.Basic
import Adventurer.Markup.Words
import Adventurer.Vocation

/-!
# Written content

How item types, vocations and configurations are written.  A field that is missing keeps the value
it has by default, and a field that is not known is ignored.
-/

namespace Adventurer

open Markup IntWidth

variable {ν : Type} [Markup ν]

/-- The word of a member as a text. -/
def Json.ofWord {κ : Type} [Worded κ] (k : κ) : Json := .text (Worded.word k)

namespace ItemTypeId

def read? (v : ν) : Option ItemTypeId := do
  return ⟨← count? natural16 (← wrapped? "ItemTypeId" v)⟩

def toJson (id : ItemTypeId) : Json := .count id.number

end ItemTypeId

namespace VocationId

def read? (v : ν) : Option VocationId := do
  return ⟨← count? natural16 (← wrapped? "VocationId" v)⟩

def toJson (id : VocationId) : Json := .count id.number

end VocationId

namespace SlotPositions

def read? (v : ν) : Option SlotPositions := do
  return ⟨← names.read? (← text? (← wrapped? "SlotPositions" v))⟩

def toJson (p : SlotPositions) : Json := .text (names.render p.bits)

end SlotPositions

namespace ItemType

/-- The fields of an item type in the order in which they are listed. -/
def fieldNames : List String :=
  ["id", "name", "weight", "weapon_type", "ammo_type", "slot_positions", "armor", "defense",
    "extra_defense", "stackable", "pickupable", "moveable", "container", "quiver", "spellbook",
    "charges", "absorb_percent", "field_absorb_percent"]

def read? (v : ν) : Option ItemType := do
  let d : ItemType := {}
  let row ← Row.read? "ItemType" fieldNames v
  return {
    id := ← row.withDefault "id" d.id ItemTypeId.read?
    name := ← row.withDefault "name" d.name text?
    weight := ← row.withDefault "weight" d.weight (count? natural32)
    weaponType := ← row.withDefault "weapon_type" d.weaponType Worded.read?
    ammoType := ← row.withDefault "ammo_type" d.ammoType Worded.read?
    positions := ← row.withDefault "slot_positions" d.positions SlotPositions.read?
    armor := ← row.withDefault "armor" d.armor (int? signed32)
    defense := ← row.withDefault "defense" d.defense (int? signed32)
    extraDefense := ← row.withDefault "extra_defense" d.extraDefense (int? signed32)
    stackable := ← row.withDefault "stackable" d.stackable bool?
    pickupable := ← row.withDefault "pickupable" d.pickupable bool?
    moveable := ← row.withDefault "moveable" d.moveable bool?
    container := ← row.withDefault "container" d.container bool?
    quiver := ← row.withDefault "quiver" d.quiver bool?
    spellbook := ← row.withDefault "spellbook" d.spellbook bool?
    charges := ← row.withDefault "charges" d.charges (count? natural16)
    absorbPercent := ← row.withDefault "absorb_percent" d.absorbPercent (table? (int? signed16))
    fieldAbsorbPercent :=
      ← row.withDefault "field_absorb_percent" d.fieldAbsorbPercent (table? (int? signed16)) }

def toJson (t : ItemType) : Json :=
  .fields [
    ("id", t.id.toJson),
    ("name", .text t.name),
    ("weight", .count t.weight),
    ("weapon_type", .ofWord t.weaponType),
    ("ammo_type", .ofWord t.ammoType),
    ("slot_positions", t.positions.toJson),
    ("armor", .int t.armor),
    ("defense", .int t.defense),
    ("extra_defense", .int t.extraDefense),
    ("stackable", .bool t.stackable),
    ("pickupable", .bool t.pickupable),
    ("moveable", .bool t.moveable),
    ("container", .bool t.container),
    ("quiver", .bool t.quiver),
    ("spellbook", .bool t.spellbook),
    ("charges", .count t.charges),
    ("absorb_percent", .ofTable .int t.absorbPercent),
    ("field_absorb_percent", .ofTable .int t.fieldAbsorbPercent)]

end ItemType

namespace Vocation

/-- The fields of a vocation in the order in which they are listed. -/
def fieldNames : List String :=
  ["id", "name", "promotion", "hp_gain", "mana_gain", "cap_gain", "base_speed", "attack_speed_ms",
    "armor_multiplier", "defense_multiplier", "mitigation_factor", "mitigation_primary_shield",
    "mitigation_secondary_shield", "skill_multipliers", "mana_multiplier", "max_skill_level",
    "max_magic_level"]

def read? (v : ν) : Option Vocation := do
  let d : Vocation := {}
  let row ← Row.read? "Vocation" fieldNames v
  return {
    id := ← row.withDefault "id" d.id VocationId.read?
    name := ← row.withDefault "name" d.name text?
    promotion := ← row.withDefault "promotion" d.promotion (optionOf? VocationId.read?)
    hpGain := ← row.withDefault "hp_gain" d.hpGain (count? natural32)
    manaGain := ← row.withDefault "mana_gain" d.manaGain (count? natural32)
    capGain := ← row.withDefault "cap_gain" d.capGain (count? natural32)
    baseSpeed := ← row.withDefault "base_speed" d.baseSpeed (count? natural32)
    attackSpeedMillis := ← row.withDefault "attack_speed_ms" d.attackSpeedMillis (count? natural64)
    armorMultiplier := ← row.withDefault "armor_multiplier" d.armorMultiplier float?
    defenseMultiplier := ← row.withDefault "defense_multiplier" d.defenseMultiplier float?
    mitigationFactor := ← row.withDefault "mitigation_factor" d.mitigationFactor float?
    mitigationPrimaryShield :=
      ← row.withDefault "mitigation_primary_shield" d.mitigationPrimaryShield float?
    mitigationSecondaryShield :=
      ← row.withDefault "mitigation_secondary_shield" d.mitigationSecondaryShield float?
    skillMultipliers := ← row.withDefault "skill_multipliers" d.skillMultipliers (table? float?)
    manaMultiplier := ← row.withDefault "mana_multiplier" d.manaMultiplier float?
    maxSkillLevel := ← row.withDefault "max_skill_level" d.maxSkillLevel (count? natural32)
    maxMagicLevel := ← row.withDefault "max_magic_level" d.maxMagicLevel (count? natural32) }

def toJson (v : Vocation) : Json :=
  .fields [
    ("id", v.id.toJson),
    ("name", .text v.name),
    ("promotion", .ofOption VocationId.toJson v.promotion),
    ("hp_gain", .count v.hpGain),
    ("mana_gain", .count v.manaGain),
    ("cap_gain", .count v.capGain),
    ("base_speed", .count v.baseSpeed),
    ("attack_speed_ms", .count v.attackSpeedMillis),
    ("armor_multiplier", .ofFloat v.armorMultiplier),
    ("defense_multiplier", .ofFloat v.defenseMultiplier),
    ("mitigation_factor", .ofFloat v.mitigationFactor),
    ("mitigation_primary_shield", .ofFloat v.mitigationPrimaryShield),
    ("mitigation_secondary_shield", .ofFloat v.mitigationSecondaryShield),
    ("skill_multipliers", .ofTable .ofFloat v.skillMultipliers),
    ("mana_multiplier", .ofFloat v.manaMultiplier),
    ("max_skill_level", .count v.maxSkillLevel),
    ("max_magic_level", .count v.maxMagicLevel)]

end Vocation

namespace LossFormula

def read? (v : ν) : Option LossFormula := do
  match ← variant? v with
  | ("flat", some percent) => return .flat (← int? signed32 percent)
  | ("legacy", held) => if held.all isUnit then return .legacy else none
  | _ => none

def toJson : LossFormula → Json
  | flat percent => .tagged "flat" (.int percent)
  | legacy => .text "legacy"

end LossFormula

namespace SkullConfig

/-- The fields of a skull configuration in the order in which they are listed. -/
def fieldNames : List String :=
  ["day_kills_to_red", "week_kills_to_red", "month_kills_to_red", "red_duration_days",
    "black_duration_days", "orange_duration_days"]

def read? (v : ν) : Option SkullConfig := do
  let d : SkullConfig := {}
  let row ← Row.read? "SkullConfig" fieldNames v
  let field (name : String) (default : Nat) := row.withDefault name default (count? natural32)
  return {
    dayKillsToRed := ← field "day_kills_to_red" d.dayKillsToRed
    weekKillsToRed := ← field "week_kills_to_red" d.weekKillsToRed
    monthKillsToRed := ← field "month_kills_to_red" d.monthKillsToRed
    redDurationDays := ← field "red_duration_days" d.redDurationDays
    blackDurationDays := ← field "black_duration_days" d.blackDurationDays
    orangeDurationDays := ← field "orange_duration_days" d.orangeDurationDays }

def toJson (s : SkullConfig) : Json :=
  .fields [
    ("day_kills_to_red", .count s.dayKillsToRed),
    ("week_kills_to_red", .count s.weekKillsToRed),
    ("month_kills_to_red", .count s.monthKillsToRed),
    ("red_duration_days", .count s.redDurationDays),
    ("black_duration_days", .count s.blackDurationDays),
    ("orange_duration_days", .count s.orangeDurationDays)]

end SkullConfig

namespace GameConfig

/-- The fields of a configuration in the order in which they are listed. -/
def fieldNames : List String :=
  ["classic_equipment_slots", "loss_formula", "max_blessing", "world_type", "pz_locked_ms",
    "passive_interval_ms", "in_fight_window_ms", "pvp_damage_share", "unfair_fight_floor",
    "black_skull_death_health", "divine_empowerment_item", "max_level", "skulls"]

def read? (v : ν) : Option GameConfig := do
  let d : GameConfig := {}
  let row ← Row.read? "GameConfig" fieldNames v
  return {
    classicEquipmentSlots :=
      ← row.withDefault "classic_equipment_slots" d.classicEquipmentSlots bool?
    lossFormula := ← row.withDefault "loss_formula" d.lossFormula LossFormula.read?
    maxBlessing := ← row.withDefault "max_blessing" d.maxBlessing (count? natural8)
    worldType := ← row.withDefault "world_type" d.worldType Worded.read?
    pzLockedMillis := ← row.withDefault "pz_locked_ms" d.pzLockedMillis (count? natural64)
    passiveIntervalMillis :=
      ← row.withDefault "passive_interval_ms" d.passiveIntervalMillis (count? natural64)
    inFightWindowMillis :=
      ← row.withDefault "in_fight_window_ms" d.inFightWindowMillis (count? natural64)
    pvpDamageShare := ← row.withDefault "pvp_damage_share" d.pvpDamageShare float?
    unfairFightFloor := ← row.withDefault "unfair_fight_floor" d.unfairFightFloor (count? natural32)
    blackSkullDeathHealth :=
      ← row.withDefault "black_skull_death_health" d.blackSkullDeathHealth (int? signed32)
    divineEmpowermentItem :=
      ← row.withDefault "divine_empowerment_item" d.divineEmpowermentItem
        (optionOf? (count? natural16))
    maxLevel := ← row.withDefault "max_level" d.maxLevel (count? natural32)
    skulls := ← row.withDefault "skulls" d.skulls SkullConfig.read? }

def toJson (c : GameConfig) : Json :=
  .fields [
    ("classic_equipment_slots", .bool c.classicEquipmentSlots),
    ("loss_formula", c.lossFormula.toJson),
    ("max_blessing", .count c.maxBlessing),
    ("world_type", .ofWord c.worldType),
    ("pz_locked_ms", .count c.pzLockedMillis),
    ("passive_interval_ms", .count c.passiveIntervalMillis),
    ("in_fight_window_ms", .count c.inFightWindowMillis),
    ("pvp_damage_share", .ofFloat c.pvpDamageShare),
    ("unfair_fight_floor", .count c.unfairFightFloor),
    ("black_skull_death_health", .int c.blackSkullDeathHealth),
    ("divine_empowerment_item", .ofOption .count c.divineEmpowermentItem),
    ("max_level", .count c.maxLevel),
    ("skulls", c.skulls.toJson)]

end GameConfig

end Adventurer
