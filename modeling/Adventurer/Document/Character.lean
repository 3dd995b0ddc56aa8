import Adventurer.Document.Content
import Adventurer.Item.Arena

/-!
# Written characters

How a character is written.  A field that may be empty may be left out; every other field has to be
there.
-/

namespace Adventurer

open Markup IntWidth

variable {ν : Type} [Markup ν]

namespace CreatureId

def read? (v : ν) : Option CreatureId := do
  return ⟨← count? natural32 (← wrapped? "CreatureId" v)⟩

def toJson (id : CreatureId) : Json := .count id.number

end CreatureId

namespace Instant

def read? (v : ν) : Option Instant := do
  return ⟨← count? natural64 (← wrapped? "Instant" v)⟩

def toJson (t : Instant) : Json := .count t.millis

end Instant

namespace ItemId

def read? (v : ν) : Option ItemId := do
  let row ← Row.read? "ItemId" ["index", "generation"] v
  return ⟨← row.required "index" (count? natural32), ← row.required "generation" (count? natural32)⟩

def toJson (id : ItemId) : Json :=
  .fields [("index", .count id.index), ("generation", .count id.generation)]

end ItemId

namespace Place

def read? (v : ν) : Option Place := do
  let row ← Row.read? "Place" ["x", "y", "z"] v
  return ⟨← row.required "x" (int? signed32), ← row.required "y" (int? signed32),
    ← row.required "z" (count? natural8)⟩

def toJson (p : Place) : Json :=
  .fields [("x", .int p.x), ("y", .int p.y), ("z", .count p.floor)]

end Place

namespace Meter

def read? (v : ν) : Option Meter := do
  let row ← Row.read? "Meter" ["current", "maximum"] v
  return ⟨← row.required "current" (count? natural32), ← row.required "maximum" (count? natural32)⟩

def toJson (m : Meter) : Json :=
  .fields [("current", .count m.current), ("maximum", .count m.maximum)]

end Meter

namespace Flags

def read? (v : ν) : Option Flags := do return ⟨← names.read? (← text? (← wrapped? "Flags" v))⟩

def toJson (f : Flags) : Json := .text (names.render f.bits)

end Flags

namespace SkillRecord

def read? (v : ν) : Option SkillRecord := do
  let row ← Row.read? "SkillRecord" ["level", "tries", "percent"] v
  return {
    level := ← row.required "level" (count? natural32)
    tries := ← row.required "tries" (count? natural64)
    percent := ← row.required "percent" float? }

def toJson (r : SkillRecord) : Json :=
  .fields [("level", .count r.level), ("tries", .count r.tries), ("percent", .ofFloat r.percent)]

end SkillRecord

namespace Track

def read? (v : ν) : Option Track := do
  match ← variant? v with
  | ("Skill", some held) => return .skill (← Worded.read? held)
  | ("Level", held) => if held.all isUnit then return .level else none
  | ("MagicLevel", held) => if held.all isUnit then return .magicLevel else none
  | _ => none

def toJson : Track → Json
  | level => .text "Level"
  | magicLevel => .text "MagicLevel"
  | skill s => .tagged "Skill" (.ofWord s)

end Track

namespace Ledger

/-- The fields of a ledger in the order in which they are listed. -/
def fieldNames : List String :=
  ["experience", "level", "level_percent", "magic_level", "mana_spent", "magic_level_percent",
    "skills"]

def read? (v : ν) : Option Ledger := do
  let row ← Row.read? "Ledger" fieldNames v
  return {
    experience := ← row.required "experience" (count? natural64)
    level := ← row.required "level" (count? natural32)
    levelPercent := ← row.required "level_percent" float?
    magicLevel := ← row.required "magic_level" (count? natural32)
    manaSpent := ← row.required "mana_spent" (count? natural64)
    magicLevelPercent := ← row.required "magic_level_percent" float?
    skills := ← row.required "skills" (table? SkillRecord.read?) }

def toJson (l : Ledger) : Json :=
  .fields [
    ("experience", .count l.experience),
    ("level", .count l.level),
    ("level_percent", .ofFloat l.levelPercent),
    ("magic_level", .count l.magicLevel),
    ("mana_spent", .count l.manaSpent),
    ("magic_level_percent", .ofFloat l.magicLevelPercent),
    ("skills", .ofTable SkillRecord.toJson l.skills)]

end Ledger

namespace Equipment

def read? (v : ν) : Option Equipment := do
  let row ← Row.read? "Equipment" ["slots"] v
  return ⟨← row.required "slots" (table? (optionOf? ItemId.read?))⟩

def toJson (e : Equipment) : Json :=
  .fields [("slots", .ofTable (.ofOption ItemId.toJson) e.slots)]

end Equipment

namespace ConditionKind

def read? (v : ν) : Option ConditionKind := do
  match ← variant? v with
  | ("SpellCooldown", some held) => return .spellCooldown (← count? natural16 held)
  | ("SpellGroupCooldown", some held) => return .spellGroupCooldown (← count? natural8 held)
  | ("ProtectionPotion", some held) => return .protectionPotion (← Worded.read? held)
  | ("AttackPotion", some held) => return .attackPotion (← Worded.read? held)
  | (word, held) => if held.all isUnit then plain.find? (·.name = word) else none

def toJson (k : ConditionKind) : Json :=
  match k with
  | spellCooldown spell => .tagged k.name (.count spell)
  | spellGroupCooldown group => .tagged k.name (.count group)
  | protectionPotion combat | attackPotion combat => .tagged k.name (.ofWord combat)
  | _ => .text k.name

end ConditionKind

namespace Condition

def read? (v : ν) : Option Condition := do
  let row ← Row.read? "Condition" ["kind", "expires_at", "persistent"] v
  return {
    kind := ← row.required "kind" ConditionKind.read?
    expiresAt := ← row.optional "expires_at" Instant.read?
    persistent := ← row.required "persistent" bool? }

def toJson (c : Condition) : Json :=
  .fields [("kind", c.kind.toJson), ("expires_at", .ofOption Instant.toJson c.expiresAt),
    ("persistent", .bool c.persistent)]

end Condition

namespace ConditionSet

/-- Reads a set; one with more conditions than it has room for is refused. -/
def read? (v : ν) : Option ConditionSet := do
  let row ← Row.read? "ConditionSet" ["conditions"] v
  let conditions ← row.required "conditions" (listOf? Condition.read?)
  if conditions.length ≤ capacity then return ⟨conditions⟩ else none

def toJson (s : ConditionSet) : Json :=
  .fields [("conditions", .ofList Condition.toJson s.conditions)]

end ConditionSet

namespace DamageRecord

def read? (v : ν) : Option DamageRecord := do
  let row ← Row.read? "DamageRecord" ["total", "last_hit"] v
  return ⟨← row.required "total" (count? natural64), ← row.required "last_hit" Instant.read?⟩

def toJson (r : DamageRecord) : Json :=
  .fields [("total", .count r.total), ("last_hit", r.lastHit.toJson)]

end DamageRecord

/-- Damage by attacker, one field each; of two fields of one attacker the last one counts. -/
def readDamage? (v : ν) : Option (SortedMap CreatureId DamageRecord) := do
  return .ofList (← (← numbered? natural32 v).mapM fun e => do
    return (⟨e.1.toNat⟩, ← DamageRecord.read? e.2))

def damageToJson (m : SortedMap CreatureId DamageRecord) : Json :=
  .fields (m.entries.map fun e => (toString e.1.number, e.2.toJson))

namespace BonusSource

def read? (v : ν) : Option BonusSource := do
  match ← variant? v with
  | ("Equipment", some held) => return .equipment (← Worded.read? held)
  | ("Condition", some held) => return .condition (← count? natural16 held)
  | ("Script", some held) => return .script (← count? natural16 held)
  | _ => none

def toJson : BonusSource → Json
  | equipment slot => .tagged "Equipment" (.ofWord slot)
  | condition id => .tagged "Condition" (.count id)
  | script id => .tagged "Script" (.count id)

end BonusSource

namespace Bonus

def read? (v : ν) : Option Bonus := do
  match ← variant? v with
  | ("Flat", some held) => return .flat (← int? signed32 held)
  | ("Increased", some held) => return .increased (← int? signed32 held)
  | _ => none

def toJson : Bonus → Json
  | flat amount => .tagged "Flat" (.int amount)
  | increased percent => .tagged "Increased" (.int percent)

end Bonus

namespace BonusStack

def read? (v : ν) : Option BonusStack := do
  let row ← Row.read? "BonusStack" ["entries"] v
  return ⟨← row.required "entries" (listOf? (pair? BonusSource.read? Bonus.read?))⟩

def toJson (s : BonusStack) : Json :=
  .fields [("entries", .ofList (fun e => .list [e.1.toJson, e.2.toJson]) s.entries)]

end BonusStack

namespace DerivedStats

def read? (v : ν) : Option DerivedStats := do
  let row ← Row.read? "DerivedStats"
    ["mitigation", "defense", "attack_factor", "defense_factor", "armor"] v
  return {
    mitigation := ← row.required "mitigation" float?
    defense := ← row.required "defense" (int? signed32)
    attackFactor := ← row.required "attack_factor" float?
    defenseFactor := ← row.required "defense_factor" float?
    armor := ← row.required "armor" (int? signed32) }

def toJson (s : DerivedStats) : Json :=
  .fields [("mitigation", .ofFloat s.mitigation), ("defense", .int s.defense),
    ("attack_factor", .ofFloat s.attackFactor), ("defense_factor", .ofFloat s.defenseFactor),
    ("armor", .int s.armor)]

end DerivedStats

namespace CombatProfile

/-- The fields of a combat profile in the order in which they are listed. -/
def fieldNames : List String :=
  ["fight_mode", "last_attack", "conditions", "damage_map", "pz_locked", "skill_loss",
    "skill_bonuses", "magic_bonus", "mitigation_bonus", "cached", "shield_block_count",
    "blood_hit_count", "add_attack_skill_point"]

def read? (v : ν) : Option CombatProfile := do
  let row ← Row.read? "CombatProfile" fieldNames v
  return {
    fightMode := ← row.required "fight_mode" Worded.read?
    lastAttack := ← row.required "last_attack" Instant.read?
    conditions := ← row.required "conditions" ConditionSet.read?
    damage := ← row.required "damage_map" readDamage?
    pzLocked := ← row.required "pz_locked" bool?
    skillLoss := ← row.required "skill_loss" bool?
    skillBonuses := ← row.required "skill_bonuses" (table? BonusStack.read?)
    magicBonus := ← row.required "magic_bonus" BonusStack.read?
    mitigationBonus := ← row.required "mitigation_bonus" BonusStack.read?
    cached := ← row.required "cached" DerivedStats.read?
    shieldBlockCount := ← row.required "shield_block_count" (count? natural32)
    bloodHitCount := ← row.required "blood_hit_count" (count? natural32)
    addAttackSkillPoint := ← row.required "add_attack_skill_point" bool? }

def toJson (p : CombatProfile) : Json :=
  .fields [
    ("fight_mode", .ofWord p.fightMode),
    ("last_attack", p.lastAttack.toJson),
    ("conditions", p.conditions.toJson),
    ("damage_map", damageToJson p.damage),
    ("pz_locked", .bool p.pzLocked),
    ("skill_loss", .bool p.skillLoss),
    ("skill_bonuses", .ofTable BonusStack.toJson p.skillBonuses),
    ("magic_bonus", p.magicBonus.toJson),
    ("mitigation_bonus", p.mitigationBonus.toJson),
    ("cached", p.cached.toJson),
    ("shield_block_count", .count p.shieldBlockCount),
    ("blood_hit_count", .count p.bloodHitCount),
    ("add_attack_skill_point", .bool p.addAttackSkillPoint)]

end CombatProfile

namespace ActiveAvatar

def read? (v : ν) : Option ActiveAvatar := do
  let (avatar, until_) ← pair? Worded.read? Instant.read? v
  return ⟨avatar, until_⟩

def toJson (a : ActiveAvatar) : Json := .list [.ofWord a.avatar, a.until_.toJson]

end ActiveAvatar

namespace PassiveState

/-- The fields of the passive state in the order in which they are listed. -/
def fieldNames : List String :=
  ["unlocked", "stages", "deadlines", "major", "gift_of_life_cooldown", "cooldown_clock", "avatar",
    "creatures_nearby"]

def read? (v : ν) : Option PassiveState := do
  let row ← Row.read? "PassiveState" fieldNames v
  return {
    unlocked := ← row.required "unlocked" (table? bool?)
    stages := ← row.required "stages" (table? (count? natural8))
    deadlines := ← row.required "deadlines" (table? Instant.read?)
    major := ← row.required "major" (table? (int? signed32))
    giftOfLifeCooldown := ← row.required "gift_of_life_cooldown" (count? natural32)
    cooldownClock := ← row.required "cooldown_clock" Instant.read?
    avatar := ← row.optional "avatar" ActiveAvatar.read?
    creaturesNearby := ← row.required "creatures_nearby" (count? natural16) }

def toJson (p : PassiveState) : Json :=
  .fields [
    ("unlocked", .ofTable .bool p.unlocked),
    ("stages", .ofTable .count p.stages),
    ("deadlines", .ofTable Instant.toJson p.deadlines),
    ("major", .ofTable .int p.major),
    ("gift_of_life_cooldown", .count p.giftOfLifeCooldown),
    ("cooldown_clock", p.cooldownClock.toJson),
    ("avatar", .ofOption ActiveAvatar.toJson p.avatar),
    ("creatures_nearby", .count p.creaturesNearby)]

end PassiveState

namespace Blessings

def read? (v : ν) : Option Blessings := do
  let row ← Row.read? "Blessings" ["counts"] v
  let counts ← row.required "counts" fun held => do (← tuple? held).mapM (count? natural8)
  if h : counts.length = 9 then return ⟨⟨counts.toArray, by simpa using h⟩⟩ else none

def toJson (b : Blessings) : Json := .fields [("counts", .ofList .count b.counts.toList)]

end Blessings

namespace UnjustifiedKill

def read? (v : ν) : Option UnjustifiedKill := do
  let row ← Row.read? "UnjustifiedKill" ["target", "at", "unavenged"] v
  return ⟨← row.required "target" CreatureId.read?, ← row.required "at" Instant.read?,
    ← row.required "unavenged" bool?⟩

def toJson (k : UnjustifiedKill) : Json :=
  .fields [("target", k.target.toJson), ("at", k.time.toJson), ("unavenged", .bool k.unavenged)]

end UnjustifiedKill

namespace Reputation

def read? (v : ν) : Option Reputation := do
  let row ← Row.read? "Reputation" ["skull", "skull_ticks", "kills", "attacked"] v
  return {
    skull := ← row.required "skull" Worded.read?
    skullTicks := ← row.required "skull_ticks" (int? signed64)
    kills := ← row.required "kills" (listOf? UnjustifiedKill.read?)
    attacked := .ofList (← row.required "attacked" (listOf? CreatureId.read?)) }

def toJson (r : Reputation) : Json :=
  .fields [
    ("skull", .ofWord r.skull),
    ("skull_ticks", .int r.skullTicks),
    ("kills", .ofList UnjustifiedKill.toJson r.kills),
    ("attacked", .ofList CreatureId.toJson r.attacked.members)]

end Reputation

namespace Character

/-- The fields of a character in the order in which they are listed. -/
def fieldNames : List String :=
  ["id", "name", "vocation", "position", "temple", "flags", "health", "mana", "capacity",
    "inventory_weight", "base_speed", "progression", "equipment", "combat", "passives",
    "blessings", "reputation", "charm_rune_bless"]

def read? (v : ν) : Option Character := do
  let row ← Row.read? "Character" fieldNames v
  return {
    id := ← row.required "id" CreatureId.read?
    name := ← row.required "name" text?
    vocation := ← row.required "vocation" VocationId.read?
    place := ← row.required "position" Place.read?
    temple := ← row.required "temple" Place.read?
    flags := ← row.required "flags" Flags.read?
    health := ← row.required "health" Meter.read?
    mana := ← row.required "mana" Meter.read?
    capacity := ← row.required "capacity" (count? natural32)
    inventoryWeight := ← row.required "inventory_weight" (count? natural32)
    baseSpeed := ← row.required "base_speed" (count? natural32)
    progress := ← row.required "progression" Ledger.read?
    equipment := ← row.required "equipment" Equipment.read?
    combat := ← row.required "combat" CombatProfile.read?
    passives := ← row.required "passives" PassiveState.read?
    blessings := ← row.required "blessings" Blessings.read?
    reputation := ← row.required "reputation" Reputation.read?
    charmRuneBless := ← row.optional "charm_rune_bless" (count? natural16) }

def toJson (c : Character) : Json :=
  .fields [
    ("id", c.id.toJson),
    ("name", .text c.name),
    ("vocation", c.vocation.toJson),
    ("position", c.place.toJson),
    ("temple", c.temple.toJson),
    ("flags", c.flags.toJson),
    ("health", c.health.toJson),
    ("mana", c.mana.toJson),
    ("capacity", .count c.capacity),
    ("inventory_weight", .count c.inventoryWeight),
    ("base_speed", .count c.baseSpeed),
    ("progression", c.progress.toJson),
    ("equipment", c.equipment.toJson),
    ("combat", c.combat.toJson),
    ("passives", c.passives.toJson),
    ("blessings", c.blessings.toJson),
    ("reputation", c.reputation.toJson),
    ("charm_rune_bless", .ofOption .count c.charmRuneBless)]

end Character

end Adventurer
