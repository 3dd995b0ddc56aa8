import Adventurer.Document.Request

/-!
# Written blueprints

How clients describe step by step what they want to have built: a character, an item type, a
vocation or the view of a creature.  A blueprint lists calls, each of which is named by its field
`do` and changes one thing.
-/

namespace Adventurer

open Markup IntWidth

/-- Carries out the calls of a blueprint one after the other. -/
def Json.buildUp? {α : Type} (v : Json) (start : α) (call : Json → String → α → Option α) :
    Option α := do
  (← v.argOr? "calls" [] list?).foldlM (fun a c => do call c (← c.arg? "do" text?) a) start

namespace Character

/-- Carries out one call on a character. -/
def call? (v : Json) (name : String) (c : Character) : Option Character := do
  let progress := c.progress
  match name with
  | "vocation" => return { c with vocation := ← v.arg? "vocation" VocationId.read? }
  | "position" => return { c with place := ← v.arg? "at" Place.read? }
  | "temple" => return { c with temple := ← v.arg? "at" Place.read? }
  | "flags" => return { c with flags := ← v.arg? "flags" Flags.read? }
  | "health" => return { c with health := .full (← v.arg? "maximum" (count? natural32)) }
  | "mana" => return { c with mana := .full (← v.arg? "maximum" (count? natural32)) }
  | "capacity" => return { c with capacity := ← v.arg? "capacity" (count? natural32) }
  | "level" =>
    let level ← v.arg? "level" (count? natural32)
    let experience ← v.arg? "experience" (count? natural64)
    return { c with progress := { progress with level, experience } }
  | "magic_level" =>
    let magicLevel ← v.arg? "level" (count? natural32)
    let manaSpent ← v.arg? "spent" (count? natural64)
    return { c with progress := { progress with magicLevel, manaSpent } }
  | "skill" =>
    let skill ← v.arg? "skill" Worded.read?
    let level ← v.arg? "level" (count? natural32)
    let tries ← v.arg? "tries" (count? natural64)
    return { c with progress := progress.setSkill skill { c.skill skill with level, tries } }
  | "fight_mode" =>
    return { c with combat := { c.combat with fightMode := ← v.arg? "mode" Worded.read? } }
  | "blessing" =>
    let index ← v.arg? "index" (count? natural8)
    return { c with blessings := c.blessings.add index (← v.arg? "count" (count? natural8)) }
  | _ => none

/-- Builds a character. -/
def build? (v : Json) : Option Character := do
  v.buildUp? { id := ← v.arg? "id" CreatureId.read?, name := ← v.arg? "name" text? } call?

end Character

namespace ItemType

/-- Carries out one call on an item type. -/
def call? (v : Json) (name : String) (t : ItemType) : Option ItemType := do
  let percent := v.arg? "percent" (int? signed16)
  match name with
  | "weight" => return { t with weight := ← v.arg? "weight" (count? natural32) }
  | "weapon" => return { t with weaponType := ← v.arg? "weapon" Worded.read? }
  | "ammo" => return { t with ammoType := ← v.arg? "ammo" Worded.read? }
  | "slots" => return { t with positions := ← v.arg? "slots" SlotPositions.read? }
  | "armor" => return { t with armor := ← v.arg? "armor" (int? signed32) }
  | "defense" =>
    let defense ← v.arg? "defense" (int? signed32)
    return { t with defense, extraDefense := ← v.arg? "extra" (int? signed32) }
  | "absorb" => return t.withAbsorb (← v.arg? "combat" Worded.read?) (← percent)
  | "field_absorb" => return t.withFieldAbsorb (← v.arg? "combat" Worded.read?) (← percent)
  | "charges" => return { t with charges := ← v.arg? "charges" (count? natural16) }
  | "stackable" => return { t with stackable := true }
  | "container" => return { t with container := true }
  | "quiver" => return t.asQuiver
  | "spellbook" => return { t with spellbook := true }
  | "fixed" => return t.fixed
  | _ => none

/-- Builds an item type. -/
def build? (v : Json) : Option ItemType := do
  v.buildUp? (.plain (← v.arg? "id" ItemTypeId.read?) (← v.arg? "name" text?)) call?

end ItemType

namespace Vocation

/-- Carries out one call on a vocation. -/
def call? (v : Json) (name : String) (t : Vocation) : Option Vocation := do
  match name with
  | "gains" =>
    return { t with
      hpGain := ← v.arg? "hp" (count? natural32)
      manaGain := ← v.arg? "mana" (count? natural32)
      capGain := ← v.arg? "cap" (count? natural32) }
  | "promotion" => return { t with promotion := some (← v.arg? "promotion" VocationId.read?) }
  | "mitigation" =>
    return { t with
      mitigationFactor := ← v.arg? "factor" float?
      mitigationPrimaryShield := ← v.arg? "primary" float?
      mitigationSecondaryShield := ← v.arg? "secondary" float? }
  | "skill" =>
    return t.withSkillMultiplier (← v.arg? "skill" Worded.read?) (← v.arg? "multiplier" float?)
  | "mana" => return { t with manaMultiplier := ← v.arg? "multiplier" float? }
  | "attack_speed" => return { t with attackSpeedMillis := ← v.arg? "ms" (count? natural64) }
  | _ => none

/-- Builds a vocation. -/
def build? (v : Json) : Option Vocation := do
  v.buildUp? (.plain (← v.arg? "id" VocationId.read?) (← v.arg? "name" text?)) call?

end Vocation

/-- Builds the view of a creature: a monster unless it is said to be a player, with its master and
its race if it has them. -/
def CreatureView.build? (v : Json) : Option CreatureView := do
  let id ← v.arg? "id" CreatureId.read?
  let plain := if ← v.argOr? "player" false bool? then player id else monster id
  let master ← v.argOption? "master" Summoner.read?
  let race ← v.argOption? "race" (count? natural16)
  let led := master.elim plain fun m => plain.summonedBy m.id m.isPlayer
  return race.elim led led.withRace

end Adventurer
