import Adventurer.Passives.Stage
import Adventurer.Stats.Hands

/-!
# Absorption

A hit runs through everything worn, slot by slot: each item takes away its rounded share and spends
a charge for it, if it has charges.  Potions and the avatar follow.  Items that spend their last
charge are reported, not removed.
-/

namespace Adventurer

/-- Damage about to strike. -/
structure Hit where
  amount : Int
  combat : CombatType
  /-- Whether the damage comes from a field on the ground. -/
  field : Bool := false
  /-- Whether the attacker is under a potion for the element. -/
  boosted : Bool := false
  deriving DecidableEq, Repr

/-- What is left of a hit. -/
structure Absorbed where
  damage : Int := 0
  /-- Whether nothing got through. -/
  blocked : Bool := false
  /-- The slots whose item spent its last charge. -/
  exhausted : List Slot := []
  deriving DecidableEq, Repr

namespace Hit

/-- The rounded share of some damage, in percent. -/
def share (damage percent : Int) : Int :=
  Binary64.toInt64 (Binary64.ofInt damage * (Binary64.ofInt percent / 100.0)).round

/-- The share of some damage rounded up, in percent. -/
def shareUp (damage percent : Int) : Int :=
  Binary64.toInt64 (Binary64.ofInt damage * Binary64.ofInt percent / 100.0).ceil

/-- The percentages of an item that apply to a hit, those of zero left out. -/
def shares (hit : Hit) (type : ItemType) : List Int :=
  (type.absorb hit.combat :: if hit.field then [type.fieldAbsorb hit.combat] else []).filter (· ≠ 0)

/-- A hit on its way through the slots. -/
structure Passage where
  arena : Arena
  damage : Int
  exhausted : List Slot

/-- Takes charges off an item; one without charges has no limit. -/
def spend (spent : Nat) (item : Item) : Item := { item with charges := item.charges - spent }

/-- Whether spending uses up the last charge of an item. -/
def exhausts (spent : Nat) (item : Item) : Bool := 0 < item.charges && item.charges ≤ spent

/-- Leads a hit through one slot. -/
def passSlot (rules : Rules) (c : Character) (hit : Hit) (p : Passage) (slot : Slot) : Passage :=
  match (c.equipment.get slot).bind fun id => (rules.resolve? p.arena id).map fun r => (id, r) with
  | none => p
  | some (id, item, type) =>
    let shares := hit.shares type
    { arena := p.arena.modify id (spend shares.length)
      damage :=
        shares.foldl (fun damage percent => wrapInt64 (damage - share damage percent)) p.damage
      exhausted := if exhausts shares.length item then p.exhausted ++ [slot] else p.exhausted }

/-- What potions and the avatar make of the damage left by the equipment. -/
def temper (c : Character) (hit : Hit) (now : Instant) (damage : Int) : Int :=
  let brewed :=
    if 0 < damage then
      let eased :=
        if c.combat.conditions.has (.protectionPotion hit.combat) now then
          wrapInt64 (damage - shareUp damage 8)
        else damage
      if hit.boosted then wrapInt64 (eased + shareUp eased 8) else eased
    else damage
  let reduction := c.avatarSkill .damageReduction now
  if 0 < reduction then wrapInt64 (brewed - shareUp brewed reduction) else brewed

/-- Absorbs a hit.  A hit of no damage passes by without touching anything. -/
def absorb (rules : Rules) (c : Character) (a : Arena) (hit : Hit) : Arena × Absorbed :=
  if hit.amount ≤ 0 then (a, {})
  else
    let p := Slot.all.foldl (passSlot rules c hit) ⟨a, hit.amount, []⟩
    let damage := temper c hit rules.now p.damage
    (p.arena, ⟨max damage 0, damage ≤ 0, p.exhausted⟩)

end Hit

end Adventurer
