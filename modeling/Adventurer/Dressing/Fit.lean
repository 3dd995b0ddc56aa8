import Adventurer.Dressing.Refusal
import Adventurer.Rules

/-!
# Whether an item fits a slot

The positions of the item type decide, and for the hands also what the other hand holds.  Under the
classic rules either hand takes weapons and shields; under the modern ones the right hand takes
shields and quivers and the left hand weapons, and a two-handed distance weapon shares the hands
only with a quiver of its own ammunition.
-/

namespace Adventurer.Dressing

/-- How an item that fits no such slot is refused. -/
def positionRefusal (positions : SlotPositions) (classic : Bool) : Refusal :=
  if positions.namesBody then .cannotBeDressed
  else if positions.asksTwoHands then .putInBothHands
  else if positions.namesHand && classic then .putInYourHand
  else .cannotBeDressed

/-- `.ok` if a condition holds, and otherwise a refusal. -/
def require (condition : Bool) (refusal : Refusal) : Except Refusal Unit :=
  if condition then .ok () else .error refusal

variable (rules : Rules) (a : Arena)

/-- The classic rules for a hand whose other hand holds `other`. -/
def fitsClassicHand (id : ItemId) (item : Item) (type : ItemType) (count : Nat)
    (other : Option ItemId) : Except Refusal Unit :=
  match other with
  | none => .ok ()
  | some other =>
    if type.isTwoHanded then require (other = id) .bothHandsNeedToBeFree
    else
      let otherType := (rules.resolve? a other).map (·.2)
      let otherWeapon := otherType.elim WeaponType.none (·.weaponType)
      if otherType.any (·.isTwoHanded) then .error .dropTwoHandedItem
      else if other = id && count = item.count then .ok ()
      else if otherWeapon = .shield && type.isShield then .error .onlyOneShield
      else require (otherWeapon.isOffHand || type.weaponType.isOffHand) .onlyOneWeapon

/-- Whether every piece of typed ammunition in a quiver is of one kind. -/
def quiverHoldsOnly (quiver : ItemId) (ammo : AmmoType) : Bool :=
  (a.get? quiver).any fun bag =>
    bag.contents.all fun id =>
      (rules.resolve? a id).all fun held => held.2.ammoType = .none || held.2.ammoType = ammo

/-- The modern rules for the right hand while the left one holds `other`. -/
def fitsModernRight (id : ItemId) (type : ItemType) (other : Option ItemId) :
    Except Refusal Unit :=
  if !type.isShield && !type.quiver then .error .cannotBeDressed
  else match other.bind fun left => rules.resolve? a left with
    | none => .ok ()
    | some (_, left) =>
      require
        ((!left.isTwoHanded && !type.isTwoHanded)
          || (type.quiver && left.weaponType = .distance
            && quiverHoldsOnly rules a id left.ammoType))
        .bothHandsNeedToBeFree

/-- The modern rules for the left hand while the right one holds `other`. -/
def fitsModernLeft (type : ItemType) (other : Option ItemId) : Except Refusal Unit :=
  if type.weaponType.isOffHand then .error .cannotBeDressed
  else match other with
    | none => .ok ()
    | some right =>
      require
        (!type.isTwoHanded
          || (type.weaponType = .distance
            && (rules.resolve? a right).any (·.2.quiver)
            && quiverHoldsOnly rules a right type.ammoType))
        .bothHandsNeedToBeFree

/-- Whether `count` of an item fit a slot of a character, as far as positions and hands go. -/
def fitsSlot (c : Character) (id : ItemId) (item : Item) (type : ItemType) (slot : Slot)
    (count : Nat) : Except Refusal Unit :=
  let classic := rules.config.classicEquipmentSlots
  let refusal := positionRefusal type.positions classic
  if type.positions.allows slot then
    match slot with
    | .right =>
      let other := c.equipment.get .left
      if classic then fitsClassicHand rules a id item type count other
      else fitsModernRight rules a id type other
    | .left =>
      let other := c.equipment.get .right
      if classic then fitsClassicHand rules a id item type count other
      else fitsModernLeft rules a type other
    | _ => .ok ()
  else require (slot = .ammo && classic) refusal

end Adventurer.Dressing
