import Adventurer.Severity

/-!
# Refusals

Why an item cannot be put into a slot or taken out of one.  A refusal is a normal outcome of play:
nothing has changed, and the player is shown the message.
-/

namespace Adventurer

/-- Why a move of an item is refused. -/
inductive Refusal where
  | notPossible
  | cannotPickup
  | cannotBeDressed
  | putInBothHands
  | putInYourHand
  | bothHandsNeedToBeFree
  | dropTwoHandedItem
  | onlyOneShield
  | onlyOneWeapon
  | notEnoughRoom
  | notEnoughCapacity
  | notMoveable
  /-- A hook of the host refused the move. -/
  | hookRejected
  deriving DecidableEq, Repr

namespace Refusal

/-- What the player is shown. -/
def message : Refusal → String
  | notPossible => "Sorry, not possible."
  | cannotPickup => "You cannot take this object."
  | cannotBeDressed => "You cannot dress this object there."
  | putInBothHands => "Put this object in both hands."
  | putInYourHand => "Put this object in your hand."
  | bothHandsNeedToBeFree => "Both hands need to be free."
  | dropTwoHandedItem => "Drop the double-handed object first."
  | onlyOneShield => "You may only use one shield."
  | onlyOneWeapon => "You may only use one weapon."
  | notEnoughRoom => "There is not enough room."
  | notEnoughCapacity => "This object is too heavy for you to carry."
  | notMoveable => "You cannot move this object."
  | hookRejected => "You cannot dress this object there."

/-- The code by which clients know the refusal. -/
def code : Refusal → String
  | notPossible => "EQUIP_NOT_POSSIBLE"
  | cannotPickup => "EQUIP_CANNOT_PICKUP"
  | cannotBeDressed => "EQUIP_CANNOT_BE_DRESSED"
  | putInBothHands => "EQUIP_PUT_IN_BOTH_HANDS"
  | putInYourHand => "EQUIP_PUT_IN_YOUR_HAND"
  | bothHandsNeedToBeFree => "EQUIP_BOTH_HANDS_NEED_TO_BE_FREE"
  | dropTwoHandedItem => "EQUIP_DROP_TWO_HANDED_ITEM"
  | onlyOneShield => "EQUIP_ONE_SHIELD"
  | onlyOneWeapon => "EQUIP_ONE_WEAPON"
  | notEnoughRoom => "EQUIP_NOT_ENOUGH_ROOM"
  | notEnoughCapacity => "EQUIP_NOT_ENOUGH_CAPACITY"
  | notMoveable => "EQUIP_NOT_MOVEABLE"
  | hookRejected => "EQUIP_HOOK_REJECTED"

/-- Only a move that makes no sense is bad input; any other may succeed later. -/
def severity : Refusal → Severity
  | notPossible => .validation
  | _ => .recoverable

instance : Fault Refusal := ⟨code, message, severity⟩

end Refusal

end Adventurer
