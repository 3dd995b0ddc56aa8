import Adventurer.Document.Character
import Adventurer.Engine
import Adventurer.Passives.Targeted
import Adventurer.World.Grid

/-!
# Written requests

How clients write what they ask for.  A field of a request that is null counts as left out, and a
field that may be left out has a usual value.
-/

namespace Adventurer

open Markup IntWidth

namespace Json

variable {α : Type}

/-- The value of a field that is there and not null. -/
def given? (request : Json) (name : String) : Option Json :=
  match request.field? name with
  | none | some null => none
  | some v => some v

/-- A field that a request needs. -/
def arg? (request : Json) (name : String) (item : Json → Option α) : Option α :=
  (request.given? name).bind item

/-- A field that has a usual value. -/
def argOr? (request : Json) (name : String) (usual : α) (item : Json → Option α) : Option α :=
  match request.given? name with
  | none => some usual
  | some v => item v

/-- A field that may be left out. -/
def argOption? (request : Json) (name : String) (item : Json → Option α) : Option (Option α) :=
  request.argOr? name none fun v => (item v).map some

end Json

instance : Worded Severity where
  all := [.recoverable, .validation, .internal, .fatal]
  word
    | .recoverable => "Recoverable"
    | .validation => "Validation"
    | .internal => "Internal"
    | .fatal => "Fatal"

instance : Worded Refusal where
  all := [.notPossible, .cannotPickup, .cannotBeDressed, .putInBothHands, .putInYourHand,
    .bothHandsNeedToBeFree, .dropTwoHandedItem, .onlyOneShield, .onlyOneWeapon, .notEnoughRoom,
    .notEnoughCapacity, .notMoveable, .hookRejected]
  word
    | .notPossible => "NotPossible"
    | .cannotPickup => "CannotPickup"
    | .cannotBeDressed => "CannotBeDressed"
    | .putInBothHands => "PutThisObjectInBothHands"
    | .putInYourHand => "PutThisObjectInYourHand"
    | .bothHandsNeedToBeFree => "BothHandsNeedToBeFree"
    | .dropTwoHandedItem => "DropTwoHandedItem"
    | .onlyOneShield => "CanOnlyUseOneShield"
    | .onlyOneWeapon => "CanOnlyUseOneWeapon"
    | .notEnoughRoom => "NotEnoughRoom"
    | .notEnoughCapacity => "NotEnoughCapacity"
    | .notMoveable => "NotMoveable"
    | .hookRejected => "HookRejected"

/-- Reads the id by which a client names an item: the cell with the generation, or the cell alone
for its first generation. -/
def ItemId.named? (v : Json) : Option ItemId := do
  match v with
  | .list [index, generation] =>
    return ⟨← count? natural32 index, ← count? natural32 generation⟩
  | _ => return ⟨← count? natural32 v, 0⟩

/-- Reads an item that is to be created: one piece without charges and contents, unless more is
asked for. -/
def Item.requested? (v : Json) : Option Item := do
  return {
    type := ← v.arg? "type" ItemTypeId.read?
    count := ← v.argOr? "count" 1 (count? natural32)
    charges := ← v.argOr? "charges" 0 (count? natural16)
    contents := ← v.argOr? "contents" [] (listOf? ItemId.named?) }

def Summoner.read? (v : Json) : Option Summoner := do
  return ⟨← v.arg? "id" CreatureId.read?, ← v.argOr? "is_player" false bool?⟩

def CreatureView.read? (v : Json) : Option CreatureView := do
  return {
    id := ← v.arg? "id" CreatureId.read?
    kind := ← v.arg? "kind" Worded.read?
    master := ← v.argOption? "master" Summoner.read?
    race := ← v.argOption? "race_id" (count? natural16) }

def SlotTarget.read? (v : Json) : Option SlotTarget :=
  match v with
  | .text "wherever" => some .wherever
  | _ => (Worded.read? v).map .named

def EquipRequest.read? (v : Json) : Option EquipRequest := do
  return {
    item := ← v.arg? "item" ItemId.named?
    target := ← v.arg? "target" SlotTarget.read?
    count := ← v.argOr? "count" 1 (count? natural32) }

def ScheduledAction.read? (v : Json) : Option ScheduledAction := do
  match ← variant? v with
  | ("refresh", none) => return .forceRefresh
  | ("equip", some held) => return .equip (← EquipRequest.read? held)
  | ("unequip", some held) =>
    return .unequip (← held.arg? "slot" Worded.read?) (← held.argOr? "count" 1 (count? natural32))
  | _ => none

def Hit.read? (v : Json) : Option Hit := do
  return {
    amount := ← v.arg? "amount" (int? signed64)
    combat := ← v.arg? "combat" Worded.read?
    field := ← v.argOr? "field" false bool?
    boosted := ← v.argOr? "boosted" false bool? }

def WorldEdit.read? (v : Json) : Option WorldEdit := do
  match ← variant? v with
  | ("PlaceCreature", some held) =>
    return .placeCreature (← held.arg? "at" Place.read?) (← held.arg? "creature" CreatureView.read?)
      (← held.argOption? "level" (count? natural32))
  | ("ClearTile", some held) => return .clearTile (← held.arg? "at" Place.read?)
  | ("SetZone", some held) =>
    return .setZone (← held.arg? "at" Place.read?) (← held.arg? "zone" Worded.read?)
  | ("SetGroundItems", some held) =>
    return .setGroundItems (← held.arg? "at" Place.read?) (← held.arg? "item" ItemTypeId.read?)
      (← held.arg? "count" (count? natural32))
  | _ => none

/-- Reads the target of an attack, a monster unless it is said to be a player. -/
def Target.read? (v : Json) : Option Target := do
  return {
    id := ← v.arg? "id" CreatureId.read?
    health := ⟨← v.arg? "current" (count? natural32), ← v.arg? "maximum" (count? natural32)⟩
    isMonster := !(← v.argOr? "player" false bool?)
    damageReceivedPercent := ← v.argOr? "received" 100 (int? signed32)
    damageDealtPercent := ← v.argOr? "dealt" 100 (int? signed32) }

end Adventurer
