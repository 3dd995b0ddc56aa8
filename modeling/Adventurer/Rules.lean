import Adventurer.Config
import Adventurer.Item.Weight
import Adventurer.Severity
import Adventurer.Vocation
import Adventurer.World.View

/-!
# The context of the rules

The catalogs, the world, the configuration and the clock that all rules of one tick consult.  Each
source may be missing; a rule then falls back to a neutral value, and a direct question fails.
-/

namespace Adventurer

/-- Why a source did not answer. -/
inductive LookupError where
  | itemsNotAvailable
  | vocationsNotAvailable
  | worldNotAvailable
  | itemTypeNotFound (id : ItemTypeId)
  | vocationNotFound (id : VocationId)
  | itemNotFound (id : ItemId)
  deriving DecidableEq, Repr

namespace LookupError

/-- What is shown of a failed lookup. -/
def message : LookupError → String
  | itemsNotAvailable => "ItemOracle not available"
  | vocationsNotAvailable => "VocationOracle not available"
  | worldNotAvailable => "WorldOracle not available"
  | itemTypeNotFound id => "item type ItemTypeId(" ++ toString id.number ++ ") not found"
  | vocationNotFound id => "vocation VocationId(" ++ toString id.number ++ ") not found"
  | itemNotFound id => "item " ++ id.render ++ " not found in arena"

/-- The code of a failed lookup. -/
def code : LookupError → String
  | itemsNotAvailable => "ORACLE_ITEMS_NOT_AVAILABLE"
  | vocationsNotAvailable => "ORACLE_VOCATIONS_NOT_AVAILABLE"
  | worldNotAvailable => "ORACLE_WORLD_NOT_AVAILABLE"
  | itemTypeNotFound _ => "ORACLE_ITEM_TYPE_NOT_FOUND"
  | vocationNotFound _ => "ORACLE_VOCATION_NOT_FOUND"
  | itemNotFound _ => "ORACLE_ITEM_NOT_FOUND"

/-- The data is at fault, not the request. -/
def severity (_ : LookupError) : Severity := .internal

instance : Fault LookupError := ⟨code, message, severity⟩

end LookupError

/-- What a vocation number stands for. -/
abbrev VocationLookup := VocationId → Option Vocation

/-- The sources, the configuration and the clock of one tick. -/
structure Rules where
  items : Option ItemLookup := none
  vocations : Option VocationLookup := none
  world : Option WorldView := none
  config : GameConfig := {}
  now : Instant := .zero

namespace Rules

/-- The same sources and configuration at another time. -/
def moveTo (r : Rules) (now : Instant) : Rules := { r with now }

/-- The catalog of item types. -/
def askItems (r : Rules) : Except LookupError ItemLookup :=
  r.items.elim (.error .itemsNotAvailable) .ok

/-- The type of a number. -/
def askItemType (r : Rules) (id : ItemTypeId) : Except LookupError ItemType :=
  match r.items with
  | none => .error .itemsNotAvailable
  | some types => (types id).elim (.error (.itemTypeNotFound id)) .ok

/-- The vocation of a number. -/
def askVocation (r : Rules) (id : VocationId) : Except LookupError Vocation :=
  match r.vocations with
  | none => .error .vocationsNotAvailable
  | some vocations => (vocations id).elim (.error (.vocationNotFound id)) .ok

/-- The world around the character. -/
def askWorld (r : Rules) : Except LookupError WorldView :=
  r.world.elim (.error .worldNotAvailable) .ok

/-- The type of a number, if a catalog knows it. -/
def itemType? (r : Rules) (id : ItemTypeId) : Option ItemType := r.items.bind (· id)

/-- The vocation of a number, if a table knows it. -/
def vocation? (r : Rules) (id : VocationId) : Option Vocation := r.vocations.bind (· id)

/-- The vocation of a character, if a table knows it. -/
def vocationOf? (r : Rules) (c : Character) : Option Vocation := r.vocation? c.vocation

/-- The zone a character stands in, the normal one if there is no world. -/
def zoneOf (r : Rules) (c : Character) : Zone :=
  r.world.elim .normal fun world => world.zone c.place

/-- An item with its type, if both are known. -/
def resolve? (r : Rules) (a : Arena) (id : ItemId) : Option (Item × ItemType) :=
  (a.get? id).bind fun item => (r.itemType? item.type).map fun type => (item, type)

end Rules

end Adventurer
