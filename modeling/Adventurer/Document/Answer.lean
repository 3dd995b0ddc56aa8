import Adventurer.Content
import Adventurer.Death.Assessment
import Adventurer.Document.Request

/-!
# Written answers

How clients are told what a request has led to.
-/

namespace Adventurer

def CreatureView.toJson (c : CreatureView) : Json :=
  let master (m : Summoner) : Json := .fields [("id", m.id.toJson), ("is_player", .bool m.isPlayer)]
  .fields [("id", c.id.toJson), ("kind", .ofWord c.kind), ("master", .ofOption master c.master),
    ("race_id", .ofOption .count c.race)]

def SlotTarget.toJson : SlotTarget → Json
  | .wherever => .text "Wherever"
  | .named slot => .tagged "Named" (.ofWord slot)

def ScheduledAction.toJson : ScheduledAction → Json
  | .forceRefresh => .text "refresh"
  | .equip r =>
    .tagged "equip" (.fields
      [("item", r.item.toJson), ("target", r.target.toJson), ("count", .count r.count)])
  | .unequip slot count =>
    .tagged "unequip" (.fields [("slot", .ofWord slot), ("count", .count count)])

def Destination.toJson : Destination → Json
  | .slot place => .tagged "slot" (.ofWord place)
  | .container id => .tagged "container" id.toJson

def EquipOutcome.toJson (o : EquipOutcome) : Json :=
  .fields [("placed", o.placed.toJson), ("destination", o.destination.toJson),
    ("displaced", .ofOption ItemId.toJson o.displaced)]

/-- Writes a placement with the slot it takes, if it takes one. -/
def Placement.toJson (p : Placement) : Json :=
  let fields : List (String × Json) := match p with
    | .accepted slot => [("accepted", .ofWord slot)]
    | .exchange slot displaced => [("exchange", .ofWord slot), ("displaced", displaced.toJson)]
    | .stored box => [("stored", box.toJson)]
  .fields (fields ++ [("slot", .ofOption .ofWord p.slot?)])

def Gear.toJson (g : Gear) : Json :=
  .fields [("id", g.id.toJson), ("slot", .ofWord g.slot), ("type", g.type.id.toJson)]

def Absorbed.toJson (a : Absorbed) : Json :=
  .fields [("damage", .int a.damage), ("blocked", .bool a.blocked),
    ("exhausted", .ofList .ofWord a.exhausted)]

def FightAssessment.toJson (f : FightAssessment) : Json :=
  .fields [("pvp_death", .bool f.pvpDeath),
    ("unfair_fight_reduction", .count f.unfairFightReduction)]

/-- Writes a catalog with its length and whether it is empty. -/
def ItemCatalog.toJson (c : ItemCatalog) : Json :=
  .fields [("len", .count c.size), ("empty", .bool c.isEmpty),
    ("items", .ofList ItemType.toJson c.toList)]

@[inherit_doc ItemCatalog.toJson]
def VocationTable.toJson (t : VocationTable) : Json :=
  .fields [("len", .count t.size), ("empty", .bool t.isEmpty),
    ("vocations", .ofList Vocation.toJson t.toList)]

def Content.toJson (c : Content) : Json :=
  .fields [("config", c.config.toJson), ("items", c.items.toJson),
    ("vocations", c.vocations.toJson)]

end Adventurer
