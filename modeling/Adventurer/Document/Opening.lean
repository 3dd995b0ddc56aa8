import Adventurer.Catalog
import Adventurer.Document.Request
import Adventurer.Host.Snapshot
import Adventurer.Markup.Json.Patch

/-!
# Written openings

How clients write what a game begins with: the configuration and the catalogs, the character with
its items, the clock and the world.  A character is written as a patch of a fresh one, and the world
as the edits that lead to it.
-/

namespace Adventurer

open Markup

/-- What a game begins with.  There may be no character yet, and the clock may be left open. -/
structure Opening where
  config : GameConfig
  items : ItemCatalog
  vocations : VocationTable
  wearer : Option Wearer
  now : Option Instant
  world : GridWorld

namespace Opening

/-- The character that a patch changes. -/
def tester : Character := { id := ⟨1⟩, name := "Tester" }

/-- Reads the slots that are filled, one field each. -/
def worn? (v : Json) : Option (List (Slot × ItemId)) :=
  match v with
  | .fields entries => entries.mapM fun e => do
    return ((← Worded.ofWord? e.1 : Slot), ← ItemId.named? e.2)
  | _ => none

/-- The character with slots filled, whatever the rules say about it. -/
def dress (c : Character) (worn : List (Slot × ItemId)) : Character :=
  { c with equipment := worn.foldl (fun e w => e.wear w.1 w.2) c.equipment }

def read? (v : Json) : Option Opening := do
  let items ← v.argOr? "arena" [] (listOf? Item.requested?)
  let arena := items.foldl (fun a item => (a.insert item).1) Arena.empty
  let worn ← v.argOr? "worn" [] worn?
  let c ← v.argOption? "character" fun change => Character.read? (tester.toJson.patch change)
  return {
    config := ← v.argOr? "config" {} GameConfig.read?
    items := .ofList (← v.argOr? "types" [] (listOf? ItemType.read?))
    vocations := .ofList (← v.argOr? "vocations" [] (listOf? Vocation.read?))
    wearer := c.map fun c => ⟨dress c worn, arena⟩
    now := ← v.argOption? "now" Instant.read?
    world := GridWorld.empty.applyAll (← v.argOr? "world" [] (listOf? WorldEdit.read?)) }

end Opening

end Adventurer
