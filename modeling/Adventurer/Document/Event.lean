import Adventurer.Document.Request
import Adventurer.Host.Event

/-!
# Written events

How notices and the events of a simulation are written and read.
-/

namespace Adventurer

def Notice.toJson : Notice → Json
  | stats => .text "Stats"
  | skills => .text "Skills"
  | blessStatus => .text "BlessStatus"
  | unjustifiedPoints => .text "UnjustifiedPoints"
  | inventorySlot slot item =>
    .tagged "InventorySlot" (.fields
      [("slot", .ofWord slot), ("item", .ofOption ItemId.toJson item)])
  | text kind line =>
    .tagged "Text" (.fields [("class", .ofWord kind), ("text", .text line)])
  | advance track before after =>
    .tagged "Advance" (.fields
      [("track", track.toJson), ("from", .count before), ("to", .count after)])
  | cancel code => .tagged "Cancel" (.tagged "code" (.text code))
  | reLoginWindow reduction =>
    .tagged "ReLoginWindow" (.tagged "unfair_fight_reduction" (.count reduction))
  | movedToTemple place => .tagged "MovedToTemple" place.toJson
  | skullChanged skull => .tagged "SkullChanged" (.ofWord skull)

def DeathOutcome.toJson (d : DeathOutcome) : Json :=
  .fields [("corpse_dropped", .bool d.corpseDropped), ("loss_applied", .ofFloat d.lossApplied),
    ("unfair_fight_reduction", .count d.unfairFightReduction), ("pvp_death", .bool d.pvpDeath),
    ("levels_lost", .count d.levelsLost)]

def TickReport.toJson (r : TickReport) : Json :=
  .fields [("now", r.now.toJson), ("scheduled_ran", .count r.scheduledRan),
    ("overlay_changed", .bool r.overlayChanged)]

/-- Reads a notice. -/
def Notice.read? (v : Json) : Option Notice := do
  match ← Markup.variant? v with
  | ("Stats", none) => return .stats
  | ("Skills", none) => return .skills
  | ("BlessStatus", none) => return .blessStatus
  | ("UnjustifiedPoints", none) => return .unjustifiedPoints
  | ("InventorySlot", some held) =>
    return .inventorySlot (← held.arg? "slot" Worded.read?) (← held.argOption? "item" ItemId.read?)
  | ("Text", some held) =>
    return .text (← held.arg? "class" Worded.read?) (← held.arg? "text" Markup.text?)
  | ("Advance", some held) =>
    return .advance (← held.arg? "track" Track.read?)
      (← held.arg? "from" (Markup.count? .natural32)) (← held.arg? "to" (Markup.count? .natural32))
  | ("Cancel", some held) => return .cancel (← held.arg? "code" Markup.text?)
  | ("ReLoginWindow", some held) =>
    return .reLoginWindow (← held.arg? "unfair_fight_reduction" (Markup.count? .natural32))
  | ("MovedToTemple", some held) => return .movedToTemple (← Place.read? held)
  | ("SkullChanged", some held) => return .skullChanged (← Worded.read? held)
  | _ => none

def DeathOutcome.read? (v : Json) : Option DeathOutcome := do
  return {
    corpseDropped := ← v.arg? "corpse_dropped" Markup.bool?
    lossApplied := ← v.arg? "loss_applied" Markup.float?
    unfairFightReduction := ← v.arg? "unfair_fight_reduction" (Markup.count? .natural32)
    pvpDeath := ← v.arg? "pvp_death" Markup.bool?
    levelsLost := ← v.arg? "levels_lost" (Markup.count? .natural32) }

def TickReport.read? (v : Json) : Option TickReport := do
  return ⟨← v.arg? "now" Instant.read?, ← v.arg? "scheduled_ran" (Markup.count? .natural64),
    ← v.arg? "overlay_changed" Markup.bool?⟩

namespace Event

def toJson : Event → Json
  | .notice character told =>
    .tagged "Notification" (.fields
      [("character", character.toJson), ("notification", told.toJson)])
  | .ticked report => .tagged "Ticked" report.toJson
  | .died character outcome =>
    .tagged "Died" (.fields [("character", character.toJson), ("outcome", outcome.toJson)])

def read? (v : Json) : Option Event := do
  match ← Markup.variant? v with
  | ("Notification", some held) =>
    return .notice (← held.arg? "character" CreatureId.read?)
      (← held.arg? "notification" Notice.read?)
  | ("Ticked", some held) => return .ticked (← TickReport.read? held)
  | ("Died", some held) =>
    return .died (← held.arg? "character" CreatureId.read?)
      (← held.arg? "outcome" DeathOutcome.read?)
  | _ => none

end Event

/-- The word for a topic. -/
instance : Worded Topic where
  all := [.notices, .lifecycle]
  word
    | .notices => "Notification"
    | .lifecycle => "Lifecycle"

end Adventurer
