import Adventurer.Document.Answer
import Adventurer.Document.Event
import Adventurer.Document.Failure
import Adventurer.Host.Simulation

/-!
# Written commands

How clients write commands to a simulation and how the replies are written.  A command is named by
its field `do`; its other fields say the rest.
-/

namespace Adventurer

open Markup IntWidth

namespace Command

/-- Reads a command of a name. -/
def named? (v : Json) (name : String) : Option Command := do
  match name with
  | "advance" => return .advance (← v.arg? "ms" (count? natural64))
  | "create" => return .createItem (← Item.requested? v)
  | "equip" => return .equip (← EquipRequest.read? v)
  | "unequip" =>
    return .unequip (← v.arg? "slot" Worded.read?) (← v.argOr? "count" 1 (count? natural32))
  | "schedule" =>
    return .schedule (← v.arg? "delay" (count? natural64)) (← v.arg? "action" ScheduledAction.read?)
  | "cancel" => return .cancel ⟨← v.arg? "handle" (count? natural64)⟩
  | "add_experience" =>
    return .addExperience (← v.arg? "amount" (count? natural64))
      (← v.argOption? "source" CreatureId.read?)
  | "remove_experience" => return .removeExperience (← v.arg? "amount" (count? natural64))
  | "add_skill" =>
    return .addSkillTries (← v.arg? "skill" Worded.read?) (← v.arg? "count" (count? natural64))
  | "add_mana" => return .addManaSpent (← v.arg? "amount" (count? natural64))
  | "enter_fight" => return .enterFight (← v.argOr? "pz_lock" false bool?)
  | "damage" =>
    return .damage (← v.argOption? "attacker" CreatureId.read?) (← Hit.read? v)
  | "die" => return .die (← v.argOption? "killer" CreatureView.read?)
  | "attack_player" =>
    return .attackPlayer (← v.arg? "target" CreatureId.read?)
      (← v.argOr? "skull" .none Worded.read?) (← v.argOr? "attacked_us" false bool?)
  | "unjustified_kill" =>
    return .unjustifiedKill (← v.arg? "target" CreatureId.read?) (← v.arg? "name" text?)
  | "derived" => return .derivedStats
  | "snapshot" => return .snapshot
  | _ => none

/-- Reads the commands that a request stands for: one, or one for each edit of the world. -/
def requested? (v : Json) : Option (List Command) := do
  match ← v.arg? "do" text? with
  | "world" => return (← v.arg? "edits" (listOf? WorldEdit.read?)).map .editWorld
  | name => return [← named? v name]

end Command

namespace Reply

def toJson : Reply → Json
  | report r => .tagged "ok" r.toJson
  | item id => .tagged "ok" id.toJson
  | equipped result => .ofResult EquipOutcome.toJson result
  | unequipped result => .ofResult ItemId.toJson result
  | ticket t => .tagged "ok" (.count t.number)
  | wasPending answer => .tagged "ok" (.bool answer)
  | levels number => .tagged "ok" (.count number)
  | done => .tagged "ok" .null
  | absorbed a => .tagged "ok" a.toJson
  | died outcome => .tagged "ok" outcome.toJson
  | stats s => .tagged "ok" s.toJson
  | snapshot s => .tagged "ok" s.toJson

end Reply

end Adventurer
