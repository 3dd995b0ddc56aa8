import Adventurer.Catalog
import Adventurer.Engine
import Adventurer.Host.Event
import Adventurer.Host.Snapshot
import Adventurer.World.Grid

/-!
# Simulations

A simulation holds one character with its items, its schedule and the world around it, and carries
out one command after the other.  Whatever the rules tell while a command runs is published in
order.
-/

namespace Adventurer

/-- The catalogs and the world that a simulation consults. -/
structure Sources where
  items : ItemCatalog := {}
  vocations : VocationTable := .starting
  world : GridWorld := {}

/-- The rules of one tick under these sources. -/
def Sources.rules (s : Sources) (config : GameConfig) (now : Instant) : Rules where
  items := some s.items.find?
  vocations := some s.vocations.find?
  world := some s.world.view
  config := config
  now := now

/-- A request to a simulation. -/
inductive Command where
  /-- Advance the clock and run everything that has come due. -/
  | advance (elapsed : Nat)
  | createItem (item : Item)
  | equip (request : EquipRequest)
  | unequip (slot : Slot) (count : Nat)
  /-- Put an action off for some milliseconds. -/
  | schedule (delay : Nat) (action : ScheduledAction)
  | cancel (ticket : Ticket)
  | addExperience (amount : Nat) (source : Option CreatureId)
  | removeExperience (amount : Nat)
  | addSkillTries (skill : Skill) (count : Nat)
  | addManaSpent (amount : Nat)
  | enterFight (pzLock : Bool)
  /-- A hit, which is absorbed, applied and recorded for the attacker. -/
  | damage (attacker : Option CreatureId) (hit : Hit)
  | die (killer : Option CreatureView)
  | attackPlayer (target : CreatureId) (targetSkull : Skull) (targetStruckFirst : Bool)
  | unjustifiedKill (target : CreatureId) (name : String)
  | editWorld (edit : WorldEdit)
  | derivedStats
  | snapshot
  deriving DecidableEq, Repr

/-- The answer to a command. -/
inductive Reply where
  | report (report : TickReport)
  | item (id : ItemId)
  | equipped (result : Except Refusal EquipOutcome)
  | unequipped (result : Except Refusal ItemId)
  | ticket (ticket : Ticket)
  | wasPending (answer : Bool)
  | levels (number : Nat)
  | done
  | absorbed (absorbed : Absorbed)
  | died (outcome : DeathOutcome)
  | stats (stats : DerivedStats)
  | snapshot (snapshot : Snapshot)

/-- One character on its way through time. -/
structure Simulation where
  character : Character
  arena : Arena
  schedule : Schedule ScheduledAction := .empty
  sources : Sources
  config : GameConfig
  now : Instant

namespace Simulation

/-- The simulation that goes on with a snapshot. -/
def ofSnapshot (snapshot : Snapshot) (sources : Sources) (config : GameConfig) : Simulation where
  character := snapshot.character
  arena := snapshot.arena
  sources := sources
  config := config
  now := snapshot.savedAt

/-- The snapshot from which the simulation can go on. -/
def toSnapshot (s : Simulation) : Snapshot := ⟨s.character, s.arena, s.now⟩

/-- The engine for the clock as it stands. -/
def engine (s : Simulation) : Engine Unit Unit := .plain (s.sources.rules s.config s.now)

/-- What the engine acts on. -/
def situation (s : Simulation) : Situation Unit Unit := ⟨⟨s.character, s.arena⟩, (), ()⟩

/-- The simulation with what an engine has made of the character and its items. -/
def takeOver (s : Simulation) (after : Situation Unit Unit) : Simulation :=
  { s with character := after.character, arena := after.arena }

/-- Runs some rules and publishes what they tell. -/
def play {α : Type} (s : Simulation)
    (act : Engine Unit Unit → Situation Unit Unit → Told (Situation Unit Unit × α)) :
    Simulation × α × List Event :=
  let told := act s.engine s.situation
  let after := s.takeOver told.value.1
  (after, told.value.2, told.notices.map (.notice after.character.id))

/-- Runs some rules and answers with their result. -/
def answer {α : Type} (s : Simulation) (reply : α → Reply)
    (act : Engine Unit Unit → Situation Unit Unit → Told (Situation Unit Unit × α)) :
    Simulation × Reply × List Event :=
  let (s, result, events) := s.play act
  (s, reply result, events)

/-- Runs some rules that have no result. -/
def perform (s : Simulation)
    (act : Engine Unit Unit → Situation Unit Unit → Told (Situation Unit Unit)) :
    Simulation × Reply × List Event :=
  s.answer (fun () => .done) fun e situation => (fun after => (after, ())) <$> act e situation

/-- Runs what is due and ticks, in one engine at the new time. -/
def advance (s : Simulation) (elapsed : Nat) : Simulation × Reply × List Event :=
  let s := { s with now := s.now.later elapsed }
  let (s, (schedule, ran, changed), events) := s.play fun e situation => do
    let (situation, schedule, ran) ← e.runDue situation s.schedule
    let (situation, changed) ← e.tick situation elapsed
    pure (situation, schedule, ran, changed)
  let report : TickReport := ⟨s.now, ran, changed⟩
  ({ s with schedule }, .report report, events ++ [.ticked report])

/-- Absorbs a hit and applies what is left of it, or counts it as blocked. -/
def strike (hit : Hit) (e : Engine Unit Unit) (situation : Situation Unit Unit) :
    Told (Situation Unit Unit × Absorbed) := do
  let (situation, absorbed) ← e.absorb situation hit
  if absorbed.blocked then
    let situation ← e.onBlockHit situation
    pure (situation, absorbed)
  else
    let (situation, _) ← e.applyDamage situation (min max32 absorbed.damage.toNat)
    pure (situation, absorbed)

/-- Records what an attacker has dealt. -/
def record (s : Simulation) (attacker : Option CreatureId) (damage : Int) : Simulation :=
  match attacker with
  | some attacker =>
    if 0 < damage then
      { s with
        character :=
          { s.character with
            combat := s.character.combat.recordDamage attacker damage.toNat s.now } }
    else s
  | none => s

/-- Carries out a command; answers it and says what is published meanwhile. -/
def handle (s : Simulation) : Command → Simulation × Reply × List Event
  | .advance elapsed => s.advance elapsed
  | .createItem item =>
    let (arena, id) := s.arena.insert item
    ({ s with arena }, .item id, [])
  | .equip request => s.answer .equipped fun e situation => e.equip situation request
  | .unequip slot count => s.answer .unequipped fun e situation => e.unequip situation slot count
  | .schedule delay action =>
    let (schedule, ticket) := s.schedule.add (s.now.later delay) action
    ({ s with schedule }, .ticket ticket, [])
  | .cancel ticket =>
    let (schedule, action) := s.schedule.cancel ticket
    ({ s with schedule }, .wasPending action.isSome, [])
  | .addExperience amount source =>
    s.answer .levels fun e situation => e.addExperience situation amount source true
  | .removeExperience amount =>
    s.answer .levels fun e situation => e.removeExperience situation amount true
  | .addSkillTries skill count =>
    s.answer .levels fun e situation => e.addSkillTries situation skill count
  | .addManaSpent amount => s.answer .levels fun e situation => e.addManaSpent situation amount
  | .enterFight pzLock => s.perform fun e situation => e.enterFight situation pzLock
  | .damage attacker hit =>
    let (s, absorbed, events) := s.play (strike hit)
    (s.record attacker absorbed.damage, .absorbed absorbed, events)
  | .die killer =>
    let (s, outcome, events) := s.play fun e situation => e.die situation killer
    (s, .died outcome, events ++ [.died s.character.id outcome])
  | .attackPlayer target skull struckFirst =>
    s.perform fun e situation => e.onAttackPlayer situation target skull struckFirst
  | .unjustifiedKill target name =>
    s.perform fun e situation => e.addUnjustifiedKill situation target name
  | .editWorld edit =>
    ({ s with sources := { s.sources with world := s.sources.world.apply edit } }, .done, [])
  | .derivedStats => (s, .stats (s.engine.derivedStats s.situation), [])
  | .snapshot => (s, .snapshot s.toSnapshot, [])

end Simulation

end Adventurer
