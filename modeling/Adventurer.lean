import Adventurer.Catalog
import Adventurer.Character.Basic
import Adventurer.Character.Blessing
import Adventurer.Character.Bonus
import Adventurer.Character.Condition
import Adventurer.Character.Passive
import Adventurer.Character.Reputation
import Adventurer.Character.Skill
import Adventurer.Clock
import Adventurer.Collection.Heap
import Adventurer.Collection.SortedMap
import Adventurer.Collection.Table
import Adventurer.Config
import Adventurer.Content
import Adventurer.Creature
import Adventurer.Death.Assessment
import Adventurer.Death.Loss
import Adventurer.Death.Resolve
import Adventurer.Document.Answer
import Adventurer.Document.Blueprint
import Adventurer.Document.Character
import Adventurer.Document.Command
import Adventurer.Document.Content
import Adventurer.Document.Event
import Adventurer.Document.Failure
import Adventurer.Document.Opening
import Adventurer.Document.Request
import Adventurer.Document.Sheet
import Adventurer.Dressing.Capacity
import Adventurer.Dressing.Fit
import Adventurer.Dressing.Hook
import Adventurer.Dressing.Placement
import Adventurer.Dressing.Refusal
import Adventurer.Dressing.Transaction
import Adventurer.Dressing.Wearer
import Adventurer.Engine
import Adventurer.Host.Basic
import Adventurer.Host.Event
import Adventurer.Host.Failure
import Adventurer.Host.Server
import Adventurer.Host.Simulation
import Adventurer.Host.Snapshot
import Adventurer.Host.Store
import Adventurer.Item.Arena
import Adventurer.Item.Equipment
import Adventurer.Item.Kind
import Adventurer.Item.Slot
import Adventurer.Item.Weight
import Adventurer.Markup.Basic
import Adventurer.Markup.BitNames
import Adventurer.Markup.Identifier
import Adventurer.Markup.Identifier.Ranges
import Adventurer.Markup.Json.Basic
import Adventurer.Markup.Json.Numeral
import Adventurer.Markup.Json.Parser
import Adventurer.Markup.Json.Patch
import Adventurer.Markup.Json.Printer
import Adventurer.Markup.Json.Written
import Adventurer.Markup.Reader
import Adventurer.Markup.Ron.Basic
import Adventurer.Markup.Ron.Number
import Adventurer.Markup.Ron.Parser
import Adventurer.Markup.Toml.Basic
import Adventurer.Markup.Toml.Parser
import Adventurer.Markup.Toml.Scalar
import Adventurer.Markup.Words
import Adventurer.Meter
import Adventurer.Notice
import Adventurer.Number.Binary64
import Adventurer.Number.Decimal
import Adventurer.Number.Width
import Adventurer.Passives.Evaluation
import Adventurer.Passives.GiftOfLife
import Adventurer.Passives.Stage
import Adventurer.Passives.Targeted
import Adventurer.Passives.Tick
import Adventurer.Place
import Adventurer.Progress.Curve
import Adventurer.Progress.Gain
import Adventurer.Progress.Level
import Adventurer.Progress.Rates
import Adventurer.Progress.Training
import Adventurer.Progress.Walk
import Adventurer.Proofs.Arena.Acyclic
import Adventurer.Proofs.Arena.Containment
import Adventurer.Proofs.Arena.Load
import Adventurer.Proofs.Arena.Lookup
import Adventurer.Proofs.Arena.Register
import Adventurer.Proofs.Arena.Removal
import Adventurer.Proofs.Arena.Tally
import Adventurer.Proofs.Arena.Weight
import Adventurer.Proofs.Character.Conditions
import Adventurer.Proofs.Client.Resync
import Adventurer.Proofs.Client.Screen
import Adventurer.Proofs.Client.Slots
import Adventurer.Proofs.Collection.Heap
import Adventurer.Proofs.Collection.SortedMap
import Adventurer.Proofs.Death.RecentDamage
import Adventurer.Proofs.Death.Share
import Adventurer.Proofs.Dressing.Burden
import Adventurer.Proofs.Dressing.Capacity
import Adventurer.Proofs.Dressing.Carried
import Adventurer.Proofs.Dressing.Charges
import Adventurer.Proofs.Dressing.ClassicHands
import Adventurer.Proofs.Dressing.Conservation
import Adventurer.Proofs.Dressing.Frame
import Adventurer.Proofs.Dressing.Hands
import Adventurer.Proofs.Dressing.ModernHands
import Adventurer.Proofs.Dressing.Moves
import Adventurer.Proofs.Dressing.Nesting
import Adventurer.Proofs.Dressing.Ownership
import Adventurer.Proofs.Dressing.Plans
import Adventurer.Proofs.Dressing.Preference
import Adventurer.Proofs.Dressing.Refused
import Adventurer.Proofs.Dressing.Room
import Adventurer.Proofs.Dressing.Steps
import Adventurer.Proofs.Engine.Absorption
import Adventurer.Proofs.Engine.Charges
import Adventurer.Proofs.Engine.Frame
import Adventurer.Proofs.Engine.GiftOfLife
import Adventurer.Proofs.Engine.Hands
import Adventurer.Proofs.Engine.LiveSituation
import Adventurer.Proofs.Engine.Nesting
import Adventurer.Proofs.Engine.Operations
import Adventurer.Proofs.Engine.Overlay
import Adventurer.Proofs.Engine.Ownership
import Adventurer.Proofs.Engine.Parts
import Adventurer.Proofs.Engine.Sentences
import Adventurer.Proofs.Engine.ZoneLock
import Adventurer.Proofs.Equipment
import Adventurer.Proofs.Host.Commands
import Adventurer.Proofs.Host.Resumption
import Adventurer.Proofs.Host.Service
import Adventurer.Proofs.Host.Weight
import Adventurer.Proofs.Passives.Changes
import Adventurer.Proofs.Passives.Overlay
import Adventurer.Proofs.Passives.Reference
import Adventurer.Proofs.Passives.Repetition
import Adventurer.Proofs.Progress.Booking
import Adventurer.Proofs.Progress.Curve
import Adventurer.Proofs.Progress.Deeds
import Adventurer.Proofs.Progress.Frame
import Adventurer.Proofs.Progress.LevelCoherence
import Adventurer.Proofs.Progress.LevelWidths
import Adventurer.Proofs.Progress.Pieces
import Adventurer.Proofs.Progress.Regained
import Adventurer.Proofs.Progress.Reserves
import Adventurer.Proofs.Progress.Sheets
import Adventurer.Proofs.Progress.Tracks
import Adventurer.Proofs.Progress.TrainingCoherence
import Adventurer.Proofs.Progress.Walk
import Adventurer.Proofs.Progress.Widths
import Adventurer.Proofs.Runs
import Adventurer.Proofs.Schedule.Agenda
import Adventurer.Proofs.Schedule.Refinement
import Adventurer.Proofs.Schedule.Renumbering
import Adventurer.Proofs.Standing.Frame
import Adventurer.Proofs.Standing.Sentence
import Adventurer.Proofs.World.Presence
import Adventurer.Rules
import Adventurer.Schedule
import Adventurer.Severity
import Adventurer.Standing
import Adventurer.Stats.Absorb
import Adventurer.Stats.Derived
import Adventurer.Stats.Hands
import Adventurer.Vocation
import Adventurer.World.Grid
import Adventurer.World.View
