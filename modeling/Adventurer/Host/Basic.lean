import Adventurer.Content
import Adventurer.Host.Server
import Adventurer.Host.Store

/-!
# Hosts

A host is set up from content and a character, runs the server for it, drives its clock and keeps
its snapshots.
-/

namespace Adventurer

/-- The settings of a host. -/
structure HostConfig where
  game : GameConfig := {}
  /-- Number of events kept for a subscriber that falls behind. -/
  eventCapacity : Nat := 256
  /-- Number of messages that may wait. -/
  queueCapacity : Nat := 32
  /-- Milliseconds by which the running clock advances at a time. -/
  tickInterval : Nat := 1000

/-- A host on its way to being set up. -/
structure HostSetup where
  config : HostConfig := {}
  sources : Option Sources := none
  snapshot : Option Snapshot := none

/-- A server with the settings of its host. -/
structure Host where
  server : Server
  config : HostConfig

namespace HostSetup

/-- Uses loaded content: its catalogs, an empty world and its configuration. -/
def withContent (h : HostSetup) (content : Content) : HostSetup :=
  { h with
    sources := some { items := content.items, vocations := content.vocations }
    config := { h.config with game := content.config } }

def withSources (h : HostSetup) (sources : Sources) : HostSetup :=
  { h with sources := some sources }

/-- Begins with a character without items at the start of the clock. -/
def withCharacter (h : HostSetup) (c : Character) : HostSetup :=
  { h with snapshot := some ⟨c, .empty, .zero⟩ }

/-- Goes on with a snapshot. -/
def withSnapshot (h : HostSetup) (snapshot : Snapshot) : HostSetup :=
  { h with snapshot := some snapshot }

/-- Starts the host.  Missing content is found before a missing character. -/
def start (h : HostSetup) : Except HostFailure Host :=
  match h.sources, h.snapshot with
  | none, _ => .error .missingContent
  | some _, none => .error .missingCharacter
  | some sources, some snapshot =>
    .ok {
      server :=
        { simulation := .ofSnapshot snapshot sources h.config.game
          bus := .withCapacity h.config.eventCapacity
          room := h.config.queueCapacity }
      config := h.config }

end HostSetup

namespace Host

/-- Subscribes to a topic. -/
def subscribe (h : Host) (topic : Topic) : Host × SubscriptionId :=
  let (bus, id) := h.server.bus.subscribe topic
  ({ h with server := { h.server with bus } }, id)

/-- Receives everything a subscriber has not received yet. -/
def receive (h : Host) (id : SubscriptionId) : Host × List Event :=
  let (bus, events) := h.server.bus.receive id
  ({ h with server := { h.server with bus } }, events)

/-- Sends a request and waits for the answer. -/
def call (h : Host) (command : Command) : Host × Except HostFailure Reply :=
  let (server, reply) := h.server.call command
  ({ h with server }, reply)

/-- Number of steps of a clock that takes one at the start and one after every interval, before some
milliseconds have gone by. -/
def clockSteps (interval span : Nat) : Nat :=
  if interval = 0 then 0 else (span + interval - 1) / interval

/-- Advances the clock a number of steps, as long as the server takes requests. -/
def advanceSteps (h : Host) : Nat → Host
  | 0 => h
  | steps + 1 =>
    match h.call (.advance h.config.tickInterval) with
    | (after, .ok _) => after.advanceSteps steps
    | (after, .error _) => after

/-- Lets the clock run for some milliseconds. -/
def runClock (h : Host) (span : Nat) : Host :=
  h.advanceSteps (clockSteps h.config.tickInterval span)

/-- The snapshot of the running character. -/
def snapshot (h : Host) : Host × Except HostFailure Snapshot :=
  match h.call .snapshot with
  | (h, .ok (.snapshot snapshot)) => (h, .ok snapshot)
  | (h, .ok _) => (h, .error .replyChannelClosed)
  | (h, .error failure) => (h, .error failure)

/-- Keeps a snapshot of the running character. -/
def save (h : Host) (store : Store) : Host × Except HostFailure Store :=
  match h.snapshot with
  | (h, .ok snapshot) => (h, (store.save snapshot).mapError .store)
  | (h, .error failure) => (h, .error failure)

/-- Ends the service. -/
def shutdown (h : Host) : Host × Except HostFailure Unit :=
  let (server, result) := h.server.shutdown
  ({ h with server }, result)

end Host

end Adventurer
