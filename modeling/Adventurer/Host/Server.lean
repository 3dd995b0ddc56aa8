import Adventurer.Host.Failure
import Adventurer.Host.Simulation

/-!
# Servers

A server runs one simulation for any number of clients.  Their messages wait in one queue and are
taken out one by one; a shutdown ends the service, and requests behind it are neither carried out
nor answered.  The queue is closed a step after the shutdown is taken out, so that requests may still
get behind it.
-/

namespace Adventurer

/-- The number under which a client waits for an answer. -/
structure RequestId where
  number : Nat
  deriving DecidableEq, Repr, Inhabited

/-- What a client puts into the queue. -/
inductive Message where
  | request (id : RequestId) (command : Command)
  | shutdown
  deriving DecidableEq, Repr

/-- How far a service has come. -/
inductive Phase where
  | running
  /-- A shutdown has been taken out of the queue, which is still open. -/
  | stopping
  | closed
  deriving DecidableEq, Repr

/-- A simulation with its bus, its queue and the answers given so far. -/
structure Server where
  simulation : Simulation
  bus : Bus
  /-- Number of messages that may wait. -/
  room : Nat
  queue : List Message := []
  phase : Phase := .running
  answers : List (RequestId × Except HostFailure Reply) := []

/-- A message of a client, or the turn of the server. -/
inductive ServerMove where
  | send (message : Message)
  | work

namespace Server

/-- Whether the queue takes messages. -/
def isOpen (s : Server) : Bool := s.phase ≠ .closed

/-- Answers a request. -/
def answer (s : Server) (id : RequestId) (reply : Except HostFailure Reply) : Server :=
  { s with answers := s.answers ++ [(id, reply)] }

/-- The failure of a message that finds the queue closed. -/
def reject (s : Server) : Message → Server
  | .request id _ => s.answer id (.error .commandChannelClosed)
  | .shutdown => s

/-- The failure of a message that is dropped with the queue. -/
def abandon (s : Server) : Message → Server
  | .request id _ => s.answer id (.error .replyChannelClosed)
  | .shutdown => s

/-- Puts a message into the queue.  A full queue leaves the client waiting. -/
def send (s : Server) (message : Message) : Server :=
  if !s.isOpen then s.reject message
  else if s.queue.length < s.room then { s with queue := s.queue ++ [message] }
  else s

/-- Carries out a command; its answer follows what it publishes. -/
def serve (s : Server) (id : RequestId) (command : Command) : Server × List Event :=
  let (simulation, reply, events) := s.simulation.handle command
  ({ s with simulation, bus := s.bus.publishAll events }.answer id (.ok reply), events)

/-- Ends the service; whatever still waits is dropped. -/
def close (s : Server) : Server :=
  s.queue.foldl abandon { s with phase := .closed, queue := [] }

/-- Takes one message out of the queue, or closes it after a shutdown; tells what is published meanwhile. -/
def work (s : Server) : Server × List Event :=
  match s.phase, s.queue with
  | .running, .request id command :: rest => { s with queue := rest }.serve id command
  | .running, .shutdown :: rest => ({ s with queue := rest, phase := .stopping }, [])
  | .stopping, _ => (s.close, [])
  | _, _ => (s, [])

/-- One move of a client or of the server. -/
def move (s : Server) : ServerMove → Server × List Event
  | .send message => (s.send message, [])
  | .work => s.work

/-- Any sequence of moves, with all that is published on the way. -/
def run (s : Server) : List ServerMove → Server × List Event
  | [] => (s, [])
  | m :: rest =>
    let (t, events) := s.move m
    let (u, later) := t.run rest
    (u, events ++ later)

/-- Lets the server empty its queue, and close it if it has to. -/
def settle (s : Server) : Server := (s.run (.replicate (s.queue.length + 1) .work)).1

/-- The answer given last. -/
def lastAnswer? (s : Server) : Option (Except HostFailure Reply) := s.answers.getLast?.map (·.2)

/-- Sends a request to an idle server and waits for the answer. -/
def call (s : Server) (command : Command) : Server × Except HostFailure Reply :=
  let t := (s.send (.request ⟨s.answers.length⟩ command)).settle
  ({ t with answers := s.answers }, t.lastAnswer?.getD (.error .replyChannelClosed))

/-- Asks for the end of the service and waits for it. -/
def shutdown (s : Server) : Server × Except HostFailure Unit :=
  if s.isOpen then ((s.send .shutdown).settle, .ok ()) else (s, .error .commandChannelClosed)

end Server

end Adventurer
