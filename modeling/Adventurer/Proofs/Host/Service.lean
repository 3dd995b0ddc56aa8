import Adventurer.Host.Server
import Adventurer.Proofs.Host.Commands

/-!
# Services

Whatever clients put into the queue of a server is taken out in order until a shutdown comes up.  So at any time
a list of requests is done, with which the queue began (`Account`), and all that the server has become, published
and answered is what these commands make of its simulation one after the other.  Requests behind the shutdown
fail when the queue is closed, and later ones at once.
-/

namespace Adventurer

namespace Message

/-- The client that waits for an answer. -/
def id? : Message → Option RequestId
  | .request id _ => some id
  | .shutdown => none

def ids (messages : List Message) : List RequestId := messages.filterMap id?

/-- The requests before the first shutdown. -/
def due : List Message → List (RequestId × Command)
  | .request id command :: rest => (id, command) :: due rest
  | _ => []

/-- The messages of some requests. -/
def requests (done : List (RequestId × Command)) : List Message := done.map fun d => .request d.1 d.2

variable {done : List (RequestId × Command)} {rest : List Message}

theorem ids_append (messages more : List Message) : ids (messages ++ more) = ids messages ++ ids more :=
  List.filterMap_append

end Message

/-- The same failure for some clients. -/
def failed (failure : HostFailure) (ids : List RequestId) : List (RequestId × Except HostFailure Reply) :=
  ids.map fun id => (id, .error failure)

theorem failed_append (failure : HostFailure) (ids more : List RequestId) :
    failed failure (ids ++ more) = failed failure ids ++ failed failure more := List.map_append

namespace Simulation

/-- The answers to some requests. -/
def replies (s : Simulation) : List (RequestId × Command) → List (RequestId × Except HostFailure Reply)
  | [] => []
  | (id, command) :: rest => (id, .ok (s.handle command).2.1) :: (s.handle command).1.replies rest

/-- All that is published while some commands are carried out. -/
def published (s : Simulation) (commands : List Command) : List Event := (s.transcript commands).flatMap (·.2)

variable {s : Simulation} {done : List (RequestId × Command)}

theorem published_concat (s : Simulation) (commands : List Command) (c : Command) :
    s.published (commands ++ [c]) = s.published commands ++ ((s.after commands).handle c).2.2 := by
  unfold published
  rw [transcript_concat, List.flatMap_append, List.flatMap_singleton]

theorem replies_concat (s : Simulation) (done : List (RequestId × Command)) (id : RequestId) (c : Command) :
    s.replies (done ++ [(id, c)]) =
      s.replies done ++ [(id, .ok ((s.after (done.map (·.2))).handle c).2.1)] := by
  induction done generalizing s with
  | nil => rfl
  | cons d done ih => exact congrArg _ (ih (s.handle d.2).1)

end Simulation

namespace Server

/-! ## What becomes of messages -/

/-- The messages that a move puts into the queue. -/
def takes (s : Server) : ServerMove → List Message
  | .send message => if s.isOpen && s.queue.length < s.room then [message] else []
  | .work => []

/-- The messages that find the queue closed in a move. -/
def refuses (s : Server) : ServerMove → List Message
  | .send message => if s.isOpen then [] else [message]
  | .work => []

/-- What some moves put into the queue, in order. -/
def taken (s : Server) : List ServerMove → List Message
  | [] => []
  | m :: rest => s.takes m ++ (s.move m).1.taken rest

/-- What finds the queue closed in some moves. -/
def refused (s : Server) : List ServerMove → List Message
  | [] => []
  | m :: rest => s.refuses m ++ (s.move m).1.refused rest

/-- The account of a service that has come from `s` to `t`: some requests are done, and some messages are left in
the queue, or were dropped with it. -/
structure Account (s t : Server) (taken refused : List Message) (events : List Event)
    (done : List (RequestId × Command)) (left : List Message) : Prop where
  taken_eq : taken = Message.requests done ++ (if t.phase = .running then left else .shutdown :: left)
  queue : t.queue = if t.phase = .closed then [] else left
  refused_eq : t.phase ≠ .closed → refused = []
  simulation : t.simulation = s.simulation.after (done.map (·.2))
  events_eq : events = s.simulation.published (done.map (·.2))
  bus : t.bus = s.bus.publishAll events
  answers : t.answers = s.simulation.replies done ++
    (if t.phase = .closed then failed .replyChannelClosed (Message.ids left) else []) ++
    failed .commandChannelClosed (Message.ids refused)

variable {s t : Server} {taken refused left : List Message} {events : List Event}
  {done : List (RequestId × Command)}

theorem reject_eq (t : Server) (message : Message) : t.reject message =
    { t with answers := t.answers ++ failed .commandChannelClosed (Message.ids [message]) } := by
  cases message with
  | request id command => rfl
  | shutdown => exact congrArg (fun a => { t with answers := a }) (List.append_nil _).symm

theorem abandon_eq (t : Server) (message : Message) : t.abandon message =
    { t with answers := t.answers ++ failed .replyChannelClosed (Message.ids [message]) } := by
  cases message with
  | request id command => rfl
  | shutdown => exact congrArg (fun a => { t with answers := a }) (List.append_nil _).symm

theorem foldl_abandon (t : Server) (messages : List Message) : messages.foldl abandon t =
    { t with answers := t.answers ++ failed .replyChannelClosed (Message.ids messages) } := by
  induction messages generalizing t with
  | nil => exact congrArg (fun a => { t with answers := a }) (List.append_nil _).symm
  | cons message messages ih =>
    have hids : Message.ids (message :: messages) = Message.ids [message] ++ Message.ids messages :=
      Message.ids_append [message] messages
    rw [List.foldl_cons, ih, abandon_eq, hids, failed_append, ← List.append_assoc]

/-- A message that comes in waits behind all others if there is room, and fails if the queue is closed. -/
theorem Account.send (h : Account s t taken refused events done left) (message : Message) :
    ∃ left', Account s (t.send message) (taken ++ t.takes (.send message))
      (refused ++ t.refuses (.send message)) events done left' := by
  unfold Server.send takes refuses
  by_cases hclosed : t.phase = .closed
  · -- the message finds the queue closed
    have hopen : t.isOpen = false := by simp [isOpen, hclosed]
    simp only [hopen, Bool.not_false, if_true, Bool.false_and, Bool.false_eq_true, if_false, List.append_nil]
    rw [reject_eq]
    refine ⟨left, h.taken_eq, h.queue, fun hne => absurd hclosed hne, h.simulation, h.events_eq, h.bus, ?_⟩
    rw [h.answers, Message.ids_append, failed_append, List.append_assoc]
  · have hopen : t.isOpen = true := by simp [isOpen, hclosed]
    simp only [hopen, Bool.not_true, Bool.true_and, Bool.false_eq_true, if_false, if_true, decide_eq_true_eq,
      List.append_nil]
    by_cases hroom : t.queue.length < t.room
    · rw [if_pos hroom, if_pos hroom]
      refine ⟨left ++ [message], ?_, ?_, h.refused_eq, h.simulation, h.events_eq, h.bus, ?_⟩
      · show taken ++ [message] = Message.requests done ++ if t.phase = .running then _ else _
        rw [h.taken_eq, List.append_assoc]
        split_ifs <;> rfl
      · show t.queue ++ [message] = if t.phase = .closed then _ else _
        rw [h.queue, if_neg hclosed, if_neg hclosed]
      · show t.answers = _ ++ (if t.phase = .closed then _ else _) ++ _
        rw [h.answers, if_neg hclosed, if_neg hclosed]
    · -- the client keeps its message, and may send it again
      rw [if_neg hroom, if_neg hroom, List.append_nil]
      exact ⟨left, h⟩

/-- The request that has waited longest is carried out. -/
theorem Account.serve {id : RequestId} {command : Command} {rest : List Message}
    (h : Account s t taken refused events done (.request id command :: rest)) (hphase : t.phase = .running) :
    Account s ({ t with queue := rest }.serve id command).1 taken refused
      (events ++ ({ t with queue := rest }.serve id command).2) (done ++ [(id, command)]) rest := by
  have hne : t.phase ≠ .closed := by rw [hphase]; decide
  have hpublished : ({ t with queue := rest }.serve id command).2 = (t.simulation.handle command).2.2 := rfl
  rw [hpublished]
  constructor
  case taken_eq =>
    show taken = _ ++ if t.phase = .running then _ else _
    rw [h.taken_eq, if_pos hphase, if_pos hphase, Message.requests, Message.requests, List.map_append,
      List.append_assoc]
    rfl
  case queue =>
    show rest = if t.phase = .closed then _ else _
    rw [if_neg hne]
  case refused_eq => exact fun _ => h.refused_eq hne
  case simulation =>
    show (t.simulation.handle command).1 = _
    rw [List.map_append, List.map_singleton, Simulation.after_concat, h.simulation]
  case events_eq =>
    rw [List.map_append, List.map_singleton, Simulation.published_concat, h.events_eq, h.simulation]
  case bus =>
    show t.bus.publishAll (t.simulation.handle command).2.2 = _
    rw [h.bus]
    exact List.foldl_append.symm
  case answers =>
    show t.answers ++ [(id, .ok (t.simulation.handle command).2.1)] = _ ++ (if t.phase = .closed then _ else _) ++ _
    rw [h.answers, h.refused_eq hne, if_neg hne, if_neg hne, Simulation.replies_concat, h.simulation]
    simp [failed, Message.ids]

/-- A shutdown is taken out of the queue. -/
theorem Account.stop {rest : List Message} (h : Account s t taken refused events done (.shutdown :: rest))
    (hphase : t.phase = .running) :
    Account s { t with queue := rest, phase := .stopping } taken refused events done rest := by
  have hne : t.phase ≠ .closed := by rw [hphase]; decide
  refine ⟨?_, rfl, fun _ => h.refused_eq hne, h.simulation, h.events_eq, h.bus, ?_⟩
  · rw [h.taken_eq, if_pos hphase]
    rfl
  · have hanswers := h.answers
    rw [if_neg hne] at hanswers
    exact hanswers

/-- The queue is closed, and what waits in it fails. -/
theorem Account.close (h : Account s t taken refused events done left) (hphase : t.phase = .stopping) :
    Account s t.close taken refused events done left := by
  have hne : t.phase ≠ .closed := by rw [hphase]; decide
  have hrefused := h.refused_eq hne
  have hqueue : t.queue = left := by rw [h.queue, if_neg hne]
  rw [Server.close, foldl_abandon]
  refine ⟨?_, rfl, fun hopen => absurd rfl hopen, h.simulation, h.events_eq, h.bus, ?_⟩
  · rw [h.taken_eq, hphase]
    rfl
  · show t.answers ++ failed .replyChannelClosed (Message.ids t.queue) = _
    rw [h.answers, if_neg hne, hqueue, hrefused]
    simp [failed, Message.ids]

/-- The turn of the server keeps an account of all messages. -/
theorem Account.work (h : Account s t taken refused events done left) :
    ∃ done' left', Account s t.work.1 taken refused (events ++ t.work.2) done' left' := by
  have hstays : Account s t taken refused (events ++ []) done left := by rwa [List.append_nil]
  unfold Server.work
  cases hphase : t.phase with
  | closed => exact ⟨done, left, hstays⟩
  | stopping => exact ⟨done, left, hstays.close hphase⟩
  | running =>
    have hqueue : t.queue = left := by rw [h.queue, hphase, if_neg (by decide)]
    rw [hqueue]
    cases left with
    | nil => exact ⟨done, [], hstays⟩
    | cons message rest =>
      cases message with
      | shutdown => exact ⟨done, rest, hstays.stop hphase⟩
      | request id command =>
        have hserved := h.serve hphase
        rw [hphase] at hserved
        exact ⟨done ++ [(id, command)], rest, hserved⟩

/-- **One move.**  Whoever moves, there is an account of all messages afterwards. -/
theorem Account.move (h : Account s t taken refused events done left) (m : ServerMove) :
    ∃ done' left', Account s (t.move m).1 (taken ++ t.takes m) (refused ++ t.refuses m) (events ++ (t.move m).2)
      done' left' := by
  cases m with
  | send message =>
    obtain ⟨left', haccount⟩ := h.send message
    have hsilent : (t.move (.send message)).2 = [] := rfl
    rw [hsilent, List.append_nil]
    exact ⟨done, left', haccount⟩
  | work =>
    obtain ⟨done', left', haccount⟩ := h.work
    have htakes : t.takes .work = [] := rfl
    have hrefuses : t.refuses .work = [] := rfl
    rw [htakes, hrefuses, List.append_nil, List.append_nil]
    exact ⟨done', left', haccount⟩

/-- Four clients around a shutdown.  The second one has to wait for room and gets behind the shutdown, the third
one sends while the server stops, and the fourth one finds the queue closed. -/
def closing : List ServerMove :=
  [.send (.request ⟨1⟩ (.enterFight false)), .send .shutdown, .send (.request ⟨2⟩ (.advance 1000)), .work,
    .send (.request ⟨2⟩ (.advance 1000)), .work, .send (.request ⟨3⟩ (.addManaSpent 5)), .work,
    .send (.request ⟨4⟩ .snapshot)]

end Server

end Adventurer
