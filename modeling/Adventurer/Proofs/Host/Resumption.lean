import Adventurer.Proofs.Host.Commands
import Adventurer.Proofs.Schedule.Renumbering

/-!
# Resumption

A snapshot leaves the schedule out.  So a simulation that is resumed from one counts its tickets from zero, while
the one that goes on has given out some, and may have places of cancelled actions in its queue.  As long as
nothing is pending this makes no difference: the two are `Alike`, with schedules that follow one agenda but for
raised tickets, and every command keeps them so and has the same answer on both sides (`Alike.handle`).
-/

namespace Adventurer

namespace Command

/-- The command with its ticket renumbered. -/
def renumber (ρ : Ticket → Ticket) : Command → Command
  | .cancel ticket => .cancel (ρ ticket)
  | c => c

theorem renumber_eq_self {c : Command} (h : ∀ ticket, c ≠ .cancel ticket) (ρ : Ticket → Ticket) :
    c.renumber ρ = c := by
  cases c with
  | cancel ticket => exact absurd rfl (h ticket)
  | _ => rfl

/-- The command puts an action off. -/
def schedules : Command → Bool
  | .schedule _ _ => true
  | _ => false

/-- The command does something to the schedule. -/
def mindsSchedule : Command → Bool
  | .advance _ | .schedule _ _ | .cancel _ => true
  | _ => false

end Command

/-- The answer with its ticket renumbered. -/
def Reply.renumber (ρ : Ticket → Ticket) : Reply → Reply
  | .ticket given => .ticket (ρ given)
  | r => r

namespace Simulation

open Schedule (Follows)

variable {s t : Simulation} {g : Agenda ScheduledAction} {k : Nat}

/-! ## What the schedule has to do with a command -/

/-- What a simulation does as time goes on, given the actions that have come due. -/
def pass (s : Simulation) (elapsed : Nat) (actions : List ScheduledAction) : Simulation × Reply × List Event :=
  let s := { s with now := s.now.later elapsed }
  let (s, changed, events) := s.play fun e situation => do
    let situation ← e.carryOutAll situation actions
    e.tick situation elapsed
  let report : TickReport := ⟨s.now, actions.length, changed⟩
  (s, .report report, events ++ [.ticked report])

/-- An advance drains the schedule and passes on with what was due. -/
theorem advance_eq_pass (s : Simulation) (elapsed : Nat) :
    s.advance elapsed =
      let drained := s.schedule.drainDue (s.now.later elapsed)
      let passed := s.pass elapsed (drained.2.map (·.2))
      ({ passed.1 with schedule := drained.1 }, passed.2) := by
  simp only [advance, pass, play, Engine.runDue, Told.value_bind, Told.value_pure, Told.notices_bind,
    Told.notices_pure, List.append_nil, List.length_map]
  rfl

theorem record_withSchedule (t : Simulation) (x : Schedule ScheduledAction) (attacker : Option CreatureId)
    (damage : Int) :
    ({ t with schedule := x } : Simulation).record attacker damage =
      { t.record attacker damage with schedule := x } := by
  unfold record
  cases attacker with
  | none => rfl
  | some attacker =>
    simp only
    split_ifs <;> rfl

/-- What is done is the same under another schedule, and leaves either as it is. -/
def Mindless (act : Simulation → Simulation × Reply × List Event) : Prop :=
  ∀ t schedule, act { t with schedule } = ({ (act t).1 with schedule }, (act t).2) ∧
    (act t).1.schedule = t.schedule

theorem mindless_answer {α : Type} (reply : α → Reply)
    (act : Engine Unit Unit → Situation Unit Unit → Told (Situation Unit Unit × α)) :
    Mindless fun s => s.answer reply act := fun _ _ => ⟨rfl, rfl⟩

theorem mindless_perform (act : Engine Unit Unit → Situation Unit Unit → Told (Situation Unit Unit)) :
    Mindless fun s => s.perform act := mindless_answer _ _

theorem mindless_handle {c : Command} (h : c.mindsSchedule = false) : Mindless fun s => s.handle c := by
  cases c with
  | advance | schedule | cancel => cases h
  | equip | unequip | addExperience | removeExperience | addSkillTries | addManaSpent =>
    simp only [handle]
    exact mindless_answer _ _
  | enterFight | attackPlayer | unjustifiedKill =>
    simp only [handle]
    exact mindless_perform _
  | createItem | die | editWorld | derivedStats | snapshot => exact fun _ _ => ⟨rfl, rfl⟩
  | damage attacker hit =>
    intro t x
    obtain ⟨_, hdamage⟩ := t.handle_damage attacker hit
    refine ⟨Prod.ext ?_ rfl, by rw [hdamage]; rfl⟩
    let struck := strike hit t.engine t.situation
    exact record_withSchedule (t.takeOver struck.value.1) x attacker struck.value.2.damage

/-- Such a command names no ticket, nor does its answer. -/
theorem renumber_of_mindless {c : Command} (h : c.mindsSchedule = false) (t : Simulation) (ρ : Ticket → Ticket) :
    c.schedules = false ∧ c.renumber ρ = c ∧ (t.handle c).2.1.renumber ρ = (t.handle c).2.1 := by
  cases c with
  | advance | schedule | cancel => cases h
  | _ => exact ⟨rfl, rfl, rfl⟩

/-! ## Simulations that are alike -/

/-- The simulations differ in their schedules only, and these follow one agenda, the first one under tickets
raised by `k`. -/
structure Alike (k : Nat) (s t : Simulation) (g : Agenda ScheduledAction) : Prop where
  same : ∃ schedule, s = { t with schedule }
  raised : Follows s.schedule (g.raise k)
  plain : Follows t.schedule g

theorem alike_self (h : Follows t.schedule g) : Alike 0 t t g := ⟨⟨_, rfl⟩, (Agenda.raise_zero g).symm ▸ h, h⟩

/-- As time goes on the same actions come due on both sides. -/
theorem Alike.advance (h : Alike k s t g) (elapsed : Nat) :
    Alike k (s.advance elapsed).1 (t.advance elapsed).1 (g.later (t.now.later elapsed)) ∧
      (s.advance elapsed).2 = (t.advance elapsed).2 := by
  obtain ⟨⟨x, rfl⟩, hx, ht⟩ := h
  obtain ⟨hleft, hdue⟩ := Follows.drainDue hx (t.now.later elapsed)
  obtain ⟨hleft', hdue'⟩ := ht.drainDue (t.now.later elapsed)
  have hactions : (x.drainDue (t.now.later elapsed)).2.map (·.2) =
      (t.schedule.drainDue (t.now.later elapsed)).2.map (·.2) := by
    rw [show (x.drainDue _).2 = _ from hdue, hdue', Agenda.actions_raise_due]
  have hfirst : ({ t with schedule := x } : Simulation).advance elapsed =
      ({ (t.pass elapsed ((t.schedule.drainDue (t.now.later elapsed)).2.map (·.2))).1 with
          schedule := (x.drainDue (t.now.later elapsed)).1 },
        (t.pass elapsed ((t.schedule.drainDue (t.now.later elapsed)).2.map (·.2))).2) := by
    rw [← hactions]
    exact advance_eq_pass _ elapsed
  rw [hfirst, t.advance_eq_pass elapsed]
  exact ⟨⟨⟨_, rfl⟩, Agenda.raise_later (g := g) _ ▸ hleft, hleft'⟩, rfl⟩

/-- **One command on two sides.**  Simulations that are alike answer and publish the same, but for raised
tickets, and are alike afterwards. -/
theorem Alike.handle (h : Alike k s t g) (c : Command) (hroom : c.schedules → g.next + k < max64) :
    ∃ g', g'.next = g.next + c.schedules.toNat ∧
      Alike k (s.handle (c.renumber (.raise k))).1 (t.handle c).1 g' ∧
      (s.handle (c.renumber (.raise k))).2 = ((t.handle c).2.1.renumber (.raise k), (t.handle c).2.2) := by
  cases hminds : c.mindsSchedule with
  | false =>
    obtain ⟨⟨x, rfl⟩, hx, ht⟩ := h
    obtain ⟨hsame, hstays⟩ := mindless_handle hminds t x
    simp only at hsame hstays
    obtain ⟨hnone, hcommand, hreply⟩ := renumber_of_mindless hminds t (.raise k)
    rw [hcommand, hreply, hsame, hnone]
    exact ⟨g, rfl, ⟨⟨x, rfl⟩, hx, hstays.symm ▸ ht⟩, rfl⟩
  | true =>
    cases c with
    | advance elapsed =>
      obtain ⟨halike, hanswer⟩ := h.advance elapsed
      exact ⟨g.later (t.now.later elapsed), rfl, halike, hanswer⟩
    | schedule delay action =>
      obtain ⟨⟨x, rfl⟩, hx, ht⟩ := h
      have hlt : g.next + k < max64 := hroom rfl
      have hadd := Follows.add hx hlt (t.now.later delay) action
      rw [Agenda.raise_add] at hadd
      refine ⟨_, rfl, ⟨⟨_, rfl⟩, hadd, ht.add (by omega) (t.now.later delay) action⟩, ?_⟩
      have hticket : x.next = t.schedule.next.raise k := by
        rw [show x.next = _ from hx.next, ht.next]
        rfl
      exact congrArg (fun ticket => (Reply.ticket ticket, ([] : List Event))) hticket
    | cancel ticket =>
      obtain ⟨⟨x, rfl⟩, hx, ht⟩ := h
      have hcancel := Follows.cancel hx (ticket.raise k)
      rw [Agenda.raise_drop] at hcancel
      refine ⟨g.drop ticket, rfl, ⟨⟨_, rfl⟩, hcancel, ht.cancel ticket⟩, ?_⟩
      have hfind : x.pending.find? (ticket.raise k) = t.schedule.pending.find? ticket := by
        rw [show x.pending.find? _ = _ from Follows.find? hx _, ht.find?, Agenda.raise_find?]
      exact congrArg (fun found => (Reply.wasPending found.isSome, ([] : List Event))) hfind
    | _ => cases hminds

/-! ## Runs -/

/-- Number of the commands that put an action off. -/
def schedulings (commands : List Command) : Nat := commands.countP Command.schedules

theorem schedulings_concat (commands : List Command) (c : Command) :
    schedulings (commands ++ [c]) = schedulings commands + c.schedules.toNat := by
  unfold schedulings
  rw [List.countP_append, List.countP_singleton]
  cases c.schedules <;> rfl

/-- A schedule follows an agenda that has given out a ticket for each action that was put off. -/
theorem follows_after (h : Follows t.schedule g) (commands : List Command)
    (hfew : g.next + schedulings commands ≤ max64) :
    ∃ g', g'.next = g.next + schedulings commands ∧ Follows (t.after commands).schedule g' := by
  induction commands using List.reverseRecOn with
  | nil => exact ⟨g, rfl, h⟩
  | append_singleton commands c ih =>
    rw [schedulings_concat] at hfew
    obtain ⟨g₁, hnext, hfollows⟩ := ih (by omega)
    have hroom : c.schedules → g₁.next + 0 < max64 := fun hc => by
      rw [hc] at hfew
      simp only [Bool.toNat_true] at hfew
      omega
    obtain ⟨g', hnext', halike, -⟩ := (alike_self hfollows).handle c hroom
    refine ⟨g', by rw [schedulings_concat, hnext', hnext, Nat.add_assoc], ?_⟩
    rw [after_concat]
    exact halike.plain

/-- Tickets are cancelled only after the same sequence of commands has given them out. -/
def CancelsOwn (s : Simulation) (commands : List Command) : Prop :=
  ∀ before ticket, before ++ [.cancel ticket] <+: commands →
    Reply.ticket ticket ∈ (s.transcript before).map (·.1)

theorem cancelsOwn_nil (s : Simulation) : s.CancelsOwn [] := fun before ticket hp =>
  absurd (List.prefix_nil.mp hp) (by simp)

theorem CancelsOwn.init {commands : List Command} {c : Command} (h : s.CancelsOwn (commands ++ [c])) :
    s.CancelsOwn commands := fun before ticket hp => h before ticket (hp.trans (List.prefix_append _ _))

theorem CancelsOwn.concat {commands : List Command} {c : Command} (h : s.CancelsOwn commands)
    (hc : ∀ ticket, c = .cancel ticket → Reply.ticket ticket ∈ (s.transcript commands).map (·.1)) :
    s.CancelsOwn (commands ++ [c]) := by
  intro before ticket hp
  rcases List.prefix_concat_iff.mp hp with heq | hp
  · obtain ⟨rfl, hlast⟩ := List.append_inj' heq rfl
    exact hc ticket (List.singleton_inj.mp hlast).symm
  · exact h before ticket hp

/-- A transcript with its tickets renumbered. -/
def renumbered (ρ : Ticket → Ticket) (entries : List (Reply × List Event)) : List (Reply × List Event) :=
  entries.map fun entry => (entry.1.renumber ρ, entry.2)

theorem renumbered_append (ρ : Ticket → Ticket) (entries more : List (Reply × List Event)) :
    renumbered ρ (entries ++ more) = renumbered ρ entries ++ renumbered ρ more := List.map_append

/-- A renumbered transcript gives out renumbered tickets. -/
theorem exists_ticket_of_renumbered {ρ : Ticket → Ticket} {entries : List (Reply × List Event)} {ticket : Ticket}
    (h : Reply.ticket ticket ∈ (renumbered ρ entries).map (·.1)) :
    ∃ given, ticket = ρ given ∧ Reply.ticket given ∈ entries.map (·.1) := by
  rw [renumbered, List.map_map] at h
  obtain ⟨⟨reply, events⟩, hentry, heq⟩ := List.mem_map.mp h
  cases reply with
  | ticket given => exact ⟨given, (Reply.ticket.inj heq).symm, List.mem_map.mpr ⟨_, hentry, rfl⟩⟩
  | _ => cases heq

/-- A command that cancels only what a renumbered transcript gives out has a counterpart. -/
theorem exists_counterpart {ρ : Ticket → Ticket} {entries : List (Reply × List Event)} {c : Command}
    (hc : ∀ ticket, c = .cancel ticket → Reply.ticket ticket ∈ (renumbered ρ entries).map (·.1)) :
    ∃ d : Command, c = d.renumber ρ ∧
      ∀ ticket, d = .cancel ticket → Reply.ticket ticket ∈ entries.map (·.1) := by
  by_cases hcancels : ∃ ticket, c = .cancel ticket
  · obtain ⟨ticket, rfl⟩ := hcancels
    obtain ⟨given, rfl, hgiven⟩ := exists_ticket_of_renumbered (hc ticket rfl)
    exact ⟨.cancel given, rfl, fun other heq => Command.cancel.inj heq ▸ hgiven⟩
  · have hne : ∀ ticket, c ≠ .cancel ticket := fun ticket heq => hcancels ⟨ticket, heq⟩
    exact ⟨c, (Command.renumber_eq_self hne ρ).symm, fun ticket heq => absurd heq (hne ticket)⟩

/-- **A run on two sides.**  Commands that cancel only tickets of their own have counterparts, and alike
simulations answer and publish the same to these, but for raised tickets. -/
theorem Alike.run (h : Alike k s t g) (commands : List Command)
    (hfew : g.next + k + schedulings commands ≤ max64) (hown : s.CancelsOwn commands) :
    ∃ counterparts g', commands = counterparts.map (Command.renumber (.raise k)) ∧ t.CancelsOwn counterparts ∧
      s.transcript commands = renumbered (.raise k) (t.transcript counterparts) ∧
      g'.next = g.next + schedulings commands ∧ Alike k (s.after commands) (t.after counterparts) g' := by
  induction commands using List.reverseRecOn with
  | nil => exact ⟨[], g, rfl, t.cancelsOwn_nil, rfl, rfl, h⟩
  | append_singleton commands c ih =>
    rw [schedulings_concat] at hfew
    obtain ⟨counterparts, g₁, hcommands, hcancels, htranscript, hnext, halike⟩ := ih (by omega) hown.init
    -- whatever the command cancels was given out by the commands before, so also on the other side
    obtain ⟨d, rfl, hd⟩ := exists_counterpart fun ticket heq =>
      htranscript ▸ hown commands ticket (heq ▸ List.prefix_rfl)
    have hsame : (d.renumber (.raise k)).schedules = d.schedules := by cases d <;> rfl
    rw [hsame] at hfew
    have hroom : d.schedules → g₁.next + k < max64 := fun hc => by
      rw [hc] at hfew
      simp only [Bool.toNat_true] at hfew
      omega
    obtain ⟨g', hnext', halike', hanswer⟩ := halike.handle d hroom
    refine ⟨counterparts ++ [d], g', ?_, hcancels.concat hd, ?_, ?_, ?_⟩
    · rw [List.map_append, hcommands]
      rfl
    · rw [transcript_concat, transcript_concat, renumbered_append, htranscript, hanswer]
      rfl
    · rw [schedulings_concat, hsame, hnext', hnext, Nat.add_assoc]
    · rw [after_concat, after_concat]
      exact halike'

/-- **Resuming is like going on.**  Take any simulation that some commands have led to and for which no action
is pending, and resume the snapshot that it answers with, under the same sources and settings.  For some
renumbering of tickets, any further commands that cancel only tickets of their own have counterparts with
renumbered tickets to which the resumed simulation gives the same answers, publishes the same and reaches the
same character, arena and time, as long as all commands together put off no more actions than there are
tickets. -/
theorem resumed_like_continued (start : Snapshot) (sources : Sources) (config : GameConfig)
    (history : List Command)
    (hidle : ((ofSnapshot start sources config).after history).schedule.isEmpty = true) :
    let first := (ofSnapshot start sources config).after history
    ∃ (snapshot : Snapshot) (ρ : Ticket → Ticket),
      (first.handle .snapshot).2.1 = .snapshot snapshot ∧ Function.Injective ρ ∧
      let second := ofSnapshot snapshot first.sources first.config
      ∀ commands, schedulings history + schedulings commands ≤ max64 → first.CancelsOwn commands →
        ∃ counterparts, commands = counterparts.map (Command.renumber ρ) ∧ second.CancelsOwn counterparts ∧
          first.transcript commands = renumbered ρ (second.transcript counterparts) ∧
          (first.after commands).character = (second.after counterparts).character ∧
          (first.after commands).arena = (second.after counterparts).arena ∧
          (first.after commands).now = (second.after counterparts).now := by
  intro first
  refine ⟨first.toSnapshot, .raise (schedulings history), rfl, Ticket.raise_injective _, ?_⟩
  intro second commands hfew hown
  obtain ⟨g, hnext, hfollows⟩ := follows_after (t := ofSnapshot start sources config)
    Schedule.follows_empty history ((Nat.zero_add _).trans_le (Nat.le_of_add_right_le hfew))
  -- nothing is pending, so all that is left of the agenda is the count of its tickets
  have hraised : Agenda.empty.raise (schedulings history) = g := by
    have hpending : (Agenda.listed g.entries).isEmpty = true := by
      rw [← hfollows.pending]
      exact hidle
    have hentries : g.entries = [] := List.map_eq_nil_iff.mp (List.isEmpty_iff.mp hpending)
    obtain ⟨entries, next⟩ := g
    obtain rfl : entries = [] := hentries
    obtain rfl : next = 0 + schedulings history := hnext
    rfl
  have halike : Alike (schedulings history) first second Agenda.empty :=
    ⟨⟨first.schedule, rfl⟩, hraised ▸ hfollows, Schedule.follows_empty⟩
  obtain ⟨counterparts, g', hcommands, hcancels, htranscript, -, ⟨⟨x, hsame⟩, -, -⟩⟩ :=
    halike.run commands ((congrArg (· + _) (Nat.zero_add _)).trans_le hfew) hown
  rw [hsame]
  exact ⟨counterparts, hcommands, hcancels, htranscript, rfl, rfl, rfl⟩

/-! ## An errand before and after -/

def tester : Snapshot := ⟨{ id := ⟨1⟩, name := "Tester" }, .empty, .zero⟩

/-- An action is put off and cancelled again. -/
def errand (ticket : Ticket) : List Command := [.schedule 300 .forceRefresh, .cancel ticket]

/-- The simulation that has run the first errand. -/
def errandDone : Simulation := (ofSnapshot tester {} {}).after (errand ⟨0⟩)

theorem cancelsOwn_errand : errandDone.CancelsOwn (errand ⟨1⟩) := by
  have hput : errandDone.CancelsOwn [.schedule 300 .forceRefresh] :=
    (errandDone.cancelsOwn_nil).concat fun ticket heq => by cases heq
  refine hput.concat (c := .cancel ⟨1⟩) fun ticket heq => ?_
  obtain rfl := Command.cancel.inj heq
  have hanswer : (errandDone.transcript [.schedule 300 .forceRefresh]).map (·.1) = [.ticket ⟨1⟩] := rfl
  rw [hanswer]
  exact List.mem_singleton_self _

/-- After an errand the first ticket is used up; a second errand goes as it does after a resumption, in what is
answered and published and in where it leads. -/
theorem resumed_like_continued_errand :
    errandDone.schedule.isEmpty = true ∧ errandDone.schedule.next = ⟨1⟩ ∧
      schedulings (errand ⟨0⟩) + schedulings (errand ⟨1⟩) ≤ max64 ∧ errandDone.CancelsOwn (errand ⟨1⟩) ∧
      ∃ (snapshot : Snapshot) (ρ : Ticket → Ticket) (counterparts : List Command),
        (errandDone.handle .snapshot).2.1 = .snapshot snapshot ∧ Function.Injective ρ ∧
          errand ⟨1⟩ = counterparts.map (Command.renumber ρ) ∧
          let resumed := ofSnapshot snapshot {} {}
          resumed.CancelsOwn counterparts ∧
          errandDone.transcript (errand ⟨1⟩) = renumbered ρ (resumed.transcript counterparts) ∧
          (errandDone.after (errand ⟨1⟩)).character = (resumed.after counterparts).character ∧
          (errandDone.after (errand ⟨1⟩)).arena = (resumed.after counterparts).arena ∧
          (errandDone.after (errand ⟨1⟩)).now = (resumed.after counterparts).now := by
  obtain ⟨snapshot, ρ, hsnapshot, hinjective, hruns⟩ := resumed_like_continued tester {} {} (errand ⟨0⟩) rfl
  obtain ⟨counterparts, hcommands, hreached⟩ := hruns (errand ⟨1⟩) (by decide) cancelsOwn_errand
  exact ⟨rfl, rfl, by decide, cancelsOwn_errand, snapshot, ρ, counterparts, hsnapshot, hinjective, hcommands,
    hreached⟩

end Simulation

end Adventurer
