import Adventurer.Host.Simulation
import Adventurer.Proofs.Engine.Frame
import Adventurer.Proofs.Engine.Ownership

/-!
# What commands do

A command of a simulation creates an item, or it does some deeds (`Simulation.deeds`) and leaves what is
worn and what lies in the arena alone otherwise (`unmoved_handle`).  What is scheduled is done once at most,
so that a run of commands makes no more items than there are commands and actions waiting at its start
(`makings_add_waiting_le`).
-/

namespace Adventurer

open Wearer

/-! ## The schedule -/

namespace Schedule

variable {α : Type} (s : Schedule α)

/-- Number of places in the queue, those of cancelled actions among them. -/
def waiting : Nat := s.queue.size

theorem waiting_settle_le : s.settle.waiting ≤ s.waiting := size_skim_le _ _

theorem waiting_popDue_le (now : Instant) : (s.popDue now).1.waiting ≤ s.waiting := by
  unfold popDue
  simp only
  cases htop : s.settle.queue.top? with
  | none => exact s.waiting_settle_le
  | some turn =>
    simp only
    split_ifs
    · exact s.waiting_settle_le
    · exact (Heap.size_pop_lt htop).le.trans s.waiting_settle_le

/-- Every action that is taken out had a place of its own. -/
theorem length_drainDue_add_waiting_le (now : Instant) :
    (s.drainDue now).2.length + (s.drainDue now).1.waiting ≤ s.waiting := by
  fun_induction drainDue s now with
  | case1 s t hpop =>
    have hle := s.waiting_popDue_le now
    rw [hpop] at hle
    simpa using hle
  | case2 s t entry hpop rest entries hrest ih =>
    have hlt : t.waiting < s.waiting := queue_size_popDue_lt hpop
    rw [hrest] at ih
    simp only [List.length_cons] at ih ⊢
    omega

end Schedule

/-! ## Commands -/

namespace Simulation

variable (s : Simulation) (c : Command)

/-- The character and its items. -/
def wearer : Wearer := s.situation.wearer

/-- The simulation after some commands. -/
def after (commands : List Command) : Simulation := commands.foldl (fun s c => (s.handle c).1) s

/-- What each of some commands is answered and what it publishes. -/
def transcript (s : Simulation) : List Command → List (Reply × List Event)
  | [] => []
  | c :: rest => (s.handle c).2 :: (s.handle c).1.transcript rest

theorem after_append (commands more : List Command) :
    s.after (commands ++ more) = (s.after commands).after more := List.foldl_append

theorem after_concat (commands : List Command) : s.after (commands ++ [c]) = ((s.after commands).handle c).1 :=
  s.after_append commands [c]

theorem transcript_append (commands more : List Command) :
    s.transcript (commands ++ more) = s.transcript commands ++ (s.after commands).transcript more := by
  induction commands generalizing s with
  | nil => rfl
  | cons first commands ih => exact congrArg _ (ih (s.handle first).1)

theorem transcript_concat (commands : List Command) :
    s.transcript (commands ++ [c]) = s.transcript commands ++ [((s.after commands).handle c).2] :=
  s.transcript_append commands [c]

/-- The engine that carries out a command; time goes on before what has come due is done. -/
def engineFor : Command → Engine Unit Unit
  | .advance elapsed => .plain (s.sources.rules s.config (s.now.later elapsed))
  | _ => s.engine

/-- The deeds of a command. -/
def deeds : Command → List Engine.Deed
  | .advance elapsed => (s.schedule.drainDue (s.now.later elapsed)).2.map fun due => .act due.2
  | .equip request => [.act (.equip request)]
  | .unequip slot count => [.act (.unequip slot count)]
  | .damage _ hit => [.absorb hit]
  | _ => []

/-- The situation after the deeds of a command. -/
def afterDeeds : Situation Unit Unit :=
  Engine.after s.situation ((s.deeds c).map (s.engineFor c, ·))

/-- How many items a command may make, split off parts among them. -/
def makings : Command → Nat
  | .createItem _ => 1
  | c => (s.deeds c).length

/-- What an attacker has dealt is remembered among what there is of combat. -/
theorem record_eq (attacker : Option CreatureId) (damage : Int) :
    ∃ combat, s.record attacker damage = { s with character := { s.character with combat } } := by
  unfold record
  cases attacker with
  | none => exact ⟨s.character.combat, rfl⟩
  | some attacker =>
    simp only
    split_ifs
    · exact ⟨_, rfl⟩
    · exact ⟨s.character.combat, rfl⟩

/-- A hit is absorbed and applied, and remembered. -/
theorem handle_damage (attacker : Option CreatureId) (hit : Hit) :
    ∃ combat, (s.handle (.damage attacker hit)).1 =
      let struck := s.takeOver (strike hit s.engine s.situation).value.1
      { struck with character := { struck.character with combat } } :=
  record_eq _ attacker _

/-- After a hit is absorbed nothing moves any more. -/
theorem unmoved_strike (e : Engine Unit Unit) (t : Situation Unit Unit) (hit : Hit) :
    Unmoved (e.absorb t hit).value.1.wearer (strike hit e t).value.1.wearer := by
  unfold strike
  simp only [Told.value_bind]
  split_ifs
  · exact Engine.unmoved_blockHit e _
  · exact Engine.unmoved_applyDamage e _ _

/-- **What a command does besides its deeds.**  If it creates no item: nothing to what is worn, to the
arena and to the weight of the inventory. -/
theorem unmoved_handle (hc : ∀ item, c ≠ .createItem item) :
    Unmoved (s.afterDeeds c).wearer (s.handle c).1.wearer := by
  cases c with
  | createItem item => exact absurd rfl (hc item)
  | advance elapsed =>
    have hdone : (((s.engineFor (.advance elapsed)).carryOutAll s.situation
        ((s.schedule.drainDue (s.now.later elapsed)).2.map (·.2))).value) =
          s.afterDeeds (.advance elapsed) := by
      rw [Engine.value_carryOutAll, afterDeeds, deeds, List.map_map, List.map_map]
      rfl
    rw [← hdone]
    exact Engine.unmoved_tick _ _ elapsed
  | equip request => exact .refl _
  | unequip slot count => exact .refl _
  | schedule delay action => exact .refl _
  | cancel ticket => exact .refl _
  | addExperience amount source =>
    exact Engine.unmoved_operate s.engine s.situation (.addExperience amount source true)
  | removeExperience amount =>
    exact Engine.unmoved_operate s.engine s.situation (.removeExperience amount true)
  | addSkillTries skill count =>
    exact Engine.unmoved_operate s.engine s.situation (.addSkillTries skill count)
  | addManaSpent amount => exact Engine.unmoved_operate s.engine s.situation (.addManaSpent amount)
  | enterFight pzLock => exact Engine.unmoved_enterFight s.engine s.situation pzLock
  | damage attacker hit =>
    obtain ⟨_, hdamage⟩ := s.handle_damage attacker hit
    rw [hdamage]
    exact (unmoved_strike s.engine s.situation hit).trans ⟨rfl, rfl, rfl⟩
  | die killer => exact Engine.unmoved_die s.engine s.situation killer
  | attackPlayer target skull struckFirst =>
    exact Engine.unmoved_operate s.engine s.situation (.attackPlayer target skull struckFirst)
  | unjustifiedKill target name =>
    exact Engine.unmoved_operate s.engine s.situation (.addUnjustifiedKill target name)
  | editWorld edit => exact .refl _
  | derivedStats => exact .refl _
  | snapshot => exact .refl _

/-- No command changes the catalog. -/
theorem items_handle : (s.handle c).1.sources.items = s.sources.items := by
  cases c with
  | damage attacker hit =>
    obtain ⟨_, hdamage⟩ := s.handle_damage attacker hit
    rw [hdamage]
    rfl
  | _ => rfl

/-- What a command makes and what waits afterwards was waiting, or it is the one thing that the command is
about. -/
theorem makings_add_waiting_le :
    s.makings c + (s.handle c).1.schedule.waiting ≤ s.schedule.waiting + 1 := by
  cases c with
  | advance elapsed =>
    have hdrained := s.schedule.length_drainDue_add_waiting_le (s.now.later elapsed)
    show ((s.schedule.drainDue (s.now.later elapsed)).2.map _).length +
      (s.schedule.drainDue (s.now.later elapsed)).1.waiting ≤ _
    rw [List.length_map]
    omega
  | schedule delay action =>
    show 0 + (s.schedule.add (s.now.later delay) action).1.queue.size ≤ s.schedule.queue.size + 1
    simp only [Schedule.add, Heap.push, Heap.size_merge, Heap.size]
    omega
  | createItem | equip | unequip => exact (Nat.add_comm _ _).le
  | damage attacker hit =>
    obtain ⟨_, hdamage⟩ := s.handle_damage attacker hit
    rw [hdamage]
    exact (Nat.add_comm _ _).le
  | _ => exact (Nat.zero_add _).le.trans (Nat.le_succ _)

end Simulation

end Adventurer
