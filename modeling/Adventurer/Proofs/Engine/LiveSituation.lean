import Adventurer.Proofs.Engine.Overlay
import Adventurer.Proofs.Passives.Reference

/-!
# The overlay and the live situation

A forced tick makes the overlay match the live situation unless a locked passive still grants something, in
any world and whatever is worn (`matches_forcedTick_iff`).  Operations leave locked passives without stats.
So does unlocking; but locking a passive drops none of what it grants, and the overlay then keeps that for
as long as it does not rest.
-/

namespace Adventurer

variable {σ τ : Type}

namespace Engine

open Passives

/-- What a character can live through: its passives are unlocked and locked, and its engine is asked for
something.  The world around is that of the engine. -/
inductive Turn where
  | unlock (passive : Passive) (stage : Nat)
  | lock (passive : Passive)
  | operate (operation : Operation)

/-- The turns of a character, each with the rules, the world and the hooks of its own tick. -/
abbrev Life (σ τ : Type) := List (Engine σ τ × Turn)

/-- The state after one turn. -/
def undergo (s : Situation σ τ) : Engine σ τ × Turn → Situation σ τ
  | (_, .unlock passive stage) => s.withCharacter (s.character.mapPassives (·.unlock passive stage))
  | (_, .lock passive) => s.withCharacter (s.character.mapPassives (·.lock passive))
  | (e, .operate o) => (e.operate s o).value

/-- The state after a life. -/
def lived (s : Situation σ τ) (life : Life σ τ) : Situation σ τ := life.foldl undergo s

/-- The turn locks a passive that still grants something. -/
def Turn.Orphans (p : PassiveState) : Turn → Prop
  | .lock passive => ∃ stat, stat.governor = passive ∧ p.majorOf stat ≠ 0
  | _ => False

variable {e : Engine σ τ} {s : Situation σ τ}

theorem upkeep_clean (rules : Rules) : Upkeep rules PassiveState.Clean PassiveState.Clean where
  tick a force _ := clean_onCombatTick rules a force
  fight a _ := clean_refresh rules a inFightPassives false
  weaken _ h := h

theorem isUnlocked_unlock (p : PassiveState) (passive other : Passive) (stage : Nat) :
    (p.unlock passive stage).isUnlocked other = if passive = other then true else p.isUnlocked other :=
  Table.get_set _ _ _ _

theorem isUnlocked_lock (p : PassiveState) (passive other : Passive) :
    (p.lock passive).isUnlocked other = if passive = other then false else p.isUnlocked other :=
  Table.get_set _ _ _ _

theorem clean_unlock {p : PassiveState} (h : p.Clean) (passive : Passive) (stage : Nat) :
    (p.unlock passive stage).Clean := by
  intro stat hs
  rw [isUnlocked_unlock] at hs
  split_ifs at hs
  exact h stat hs

/-- Locking a passive leaves its stats as they are. -/
theorem clean_lock_iff {p : PassiveState} (h : p.Clean) (passive : Passive) :
    (p.lock passive).Clean ↔ ¬ ∃ stat, stat.governor = passive ∧ p.majorOf stat ≠ 0 := by
  constructor
  · rintro hlock ⟨stat, rfl, hstat⟩
    refine hstat (hlock stat ?_)
    rw [isUnlocked_lock, if_pos rfl]
  · intro hnone stat hs
    show p.majorOf stat = 0
    rw [isUnlocked_lock] at hs
    split_ifs at hs with hgovernor
    · by_contra hstat
      exact hnone ⟨stat, hgovernor.symm, hstat⟩
    · exact h stat hs

/-- **What one turn does to a clean overlay.**  It stays clean exactly if the turn does not lock a passive
that grants something. -/
theorem clean_undergo_iff (hk : e.hook.KeepsPassives PassiveState.Clean)
    (hs : s.character.passives.Clean) (turn : Turn) :
    (undergo s (e, turn)).character.passives.Clean ↔ ¬ turn.Orphans s.character.passives := by
  cases turn with
  | unlock passive stage => exact iff_of_true (clean_unlock hs passive stage) not_false
  | lock passive => exact clean_lock_iff hs passive
  | operate o =>
    refine iff_of_true ?_ not_false
    exact keeps_operate (upkeep_clean e.rules) hk hs o fun _ => hs

/-- **When forced ticks make the overlay match the live situation.**  In every state and every world a forced
tick leaves every major stat at the value of the live situation exactly if the overlay rests or no locked
passive had a stat left; and throughout a life, in any changing world and with hooks whose reports give no
locked passive a stat, no locked passive has a stat left exactly if no passive is locked while it grants
something. -/
theorem forced_ticks_match_iff (life : Life σ τ) (s : Situation σ τ)
    (hk : ∀ turn ∈ life, turn.1.hook.KeepsPassives PassiveState.Clean) (hs : s.character.passives.Clean) :
    (∀ (e : Engine σ τ) (world : WorldView) (t : Situation σ τ), e.rules.world = some world →
      (Matches e.rules world t.arena (e.combatTick t true).value.1.character ↔
        AtRest e.rules world (e.combatTick t true).value.1.character ∨ t.character.passives.Clean)) ∧
    ((∀ before, before <+: life → (lived s before).character.passives.Clean) ↔
      ∀ before e turn, before ++ [(e, turn)] <+: life →
        ¬ Turn.Orphans (lived s before).character.passives turn) := by
  refine ⟨fun e world t hw => matches_forcedTick_iff hw t.arena t.character, ?_⟩
  have hiff : (∀ before, before <+: life → (lived s before).character.passives.Clean) ↔
      ∀ before turn, before ++ [turn] <+: life →
        ¬ Turn.Orphans (lived s before).character.passives turn.2 :=
    Run.throughout_iff (fun turn : Engine σ τ × Turn => turn.1.hook.KeepsPassives PassiveState.Clean)
      (fun _ _ => True) (fun s : Situation σ τ => s.character.passives.Clean) (fun _ _ _ _ _ => trivial)
      (fun _ s turn hk _ hs => clean_undergo_iff hk hs turn.2) life s hk trivial hs
  simp only [Prod.forall] at hiff
  exact hiff

/-! ## A forgotten mastery -/

/-- A world in which nothing stands or lies anywhere. -/
def emptyWorld : WorldView where
  creatureAt _ := none
  groundCount _ _ := 0
  zone _ := .normal
  playerLevel _ := none

def lonely : Engine Unit Unit := .plain { items := some fun _ => none, world := some emptyWorld }

def recluse : Situation Unit Unit where
  wearer := { character := { id := ⟨1⟩, name := "Recluse" }, arena := .empty }
  hook := ()
  rates := ()

/-- The recluse learns two passives, fights, and forgets one of the two again. -/
def forgetful : Life Unit Unit :=
  [(lonely, .unlock .positionalTactics 1), (lonely, .unlock .combatMastery 1),
    (lonely, .operate (.enterFight false)), (lonely, .operate (.combatTick true)),
    (lonely, .lock .combatMastery)]

theorem keepsPassives_forgetful : ∀ turn ∈ forgetful, turn.1.hook.KeepsPassives PassiveState.Clean := by
  intro turn ht
  simp only [forgetful, List.mem_cons, List.not_mem_nil, or_false] at ht
  rcases ht with rfl | rfl | rfl | rfl | rfl <;> exact EquipHook.keepsPassives_idle _

theorem clean_recluse : recluse.character.passives.Clean := fun _ _ => Table.get_replicate _ _

theorem not_matches_forgetful : ¬ Matches lonely.rules emptyWorld (lived recluse forgetful).arena
    (lonely.combatTick (lived recluse forgetful) true).value.1.character := by
  intro hmatch
  have hdefense := hmatch .defense
  revert hdefense
  decide +kernel

/-- The forced tick after that does not match, so locking has orphaned a stat. -/
theorem forced_ticks_match_iff_forgetful :
    ¬ (lived recluse forgetful).character.passives.Clean ∧
    ¬ ∀ before e turn, before ++ [(e, turn)] <+: forgetful →
      ¬ Turn.Orphans (lived recluse before).character.passives turn := by
  obtain ⟨hmatch, hlife⟩ := forced_ticks_match_iff forgetful recluse keepsPassives_forgetful clean_recluse
  have hdirty : ¬ (lived recluse forgetful).character.passives.Clean := fun hclean =>
    not_matches_forgetful ((hmatch lonely emptyWorld (lived recluse forgetful) rfl).mpr (.inr hclean))
  exact ⟨hdirty, fun hnone => hdirty (hlife.mpr hnone forgetful List.prefix_rfl)⟩

/-- In a fight, and with another passive unlocked, the defense of the forgotten mastery outlives a forced
tick. -/
theorem defense_without_mastery :
    (lived recluse forgetful).character.passives.isUnlocked .combatMastery = false ∧
    ¬ AtRest lonely.rules emptyWorld (lonely.combatTick (lived recluse forgetful) true).value.1.character ∧
    (lonely.combatTick (lived recluse forgetful) true).value.1.character.passives.majorOf .defense = 10 ∧
    reference lonely.rules emptyWorld (lived recluse forgetful).arena
      (lonely.combatTick (lived recluse forgetful) true).value.1.character .defense = 0 := by
  refine ⟨?_, ?_, ?_, ?_⟩ <;> decide +kernel

end Engine

end Adventurer
