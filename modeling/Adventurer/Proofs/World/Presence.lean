import Adventurer.Proofs.Runs
import Adventurer.World.Grid
import Mathlib.Data.List.Induction
import Mathlib.Tactic.SplitIfs

/-!
# Who stands where

A world keeps its creatures by their tiles and the levels of its players by their numbers, in two maps that
each edit changes on its own.  They should say the same of who is there: a creature stands on one tile at
most, and the players with a level are those that stand somewhere and were last put there with one
(`Tidy`).  Clearing a tile keeps that.  Putting a creature somewhere keeps it exactly if the creature comes
from no other tile, covers no player and is not put as nobody's level in the place of its own
(`WorldEdit.Blurs`).
-/

namespace Adventurer

/-- Where and with which level an edit puts a creature. -/
def WorldEdit.levelGiven? (id : CreatureId) : WorldEdit → Option (Option Nat)
  | .placeCreature _ creature level => if creature.id = id then some level else none
  | _ => none

namespace GridWorld

/-- A creature of that number is the one that is seen on a tile. -/
def Stands (w : GridWorld) (id : CreatureId) (place : Place) : Prop :=
  ∃ creature, w.view.creatureAt place = some creature ∧ creature.id = id

/-- The level with which a creature was put somewhere last; none if it was put as no player. -/
def levelGiven? (edits : List WorldEdit) (id : CreatureId) : Option Nat :=
  (edits.reverse.findSome? (·.levelGiven? id)).join

/-- The world after some edits of an empty one. -/
def made (edits : List WorldEdit) : GridWorld := empty.applyAll edits

/-- After these edits the world is of one mind about who stands where. -/
structure Tidy (edits : List WorldEdit) : Prop where
  alone : ∀ id p q, (made edits).Stands id p → (made edits).Stands id q → p = q
  known : ∀ id level, (made edits).view.playerLevel id = some level ↔
    (∃ p, (made edits).Stands id p) ∧ levelGiven? edits id = some level

end GridWorld

/-- Whether an edit makes the two maps say different things: it puts a creature on a tile that stands on
another one, or over a player, or without a level though it has one. -/
def WorldEdit.Blurs (w : GridWorld) : WorldEdit → Prop
  | .placeCreature place creature level =>
    (∃ p, p ≠ place ∧ w.Stands creature.id p) ∨
      (∃ id, id ≠ creature.id ∧ w.Stands id place ∧ (w.view.playerLevel id).isSome) ∨
      (level = none ∧ (w.view.playerLevel creature.id).isSome)
  | _ => False

namespace GridWorld

variable {w : GridWorld} {edits : List WorldEdit} {edit : WorldEdit} {id : CreatureId} {p place : Place}

/-! ## Single edits -/

theorem made_concat (edits : List WorldEdit) (edit : WorldEdit) :
    made (edits ++ [edit]) = (made edits).apply edit := List.foldl_append

theorem levelGiven?_concat (edits : List WorldEdit) (edit : WorldEdit) (id : CreatureId) :
    levelGiven? (edits ++ [edit]) id = (edit.levelGiven? id).getD (levelGiven? edits id) := by
  unfold levelGiven?
  rw [List.reverse_append, List.reverse_singleton, List.singleton_append, List.findSome?_cons]
  cases edit.levelGiven? id <;> rfl

/-- Nobody but the creature put on a tile stands there afterwards. -/
theorem stands_placeCreature (creature : CreatureView) (level : Option Nat) :
    (w.apply (.placeCreature place creature level)).Stands id p ↔
      if p = place then creature.id = id else w.Stands id p := by
  have hfind : (w.apply (.placeCreature place creature level)).view.creatureAt p =
      if place = p then some creature else w.view.creatureAt p := SortedMap.find?_insert _ _ _ _
  unfold Stands
  rw [hfind]
  by_cases hp : p = place
  · rw [if_pos hp, if_pos hp.symm]
    exact ⟨fun ⟨_, heq, hid⟩ => Option.some.inj heq ▸ hid, fun hid => ⟨creature, rfl, hid⟩⟩
  · rw [if_neg hp, if_neg (Ne.symm hp)]

theorem playerLevel_placeCreature (creature : CreatureView) (level : Option Nat) (id : CreatureId) :
    (w.apply (.placeCreature place creature level)).view.playerLevel id =
      if creature.id = id then level.or (w.view.playerLevel id) else w.view.playerLevel id := by
  cases level with
  | none => exact (ite_self _).symm
  | some level => exact SortedMap.find?_insert _ _ _ _

theorem apply_clearTile (w : GridWorld) (place : Place) :
    w.apply (.clearTile place) = (w.creatures.find? place).elim w fun creature =>
      { w with creatures := w.creatures.erase place, levels := w.levels.erase creature.id } := by
  cases hthere : w.creatures.find? place <;> simp [apply, hthere]

theorem stands_clearTile :
    (w.apply (.clearTile place)).Stands id p ↔ p ≠ place ∧ w.Stands id p := by
  have hfind : (w.apply (.clearTile place)).view.creatureAt p =
      if place = p then none else w.view.creatureAt p := by
    rw [apply_clearTile]
    cases hthere : w.creatures.find? place with
    | none =>
      split_ifs with hp
      · rw [← hp]
        exact hthere
      · rfl
    | some creature => exact SortedMap.find?_erase _ _ _
  unfold Stands
  rw [hfind]
  by_cases hp : place = p
  · rw [if_pos hp]
    refine iff_of_false ?_ fun h => h.1 hp.symm
    rintro ⟨_, hnone, -⟩
    cases hnone
  · rw [if_neg hp]
    exact ⟨fun h => ⟨Ne.symm hp, h⟩, And.right⟩

/-- Whoever is taken off a tile is no player any more. -/
theorem playerLevel_clearTile (id : CreatureId) [Decidable (w.Stands id place)] :
    (w.apply (.clearTile place)).view.playerLevel id =
      if w.Stands id place then none else w.view.playerLevel id := by
  rw [apply_clearTile]
  cases hthere : w.creatures.find? place with
  | none =>
    rw [if_neg, Option.elim_none]
    rintro ⟨creature, hfind, -⟩
    exact Option.some_ne_none _ (hfind.symm.trans hthere)
  | some creature =>
    have hstands : w.Stands id place ↔ creature.id = id :=
      ⟨fun ⟨_, hfind, hid⟩ => Option.some.inj (hthere.symm.trans hfind) ▸ hid, fun hid => ⟨creature, hthere, hid⟩⟩
    simp only [hstands]
    exact SortedMap.find?_erase _ _ _

/-! ## Tidy worlds -/

theorem tidy_nil : Tidy [] where
  alone id p q hp := by
    obtain ⟨creature, hnone, -⟩ := hp
    cases hnone
  known id level := by
    refine iff_of_false (fun hnone => by cases hnone) ?_
    rintro ⟨-, hnone⟩
    cases hnone

/-- An edit that moves nobody and changes no level leaves everything tidy. -/
theorem Tidy.of_same (h : Tidy edits) (hgiven : ∀ id, edit.levelGiven? id = none)
    (hstands : ∀ id p, ((made edits).apply edit).Stands id p ↔ (made edits).Stands id p)
    (hlevel : ((made edits).apply edit).view.playerLevel = (made edits).view.playerLevel) :
    Tidy (edits ++ [edit]) where
  alone id p q hp hq := by
    rw [made_concat, hstands] at hp hq
    exact h.alone id p q hp hq
  known id level := by
    simp only [made_concat, hstands, hlevel, levelGiven?_concat, hgiven, Option.getD_none]
    exact h.known id level

/-- Clearing a tile takes its creature out of both maps. -/
theorem Tidy.clearTile (h : Tidy edits) (place : Place) : Tidy (edits ++ [.clearTile place]) where
  alone id p q hp hq := by
    rw [made_concat, stands_clearTile] at hp hq
    exact h.alone id p q hp.2 hq.2
  known id level := by
    classical
    have hgiven : levelGiven? (edits ++ [.clearTile place]) id = levelGiven? edits id := levelGiven?_concat _ _ _
    simp only [made_concat, stands_clearTile, playerLevel_clearTile, hgiven]
    by_cases hthere : (made edits).Stands id place
    · -- it stood nowhere else
      rw [if_pos hthere]
      refine iff_of_false (fun hnone => by cases hnone) ?_
      rintro ⟨⟨p, hne, hp⟩, -⟩
      exact hne (h.alone id p place hp hthere)
    · rw [if_neg hthere, h.known]
      refine and_congr_left fun _ => exists_congr fun p => ⟨fun hp => ⟨?_, hp⟩, And.right⟩
      rintro rfl
      exact hthere hp

variable {creature : CreatureView} {level : Option Nat}

/-- What is said of a tidy world after a creature was put somewhere blurs nothing. -/
theorem Tidy.not_blurs (h : Tidy edits) (h' : Tidy (edits ++ [.placeCreature place creature level])) :
    ¬ (WorldEdit.placeCreature place creature level).Blurs (made edits) := by
  have hgiven := levelGiven?_concat edits (.placeCreature place creature level)
  have halone := h'.alone
  have hknown := h'.known
  simp only [made_concat, stands_placeCreature, playerLevel_placeCreature] at halone hknown
  rintro (⟨p, hne, hp⟩ | ⟨id, hne, hthere, hlevel⟩ | ⟨rfl, hlevel⟩)
  · -- the creature stands on both tiles
    refine hne (halone creature.id p place ?_ ?_)
    · rw [if_neg hne]
      exact hp
    · rw [if_pos rfl]
  · -- the player that was covered stands nowhere
    obtain ⟨covered, hcovered⟩ := Option.isSome_iff_exists.mp hlevel
    obtain ⟨⟨p, hp⟩, -⟩ := (hknown id covered).mp (by rw [if_neg (Ne.symm hne)]; exact hcovered)
    split_ifs at hp with hsame
    · exact hne hp.symm
    · exact hsame (h.alone id p place hp hthere)
  · -- the creature was put as no player, and is one
    obtain ⟨kept, hkept⟩ := Option.isSome_iff_exists.mp hlevel
    obtain ⟨-, hlast⟩ := (hknown creature.id kept).mp (by rw [if_pos rfl]; exact hkept)
    rw [hgiven, WorldEdit.levelGiven?, if_pos rfl] at hlast
    cases hlast

/-- Putting a creature somewhere keeps a world tidy unless that blurs it. -/
theorem Tidy.placeCreature (h : Tidy edits)
    (hclear : ¬ (WorldEdit.placeCreature place creature level).Blurs (made edits)) :
    Tidy (edits ++ [.placeCreature place creature level]) := by
  have hgiven := levelGiven?_concat edits (.placeCreature place creature level)
  obtain ⟨hnowhere, huncovered, hsame⟩ : (∀ p, p ≠ place → ¬ (made edits).Stands creature.id p) ∧
      (∀ id, id ≠ creature.id → (made edits).Stands id place → (made edits).view.playerLevel id = none) ∧
      (level = none → (made edits).view.playerLevel creature.id = none) := by
    simpa [WorldEdit.Blurs, not_or, imp.swap] using hclear
  constructor
  · intro id p q hp hq
    rw [made_concat, stands_placeCreature] at hp hq
    split_ifs at hp hq with hp' hq' hq'
    · rw [hp', hq']
    · exact absurd (hp ▸ hq) (hnowhere q hq')
    · exact absurd (hq ▸ hp) (hnowhere p hp')
    · exact h.alone id p q hp hq
  · intro id found
    simp only [made_concat, stands_placeCreature, playerLevel_placeCreature, hgiven, WorldEdit.levelGiven?]
    by_cases hid : creature.id = id
    · subst hid
      have hstands : ∃ p, if p = place then creature.id = creature.id else (made edits).Stands creature.id p :=
        ⟨place, by rw [if_pos rfl]⟩
      rw [if_pos rfl, if_pos rfl, Option.getD_some, and_iff_right hstands]
      cases level with
      | none => rw [Option.none_or, hsame rfl]
      | some level => rw [Option.some_or]
    · rw [if_neg hid, if_neg hid, h.known]
      refine and_congr_left fun hlast => exists_congr fun p => ?_
      split_ifs with hp
      · -- whoever stood there had no level
        refine iff_of_false (fun hthere => ?_) hid
        rw [hp] at hthere
        have hlevel := (h.known id found).mpr ⟨⟨place, hthere⟩, hlast⟩
        rw [huncovered id (Ne.symm hid) hthere] at hlevel
        cases hlevel
      · exact Iff.rfl

/-- **What one edit does to a tidy world.**  It stays tidy exactly if the edit does not blur it. -/
theorem tidy_concat_iff (h : Tidy edits) (edit : WorldEdit) :
    Tidy (edits ++ [edit]) ↔ ¬ edit.Blurs (made edits) := by
  cases edit with
  | placeCreature place creature level => exact ⟨h.not_blurs, h.placeCreature⟩
  | clearTile place => exact iff_of_true (h.clearTile place) not_false
  | setZone place zone =>
    exact iff_of_true (h.of_same (fun _ => rfl) (fun _ _ => Iff.rfl) rfl) not_false
  | setGroundItems place type count =>
    exact iff_of_true (h.of_same (fun _ => rfl) (fun _ _ => Iff.rfl) rfl) not_false

/-- **When the world is of one mind.**  Take any edits of an empty world.  After all of them and after each of
their beginnings a creature stands on one tile at most, and the players with a level are those that stand
somewhere and were last put there with that level, exactly if no edit puts a creature on a tile that stands
on another one, or over a player, or without a level though it has one. -/
theorem tidy_throughout_iff (edits : List WorldEdit) :
    (∀ before, before <+: edits → Tidy before) ↔
      ∀ before edit, before ++ [edit] <+: edits → ¬ edit.Blurs (made before) := by
  have hiff := @Run.throughout_iff (List WorldEdit) WorldEdit (fun log edit => log ++ [edit])
    (fun _ => True) (fun _ _ => True) Tidy (fun log edit => edit.Blurs (made log))
    (fun _ _ _ _ _ => trivial) (fun _ _ edit _ _ h => tidy_concat_iff h edit) edits []
    (fun _ _ => trivial) trivial tidy_nil
  -- the edits of a run are what it has come to
  have hlog : ∀ log : List WorldEdit, log.foldl (fun log edit => log ++ [edit]) [] = log := fun log => by
    rw [List.foldl_append_eq_append, List.nil_append, ← List.flatMap_def, List.flatMap_singleton']
  simpa only [hlog] using hiff

/-! ## A ghost -/

/-- The tile on which the player comes into the world, and the one to the east of it. -/
def gate : Place := ⟨10, 10, 7⟩
@[inherit_doc gate] def road : Place := gate.shift 1 0

/-- Puts the player with number 9 on a tile. -/
def put (place : Place) (level : Option Nat) : WorldEdit := .placeCreature place (.player ⟨9⟩) level

/-- The player comes into the world and goes on to the next tile: it stands on both, and clearing the first
takes its level although it is still on the second.  Covered by a monster it stands nowhere and keeps its
level.  And put there again as no player it keeps the level as well. -/
theorem ghost_left_behind :
    (made [put gate (some 80), put road (some 80)]).Stands ⟨9⟩ gate ∧
      (made [put gate (some 80), put road (some 80)]).Stands ⟨9⟩ road ∧ gate ≠ road ∧
    (made [put gate (some 80), put road (some 80), .clearTile gate]).Stands ⟨9⟩ road ∧
      levelGiven? [put gate (some 80), put road (some 80), .clearTile gate] ⟨9⟩ = some 80 ∧
      (made [put gate (some 80), put road (some 80), .clearTile gate]).view.playerLevel ⟨9⟩ = none ∧
    (∀ p, ¬ (made [put gate (some 80), .placeCreature gate (.monster ⟨30⟩) none]).Stands ⟨9⟩ p) ∧
      (made [put gate (some 80), .placeCreature gate (.monster ⟨30⟩) none]).view.playerLevel ⟨9⟩ = some 80 ∧
    levelGiven? [put gate (some 80), put gate none] ⟨9⟩ = none ∧
      (made [put gate (some 80), put gate none]).view.playerLevel ⟨9⟩ = some 80 := by
  refine ⟨⟨.player ⟨9⟩, rfl, rfl⟩, ⟨.player ⟨9⟩, rfl, rfl⟩, by decide, ⟨.player ⟨9⟩, rfl, rfl⟩, rfl, rfl,
    fun p => ?_, rfl, rfl, rfl⟩
  have hcovered := made_concat [put gate (some 80)] (.placeCreature gate (.monster ⟨30⟩) none)
  have hcame := made_concat [] (put gate (some 80))
  rw [List.singleton_append] at hcovered
  rw [List.nil_append] at hcame
  rw [hcovered, stands_placeCreature, hcame, put, stands_placeCreature]
  split_ifs
  · decide
  · rintro ⟨_, hnone, -⟩
    cases hnone

end GridWorld

end Adventurer
