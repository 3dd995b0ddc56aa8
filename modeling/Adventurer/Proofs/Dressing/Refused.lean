import Adventurer.Engine
import Adventurer.Proofs.Dressing.Plans

/-!
# Refused moves

A move that is refused leaves the character, the arena and the record of reports as they were and tells
one `cancel`.  `EquipHook.recorded` writes down what a hook is told, so that "the hook was not called"
is a statement about the record.
-/

namespace Adventurer

variable {σ τ : Type}

/-- What a hook is told of a move that was made. -/
inductive Report where
  | equipped (id : ItemId) (slot : Slot)
  | unequipped (id : ItemId) (slot : Slot)
  deriving DecidableEq, Repr

/-- The same hook, with its reports written down in order. -/
def EquipHook.recorded (hook : EquipHook σ) : EquipHook (σ × List Report) where
  canEquip c id type slot s :=
    let (agreed, t) := hook.canEquip c id type slot s.1
    (agreed, t, s.2)
  canUnequip c id slot s :=
    let (agreed, t) := hook.canUnequip c id slot s.1
    (agreed, t, s.2)
  onEquip c id slot s :=
    let (c, t) := hook.onEquip c id slot s.1
    (c, t, s.2 ++ [.equipped id slot])
  onUnequip c id slot s :=
    let (c, t) := hook.onUnequip c id slot s.1
    (c, t, s.2 ++ [.unequipped id slot])

namespace Dressing

variable {rules : Rules} {hook : EquipHook σ} {w : Wearer} {request : EquipRequest} {slot : Slot}
  {count : Nat} {s : σ} {e : Refusal}

/-! ## Asking is not reporting -/

theorem askHook_recorded (hook : EquipHook σ) (c : Character) (id : ItemId) (type : ItemType)
    (slot : Slot) (displaced : Option ItemId) (s : σ) (log : List Report) :
    askHook hook.recorded c id type slot displaced (s, log) =
      ((askHook hook c id type slot displaced s).1,
        ((askHook hook c id type slot displaced s).2, log)) := by
  unfold askHook
  cases displaced with
  | none => rfl
  | some other =>
    by_cases h : (hook.canUnequip c other slot s).1 = true
    · have hr : (hook.recorded.canUnequip c other slot (s, log)).1 = true := h
      simp only [h, hr, if_true]
      rfl
    · have hr : ¬ (hook.recorded.canUnequip c other slot (s, log)).1 = true := h
      simp only [if_neg h, if_neg hr]
      rfl

theorem planned_recorded (rules : Rules) (hook : EquipHook σ) (w : Wearer) (request : EquipRequest)
    (item : Item) (type : ItemType) (count : Nat) (slot : Slot) (displaced : Option ItemId) (s : σ)
    (log : List Report) :
    plan.planned rules hook.recorded w request item type count slot displaced (s, log) =
      ((plan.planned rules hook w request item type count slot displaced s).1,
        ((plan.planned rules hook w request item type count slot displaced s).2, log)) := by
  unfold plan.planned
  rw [askHook_recorded]
  simp only
  split_ifs <;> rfl

/-- Planning makes no report. -/
theorem plan_recorded (rules : Rules) (hook : EquipHook σ) (w : Wearer) (request : EquipRequest)
    (s : σ) (log : List Report) :
    plan rules hook.recorded w request (s, log) =
      ((plan rules hook w request s).1, ((plan rules hook w request s).2, log)) := by
  unfold plan
  split
  · rfl
  · simp only
    split_ifs
    · rfl
    · split
      · rfl
      · rfl
      · exact planned_recorded _ _ _ _ _ _ _ _ _ _ _
      · exact planned_recorded _ _ _ _ _ _ _ _ _ _ _

theorem planRemoval_recorded (rules : Rules) (hook : EquipHook σ) (w : Wearer) (slot : Slot)
    (count : Nat) (s : σ) (log : List Report) :
    planRemoval rules hook.recorded w slot count (s, log) =
      ((planRemoval rules hook w slot count s).1,
        ((planRemoval rules hook w slot count s).2, log)) := by
  unfold planRemoval
  split
  · rfl
  · split <;> rfl

/-- A refused request, and the same with its reports written down. -/
theorem refused_tryEquip (h : (tryEquip rules hook w request s).value.2.2 = .error e) :
    ∃ t, tryEquip rules hook w request s = refuse w t e ∧
      ∀ log, tryEquip rules hook.recorded w request (s, log) = refuse w (t, log) e := by
  obtain ⟨t, hp, ht⟩ := tryEquip_of_error h
  refine ⟨t, ht, fun log => tryEquip_of_plan_error ?_⟩
  rw [plan_recorded, hp]

/-- A refused removal, and the same with its reports written down. -/
theorem refused_tryUnequip (h : (tryUnequip rules hook w slot count s).value.2.2 = .error e) :
    ∃ t, tryUnequip rules hook w slot count s = refuse w t e ∧
      ∀ log, tryUnequip rules hook.recorded w slot count (s, log) = refuse w (t, log) e := by
  obtain ⟨t, hp, ht⟩ := tryUnequip_of_error h
  refine ⟨t, ht, fun log => ?_⟩
  unfold tryUnequip
  rw [planRemoval_recorded, hp]

end Dressing

namespace Engine

variable (e : Engine σ τ) (s : Situation σ τ)

/-- The engine refuses a scheduled action. -/
def Refuses (refusal : Refusal) : ScheduledAction → Prop
  | .equip request => (e.equip s request).value.2 = .error refusal
  | .unequip slot count => (e.unequip s slot count).value.2 = .error refusal
  | .forceRefresh => False

variable {e s} {refusal : Refusal} {action : ScheduledAction}

/-- A refused action changes nothing but what the hook keeps to itself. -/
theorem Refuses.carryOut_eq (h : e.Refuses s refusal action) :
    ∃ t, e.carryOut s action = ⟨{ s with hook := t }, [.cancel refusal.code]⟩ := by
  cases action with
  | equip request =>
    have hr : (Dressing.tryEquip e.rules e.hook s.wearer request s.hook).value.2.2 =
      .error refusal := h
    obtain ⟨t, ht, -⟩ := Dressing.refused_tryEquip hr
    refine ⟨t, ?_⟩
    simp only [carryOut, equip]
    rw [ht]
    rfl
  | unequip slot count =>
    have hr : (Dressing.tryUnequip e.rules e.hook s.wearer slot count s.hook).value.2.2 =
      .error refusal := h
    obtain ⟨t, ht, -⟩ := Dressing.refused_tryUnequip hr
    refine ⟨t, ?_⟩
    simp only [carryOut, unequip]
    rw [ht]
    rfl
  | forceRefresh => exact absurd h id

theorem carryOutAll_append (e : Engine σ τ) (s : Situation σ τ) (before after : List ScheduledAction) :
    e.carryOutAll s (before ++ after) = e.carryOutAll s before >>= fun t => e.carryOutAll t after :=
  List.foldlM_append

/-- What runs after a refused action runs as if that action had not been there. -/
theorem Refuses.carryOutAll_eq {before : List ScheduledAction} (after : List ScheduledAction)
    (h : e.Refuses (e.carryOutAll s before).value refusal action) :
    ∃ t, (e.carryOutAll s (before ++ action :: after)).value =
        (e.carryOutAll { (e.carryOutAll s before).value with hook := t } after).value ∧
      (e.carryOutAll s (before ++ action :: after)).notices =
        (e.carryOutAll s before).notices ++ .cancel refusal.code ::
          (e.carryOutAll { (e.carryOutAll s before).value with hook := t } after).notices := by
  obtain ⟨t, ht⟩ := h.carryOut_eq
  have hcons : e.carryOutAll (e.carryOutAll s before).value (action :: after) =
      e.carryOut (e.carryOutAll s before).value action >>= fun u => e.carryOutAll u after :=
    List.foldlM_cons
  refine ⟨t, ?_, ?_⟩
  · rw [carryOutAll_append, Told.value_bind, hcons, ht]
    rfl
  · rw [carryOutAll_append, Told.notices_bind, hcons, ht]
    rfl

end Engine

/-- **A refused move is atomic.**  Whatever a request, whatever the hook answers: if it is refused, the
character and the arena are what they were, the client is told one `cancel` with the code of the
refusal, and no report is added to what the hook has been told.  So the actions that are due after a
refused one run in the very state in which that one was tried. -/
theorem refused_moves_atomic (rules : Rules) (hook : EquipHook σ) (rates : Rates τ) (e : Refusal) :
    (∀ w request s, (Dressing.tryEquip rules hook w request s).value.2.2 = .error e →
      (Dressing.tryEquip rules hook w request s).value.1 = w ∧
      (Dressing.tryEquip rules hook w request s).notices = [.cancel e.code] ∧
      ∀ log, (Dressing.tryEquip rules hook.recorded w request (s, log)).value =
        (w, ((Dressing.tryEquip rules hook w request s).value.2.1, log), .error e)) ∧
    (∀ w slot count s, (Dressing.tryUnequip rules hook w slot count s).value.2.2 = .error e →
      (Dressing.tryUnequip rules hook w slot count s).value.1 = w ∧
      (Dressing.tryUnequip rules hook w slot count s).notices = [.cancel e.code] ∧
      ∀ log, (Dressing.tryUnequip rules hook.recorded w slot count (s, log)).value =
        (w, ((Dressing.tryUnequip rules hook w slot count s).value.2.1, log), .error e)) ∧
    (∀ (s : Situation σ τ) schedule before action after,
      (schedule.drainDue rules.now).2.map (·.2) = before ++ action :: after →
      (Engine.mk rules hook rates).Refuses
        ((Engine.mk rules hook rates).carryOutAll s before).value e action →
      ∃ t, let reached := (Engine.mk rules hook rates).carryOutAll s before
        let rest := (Engine.mk rules hook rates).carryOutAll { reached.value with hook := t } after
        ((Engine.mk rules hook rates).runDue s schedule).value.1 = rest.value ∧
        ((Engine.mk rules hook rates).runDue s schedule).notices =
          reached.notices ++ .cancel e.code :: rest.notices) := by
  refine ⟨fun w request s h => ?_, fun w slot count s h => ?_, fun s schedule before action after hd h => ?_⟩
  · obtain ⟨t, ht, hlog⟩ := Dressing.refused_tryEquip h
    rw [ht]
    exact ⟨rfl, rfl, fun log => by rw [hlog log]; rfl⟩
  · obtain ⟨t, ht, hlog⟩ := Dressing.refused_tryUnequip h
    rw [ht]
    exact ⟨rfl, rfl, fun log => by rw [hlog log]; rfl⟩
  · obtain ⟨t, h1, h2⟩ := h.carryOutAll_eq after
    refine ⟨t, ?_, ?_⟩
    · rw [← h1, ← hd]
      rfl
    · rw [← h2, ← hd]
      unfold Engine.runDue
      simp

/-- A hook that refuses every move and counts what it is asked. -/
def EquipHook.stubborn : EquipHook Nat where
  canEquip _ _ _ _ n := (false, n + 1)
  canUnequip _ _ _ n := (false, n + 1)
  onEquip c _ _ n := (c, n)
  onUnequip c _ _ n := (c, n)

/-- A sword in the left hand and a second one on the ground. -/
def swordsman : Wearer where
  character := { id := ⟨1⟩, name := "Tester", equipment := Equipment.empty.wear .left ⟨0, 0⟩ }
  arena := { cells := [.occupied 0 { type := ⟨1⟩ }, .occupied 0 { type := ⟨1⟩ }] }

/-- The rules of a world of swords. -/
def swordRules : Rules where
  items := some fun _ => some { positions := ⟨32⟩ }

/-- The second sword into the left hand, and an evaluation of the passives after it. -/
def swordSchedule : Schedule ScheduledAction :=
  (((Schedule.empty.add .zero (.equip ⟨⟨1, 0⟩, .named .left, 1⟩)).1).add .zero .forceRefresh).1

theorem refused_moves_atomic_stubborn :
    ((Dressing.tryEquip swordRules .stubborn swordsman ⟨⟨1, 0⟩, .named .left, 1⟩ 0).value.2.2 =
        .error .hookRejected ∧
      (Dressing.tryEquip swordRules .stubborn swordsman ⟨⟨1, 0⟩, .named .left, 1⟩ 0).value.1 =
        swordsman) ∧
    ((Dressing.tryUnequip swordRules .stubborn swordsman .left 1 0).value.2.2 =
        .error .hookRejected ∧
      (Dressing.tryUnequip swordRules .stubborn swordsman .left 1 0).notices =
        [.cancel "EQUIP_HOOK_REJECTED"]) ∧
    (swordSchedule.drainDue swordRules.now).2.map (·.2) =
      [] ++ .equip ⟨⟨1, 0⟩, .named .left, 1⟩ :: [.forceRefresh] ∧
    ∃ t, ((Engine.mk swordRules .stubborn .base).runDue ⟨swordsman, 0, ()⟩ swordSchedule).value.1 =
      ((Engine.mk swordRules .stubborn .base).carryOutAll ⟨swordsman, t, ()⟩ [.forceRefresh]).value := by
  obtain ⟨hon, hoff, hdue⟩ := refused_moves_atomic swordRules .stubborn .base .hookRejected
  have h1 : (Dressing.tryEquip swordRules .stubborn swordsman
      ⟨⟨1, 0⟩, .named .left, 1⟩ 0).value.2.2 = .error .hookRejected := by decide
  have h2 : (Dressing.tryUnequip swordRules .stubborn swordsman .left 1 0).value.2.2 =
      .error .hookRejected := by decide
  have h3 : (swordSchedule.drainDue swordRules.now).2.map (·.2) =
      [] ++ .equip ⟨⟨1, 0⟩, .named .left, 1⟩ :: [.forceRefresh] := by decide +kernel
  obtain ⟨t, ht, -⟩ := hdue ⟨swordsman, 0, ()⟩ swordSchedule [] _ _ h3 h1
  exact ⟨⟨h1, (hon _ _ _ h1).1⟩, ⟨h2, (hoff _ _ _ _ h2).2.1⟩, h3, t, ht⟩

end Adventurer
