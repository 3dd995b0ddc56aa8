import Adventurer.Proofs.Client.Screen
import Adventurer.Proofs.Dressing.Frame
import Adventurer.Proofs.Engine.Operations
import Adventurer.Proofs.Engine.Ownership
import Adventurer.Proofs.Passives.Changes
import Adventurer.Proofs.Progress.Frame

/-!
# Every operation is resynced

Whatever of a client's screen an operation of the engine changes, it tells to read again.  Most operations
are sequences of smaller ones that are each resynced; where several tell only once at their end, what they
leave alone is read off what they touch.
-/

namespace Adventurer

variable {σ τ : Type}

/-! ## The overlay and the wearer -/

namespace Passives

/-- Major stats that have changed are told. -/
theorem resynced_resync {c : Character} {done : Character × Bool} {mine : MajorStat → Prop}
    (h : OnlyPassives c done.1) (hm : Moves mine c.passives done.1.passives done.2) :
    c.screen.Resynced done.1.screen (resync done).notices := by
  rw [notices_resync]
  obtain ⟨d, changed⟩ := done
  obtain ⟨p, rfl⟩ := h
  cases changed with
  | true => exact ⟨.inl (by simp), .inl (by simp), rfl, .inr rfl⟩
  | false =>
    have hsame : p.major = c.passives.major := hm.major_eq
    exact ⟨.inr (.refl _), .inr ⟨rfl, fun _ => .refl _, hsame.symm⟩, rfl, .inr rfl⟩

theorem screen_tickGiftOfLife (c : Character) (now : Instant) :
    (tickGiftOfLife c now).screen = c.screen := by
  unfold tickGiftOfLife Character.mapPassives
  simp only
  split_ifs <;> rfl

theorem resynced_onCombatTick (rules : Rules) (a : Arena) (force : Bool) (c : Character) :
    c.screen.Resynced (onCombatTick rules a force c).value.1.screen (onCombatTick rules a force c).notices := by
  rw [← screen_tickGiftOfLife c rules.now]
  unfold onCombatTick
  simp only
  split_ifs
  · rw [value_resync]
    exact resynced_resync (onlyPassives_map _ _) (moves_reset _)
  · rw [value_resync]
    exact resynced_resync (onlyPassives_refresh rules a force _ _) (moves_refresh rules a force nodup_periodic _)

theorem resynced_addInFightTicks (rules : Rules) (a : Arena) (pzLock : Bool) (c : Character) :
    c.screen.Resynced (addInFightTicks rules a pzLock c).value.screen
      (addInFightTicks rules a pzLock c).notices := by
  have h := resynced_resync (onlyPassives_refresh rules a false inFightPassives c)
    (moves_refresh rules a false nodup_inFightPassives c)
  unfold addInFightTicks
  simp only [Told.value_bind, Told.notices_bind, value_resync]
  -- neither the lock nor the fight is shown, so what the refresh has changed is all there is
  generalize refresh rules a inFightPassives false c = refreshed at h ⊢
  split_ifs
  · exact h.silently
  · exact h.silently

end Passives

namespace Wearer

/-- Bringing up to date tells the stats at its end, and the skills where a major stat has changed. -/
theorem resynced_refresh (rules : Rules) (w : Wearer) :
    w.character.screen.Resynced (w.refresh rules).value.character.screen (w.refresh rules).notices := by
  have htick := Passives.resynced_onCombatTick rules w.arena true
    { w.character with inventoryWeight := Dressing.inventoryWeight rules w.character w.arena }
  exact htick.addStats w.character.statsPanel (w.refresh rules).value.character.statsPanel

theorem resynced_of_onlyEquipment {c d : Character} {told : List Notice} (h : OnlyEquipment c d)
    (hq : Quiet told) : c.screen.Resynced d.screen told := by
  obtain ⟨_, rfl⟩ := h
  exact .quiet _ hq

theorem quiet_detach (w : Wearer) (id : ItemId) : Quiet (w.detach id).notices := by
  unfold detach
  cases w.character.equipment.slotOf id <;> simp

theorem quiet_takeFrom (w : Wearer) (id : ItemId) (count : Nat) : Quiet (w.takeFrom id count).notices := by
  unfold takeFrom
  cases w.arena.get? id with
  | none => exact quiet_nil
  | some source =>
    simp only
    split_ifs
    · exact quiet_nil
    · simpa using w.quiet_detach id

theorem quiet_store (rules : Rules) (w : Wearer) (id : ItemId) (count : Nat) (box : ItemId) :
    Quiet (w.store rules id count box).notices := by
  unfold store
  rw [Told.notices_bind]
  refine quiet_append.mpr ⟨w.quiet_takeFrom id count, ?_⟩
  cases w.joinable? rules id box count <;> exact quiet_nil

/-- What is worn in some slots is destroyed, and all is brought up to date. -/
theorem resynced_discard (rules : Rules) (w : Wearer) (slots : List Slot) :
    w.character.screen.Resynced (w.discard rules slots).value.character.screen
      (w.discard rules slots).notices := by
  unfold discard
  split_ifs
  · exact .refl _
  · refine Screen.Resynced.trans ?_ (resynced_refresh rules _)
    refine Screen.Resynced.foldlM (fun v : Wearer => v.character.screen) (fun v slot => ?_) slots w
    cases v.character.equipment.get slot with
    | none => exact .refl _
    | some id => exact .quiet _ (by simp)

end Wearer

/-- The hook hears of moves without editing the character. -/
structure EquipHook.LeavesCharacter (hook : EquipHook σ) : Prop where
  onEquip : ∀ c id slot s, (hook.onEquip c id slot s).1 = c
  onUnequip : ∀ c id slot s, (hook.onUnequip c id slot s).1 = c

theorem EquipHook.leavesCharacter_idle : EquipHook.idle.LeavesCharacter :=
  ⟨fun _ _ _ _ => rfl, fun _ _ _ _ => rfl⟩

namespace Dressing

variable {rules : Rules} {hook : EquipHook σ} {w : Wearer} {s : σ}

theorem quiet_move (rules : Rules) (w : Wearer) (id : ItemId) (count : Nat) (p : Plan) :
    Quiet (move rules w id count p).notices := by
  cases p with
  | stow box => exact w.quiet_store rules id count box
  | merge slot stack => simpa [move] using w.quiet_takeFrom id count
  | wear slot displaced => simpa [move] using w.quiet_takeFrom id count

theorem resynced_report (hk : hook.LeavesCharacter) (w : Wearer) (slot : Slot) (placed : ItemId)
    (displaced : Option ItemId) (s : σ) :
    w.character.screen.Resynced (report hook w slot placed displaced s).value.1.character.screen
      (report hook w slot placed displaced s).notices := by
  have hcharacter : (report hook w slot placed displaced s).value.1.character = w.character := by
    cases displaced with
    | none => exact hk.onEquip _ _ _ _
    | some other => exact (hk.onEquip _ _ _ _).trans (hk.onUnequip _ _ _ _)
  rw [hcharacter]
  exact .quiet _ (by simp [report])

theorem resynced_carryOut (hk : hook.LeavesCharacter) (w : Wearer) (id : ItemId) (count : Nat) (p : Plan)
    (s : σ) :
    w.character.screen.Resynced (carryOut rules hook w id count p s).value.1.character.screen
      (carryOut rules hook w id count p s).notices := by
  have hmove := Wearer.resynced_of_onlyEquipment (onlyEquipment_move rules w id count p)
    (quiet_move rules w id count p)
  have hrefresh := Wearer.resynced_refresh rules (move rules w id count p).value.1
  refine hmove.trans (hrefresh.trans ?_)
  cases p with
  | stow box => exact .refl _
  | merge slot stack => exact (resynced_report hk _ slot _ none s).silently
  | wear slot displaced => exact (resynced_report hk _ slot _ displaced s).silently

/-- A request to equip is refused, or moves, brings up to date and reports. -/
theorem resynced_tryEquip (hk : hook.LeavesCharacter) (request : EquipRequest) :
    w.character.screen.Resynced (tryEquip rules hook w request s).value.1.character.screen
      (tryEquip rules hook w request s).notices := by
  unfold tryEquip
  split
  · exact .quiet _ (by simp [refuse])
  · rename_i p n t _
    exact (resynced_carryOut hk w request.item n p t).silently

theorem resynced_tryUnequip (hk : hook.LeavesCharacter) (slot : Slot) (count : Nat) :
    w.character.screen.Resynced (tryUnequip rules hook w slot count s).value.1.character.screen
      (tryUnequip rules hook w slot count s).notices := by
  cases hp : planRemoval rules hook w slot count s with
  | mk result t =>
    cases result with
    | error refusal =>
      unfold tryUnequip
      rw [hp]
      exact .quiet _ (by simp [refuse])
    | ok id =>
      rw [notices_tryUnequip_of_plan rules hp, value_tryUnequip_of_plan rules hp]
      simp only [hk.onUnequip]
      have htake := Wearer.resynced_of_onlyEquipment (w.onlyEquipment_takeFrom id count)
        (w.quiet_takeFrom id count)
      refine htake.trans ((Wearer.resynced_refresh rules _).trans (.quiet _ ?_))
      split_ifs <;> simp

end Dressing

/-! ## Progress -/

/-- Where the skills are the same, progress shows on the panel of stats alone. -/
theorem OnlyProgress.screen_eq {c d : Character} (h : OnlyProgress c d)
    (hskills : d.progress.skills = c.progress.skills) :
    { c.screen with stats := d.screen.stats } = d.screen := by
  obtain ⟨_, _, _, _, progress, rfl⟩ := h
  have hskill : ∀ k, progress.skills.get k = c.progress.skills.get k := fun k => by rw [← hskills]
  simp only [Character.screen, Character.skillsPanel, Character.skill, hskill]

/-- Progress that leaves the training alone is resynced if it tells the stats wherever it does anything. -/
theorem OnlyProgress.resynced {c d : Character} {told : List Notice} (h : OnlyProgress c d)
    (htraining : d.trainingSheet = c.trainingSheet)
    (htold : d = c ∧ told = [] ∨ Quiet told ∧ .stats ∈ told) : c.screen.Resynced d.screen told := by
  rcases htold with ⟨rfl, rfl⟩ | ⟨hquiet, hstats⟩
  · exact .refl _
  · exact .of_stats hquiet hstats (h.screen_eq (congrArg TrainingSheet.skills htraining))

namespace Progress

variable (rules : Rules) (rates : Rates σ) (c : Character) (s : σ)

theorem quiet_announceExperience (announce : Bool) (verb : String) (amount : Nat) :
    Quiet (announceExperience announce c verb amount).notices := by
  unfold announceExperience
  split_ifs
  · simp [Told.tellAll]
  · exact quiet_nil

theorem quiet_reportDowngrade (before : Nat) : Quiet (reportDowngrade rates c before s).notices := by
  unfold reportDowngrade
  simp only
  split_ifs
  · simp [advanceLine]
  · exact quiet_nil

/-- Experience that is booked at all is told with the stats. -/
theorem told_addExperience (amount : Nat) (source : Option CreatureId) (announce : Bool) :
    let told := addExperience rules rates c amount source announce s
    told.value.character = c ∧ told.notices = [] ∨ Quiet told.notices ∧ .stats ∈ told.notices := by
  intro told
  by_cases barred : c.flags.has .notGainExperience
  · exact .inl (by simp [told, addExperience, barred, unchanged])
  by_cases grows : Character.threshold rules c.level < Character.threshold rules (c.level + 1)
  swap
  · exact .inr (by simp [told, addExperience, barred, grows])
  obtain ⟨⟨rated, t⟩, hrated⟩ : ∃ x, rates.experience c source amount s = x := ⟨_, rfl⟩
  by_cases cancelled : rated = 0
  · exact .inl (by simp [told, addExperience, barred, grows, hrated, cancelled, unchanged])
  right
  have hannounce := quiet_announceExperience
    (c.withExperience (addUpTo max64 c.progress.experience rated)) announce "gained" rated
  simp only [told, addExperience, if_neg barred, if_pos grows, hrated, if_neg cancelled, Told.notices_bind]
  split_ifs
  · simp [hannounce]
  · simp [hannounce, advanceLine]

theorem resynced_addExperience (amount : Nat) (source : Option CreatureId) (announce : Bool) :
    let told := addExperience rules rates c amount source announce s
    c.screen.Resynced told.value.character.screen told.notices := by
  intro told
  have honly := onlyProgress_addExperience rules rates c s amount source announce
  have htraining := trainingSheet_addExperience rules rates c s amount source announce
  exact honly.resynced htraining (told_addExperience rules rates c s amount source announce)

theorem told_removeExperience (amount : Nat) (announce : Bool) :
    let told := removeExperience rules rates c amount announce s
    told.value.character = c ∧ told.notices = [] ∨ Quiet told.notices ∧ .stats ∈ told.notices := by
  intro told
  by_cases nothing : c.progress.experience = 0 || amount = 0
  · exact .inl (by simp [told, removeExperience, nothing, unchanged])
  obtain ⟨⟨rated, t⟩, hrated⟩ : ∃ x, rates.loss c amount s = x := ⟨_, rfl⟩
  by_cases cancelled : rated = 0
  · exact .inl (by simp [told, removeExperience, nothing, hrated, cancelled, unchanged])
  right
  simp only [told, removeExperience, if_neg nothing, hrated, if_neg cancelled, Told.notices_bind,
    quiet_append, List.mem_append]
  refine ⟨⟨quiet_announceExperience _ _ _ _, quiet_reportDowngrade _ _ _ _, ?_⟩, ?_⟩
  · simp
  · simp

theorem resynced_removeExperience (amount : Nat) (announce : Bool) :
    let told := removeExperience rules rates c amount announce s
    c.screen.Resynced told.value.character.screen told.notices := by
  intro told
  have honly := onlyProgress_removeExperience rules rates c s amount announce
  have htraining := trainingSheet_removeExperience rules rates c s amount announce
  exact honly.resynced htraining (told_removeExperience rules rates c s amount announce)

/-! ## Training -/

theorem quiet_levelLines (line : Nat → String) (before after : Nat) :
    Quiet (levelLines line before after) := by
  intro notice h
  obtain ⟨level, -, rfl⟩ := List.mem_map.mp h
  rfl

/-- What a booking that is neither refused nor cancelled writes and tells: the panel of its track, if the
level has changed or the percent does not compare equal. -/
theorem told_bookOn (require : Nat → Nat) (track : TrainedTrack) (amount : Nat) :
    let told := bookOn rates require track c amount s
    told.value.character = c ∧ told.notices = [] ∨
      ∃ g : Footing, told.value.character = track.write c g (g.percent require) ∧ Quiet told.notices ∧
        (track.resync ∈ told.notices ∨
          g.level = (track.footing c).level ∧ (track.shown c == g.percent require) = true) := by
  intro told
  by_cases grows : require (track.footing c).level < require ((track.footing c).level + 1)
  swap
  · exact .inl (by simp [told, bookOn, bookTries, grows, unchanged])
  obtain ⟨⟨rated, t⟩, hrated⟩ : ∃ x, rates.tries c track.track amount s = x := ⟨_, rfl⟩
  by_cases cancelled : rated = 0
  · exact .inl (by simp [told, bookOn, bookTries, grows, hrated, cancelled, unchanged])
  have hquiet := quiet_levelLines track.line (track.footing c).level
    ((track.footing c).advance require rated).level
  have hvalue : told.value.character = track.write c ((track.footing c).advance require rated)
      (((track.footing c).advance require rated).percent require) := by
    simp only [told, value_bookOn, if_pos grows, hrated, if_neg cancelled]
  refine .inr ⟨(track.footing c).advance require rated, hvalue, ?_⟩
  have hresync : Quiet [track.resync] := by cases track <;> simp [TrainedTrack.resync]
  simp only [told, bookOn, bookTries, if_pos grows, hrated, if_neg cancelled]
  by_cases gained : 0 < ((track.footing c).advance require rated).level - (track.footing c).level
  · simp only [gained, decide_true, Bool.true_or, if_true, Told.notices_bind]
    have hadvance : Quiet (Told.tell (.advance track.track (track.footing c).level
      ((track.footing c).advance require rated).level)).notices := by simp
    exact ⟨quiet_append.mpr ⟨hquiet, quiet_append.mpr ⟨hadvance, quiet_append.mpr ⟨hresync, quiet_nil⟩⟩⟩,
      .inl (by simp)⟩
  · simp only [gained, decide_false, Bool.false_or, if_false]
    -- no level was gained, so the panel is told only if the percent compares different
    split_ifs with differs
    · exact ⟨quiet_append.mpr ⟨hresync, quiet_nil⟩, .inl (by simp)⟩
    · refine ⟨quiet_nil, .inr ⟨?_, by simpa [bne] using differs⟩⟩
      have hle := Footing.le_advance_level require (track.footing c) rated
      omega

theorem statsPanel_alike_write {g : Footing} {percent : Float} (hlevel : g.level = c.progress.magicLevel)
    (hpercent : SameNumber c.progress.magicLevelPercent percent) :
    c.statsPanel.Alike (TrainedTrack.magicLevel.write c g percent).statsPanel := by
  refine ⟨?_, hpercent⟩
  simp only [Character.statsPanel, TrainedTrack.write, hlevel]

theorem skillsPanel_alike_write {k : Skill} {g : Footing} {percent : Float}
    (hlevel : g.level = (c.skill k).level) (hpercent : SameNumber (c.skill k).percent percent) :
    c.skillsPanel.Alike ((TrainedTrack.skill k).write c g percent).skillsPanel := by
  refine ⟨funext fun j => ?_, fun j => ?_, rfl⟩
  · simp only [Character.skillsPanel, TrainedTrack.write, Character.skill_setSkill]
    split_ifs with same
    · rw [← same, hlevel]
    · rfl
  · simp only [Character.skillsPanel, TrainedTrack.write, Character.skill_setSkill]
    split_ifs with same
    · rw [← same]
      exact hpercent
    · exact .refl _

/-- A booking tells the panel of its track, unless the panel shows the same as before. -/
theorem resynced_bookOn (require : Nat → Nat) (track : TrainedTrack) (amount : Nat) :
    let told := bookOn rates require track c amount s
    c.screen.Resynced told.value.character.screen told.notices := by
  intro told
  rcases told_bookOn rates c s require track amount with ⟨hc, hnone⟩ | ⟨g, hc, hquiet, htold⟩
  · simp only [told, hc, hnone]
    exact .refl _
  simp only [told, hc]
  have hskull := Skull.hear_of_quiet c.reputation.skull hquiet
  cases track with
  | magicLevel =>
    exact ⟨htold.imp_right fun h => statsPanel_alike_write c h.1 (.inr h.2), .inr (.refl _), hskull, .inr rfl⟩
  | skill k =>
    exact ⟨.inr (.refl _), htold.imp_right fun h => skillsPanel_alike_write c h.1 (.inr h.2), hskull, .inr rfl⟩

theorem resynced_addTries (track : TrainedTrack) (amount : Nat) :
    let told := addTries rules rates c track amount s
    c.screen.Resynced told.value.character.screen told.notices := by
  intro told
  simp only [told, addTries_eq]
  split_ifs
  · exact .refl _
  · cases rules.vocationOf? c with
    | none => exact .refl _
    | some v => exact resynced_bookOn rates c s (track.require v) track amount

theorem resynced_addOfflineTries (track : Track) (tries : Nat) :
    let told := addOfflineTries rules rates c track tries s
    c.screen.Resynced told.value.character.screen told.notices := by
  intro told
  simp only [told, addOfflineTries]
  split
  · next trained vocation _ _ =>
    split_ifs
    · exact .refl _
    · have hsummary (line : String) : Quiet [advanceLine line] := by simp [advanceLine]
      cases trained with
      | magicLevel =>
        exact (resynced_addTries rules rates c s .magicLevel tries).trans (.quiet _ (hsummary _))
      | skill k => exact (resynced_addTries rules rates c s (.skill k) tries).trans (.quiet _ (hsummary _))
  · exact .refl _

theorem resynced_onBlockHit (a : Arena) :
    let told := onBlockHit rules rates c a s
    c.screen.Resynced told.value.character.screen told.notices := by
  intro told
  simp only [told, onBlockHit]
  split_ifs
  · exact .refl _
  · exact resynced_addTries rules rates
      { c with combat := { c.combat with shieldBlockCount := c.combat.shieldBlockCount - 1 } } s
      (.skill .shield) 1
  · exact .refl _

end Progress

/-! ## Damage and death -/

namespace Passives

/-- A rescue tells the stats; without one nothing changes. -/
theorem resynced_triggerGiftOfLife (rules : Rules) (c : Character) (damage : Nat) :
    c.screen.Resynced (triggerGiftOfLife rules c damage).value.1.screen
      (triggerGiftOfLife rules c damage).notices := by
  unfold triggerGiftOfLife
  split_ifs
  · exact .of_stats (by simp) (by simp) rfl
  · exact .refl _

end Passives

namespace Death

variable (rules : Rules) (rates : Rates σ) (c : Character) (s : σ)

theorem quiet_loseExperience (vocation : Option Vocation) (loss : Float) :
    Quiet (loseExperience rules rates vocation loss c s).notices := by
  unfold loseExperience
  simp only
  split_ifs
  · exact quiet_nil
  · exact quiet_append.mpr ⟨Progress.quiet_reportDowngrade _ _ _ _, quiet_nil⟩
  · exact quiet_append.mpr ⟨Progress.quiet_reportDowngrade _ _ _ _, quiet_nil⟩

/-- A free death tells the stats, and any other one all there is but the skull, which it leaves alone. -/
theorem resynced_resolve (killer : Option CreatureView) :
    c.screen.Resynced (resolve rules rates c killer s).value.1.screen
      (resolve rules rates c killer s).notices := by
  by_cases armed : c.combat.skillLoss
  · have hnotices : ∃ told, Quiet told ∧ ∃ reduction, (resolve rules rates c killer s).notices =
        told ++ [.stats, .skills, .reLoginWindow reduction, .blessStatus] := by
      refine ⟨_, quiet_loseExperience rules rates (paid rules c killer) s (rules.vocationOf? c)
        (shareLost rules c killer), (c.assessFight rules killer).unfairFightReduction, ?_⟩
      simp only [resolve, armed, Bool.not_true]
      rfl
    obtain ⟨told, hquiet, reduction, hnotices⟩ := hnotices
    have hreputation : (resolve rules rates c killer s).value.1.reputation = c.reputation := by
      rcases character_resolve rules rates c s killer with ⟨-, h⟩ | ⟨d, b, ⟨_, _, _, _, _, rfl⟩, h⟩
      · rw [h]
        rfl
      · rw [h]
        rfl
    rw [hnotices]
    -- all but the skull is told; the skull is not, and so has to be the one shown before
    refine ⟨.inl (by simp), .inl (by simp), ?_, .inl (by simp)⟩
    rw [Skull.hear_of_quiet _ (quiet_append.mpr ⟨hquiet, by simp⟩)]
    exact congrArg Reputation.skull hreputation.symm
  · simp only [resolve, armed, Bool.not_false, if_true]
    exact .of_stats (by simp [free]) (by simp [free]) rfl

end Death

namespace Standing

variable (c : Character)

theorem resynced_setSkull (skull : Skull) :
    c.screen.Resynced (setSkull c skull).value.screen (setSkull c skull).notices := by
  unfold setSkull
  split_ifs
  · exact .refl _
  · exact ⟨.inr (.refl _), .inr (.refl _), rfl, .inr rfl⟩

theorem resynced_sentence (skull : Skull) (duration : Nat) :
    c.screen.Resynced (sentence c skull duration).value.screen (sentence c skull duration).notices :=
  (resynced_setSkull c skull).silently

theorem resynced_escalate (rules : Rules) :
    c.screen.Resynced (escalate rules c).value.screen (escalate rules c).notices := by
  unfold escalate
  simp only
  split_ifs
  · exact .refl _
  · exact resynced_sentence c _ _
  · exact resynced_sentence c _ _
  · exact .refl _

theorem resynced_addUnjustifiedKill (rules : Rules) (target : CreatureId) (name : String) :
    c.screen.Resynced (addUnjustifiedKill rules c target name).value.screen
      (addUnjustifiedKill rules c target name).notices := by
  unfold addUnjustifiedKill
  split_ifs
  · exact .refl _
  · have hwarned (line : String) : Quiet [.text .warning line] := by simp
    refine (Screen.Resynced.quiet _ (hwarned _)).trans ?_
    exact (resynced_escalate (c.mapReputation fun r =>
      { r with kills := r.kills ++ [⟨target, rules.now, true⟩] }) rules).trans (.quiet _ (by simp))

theorem resynced_onAttackPlayer (rules : Rules) (target : CreatureId) (skull : Skull) (struckFirst : Bool) :
    c.screen.Resynced (onAttackPlayer rules c target skull struckFirst).value.screen
      (onAttackPlayer rules c target skull struckFirst).notices := by
  have hattacked : (addAttacked c target).screen = c.screen := by
    unfold addAttacked
    split_ifs <;> rfl
  unfold onAttackPlayer
  simp only
  split_ifs
  · exact .refl _
  · rw [← hattacked]
    exact resynced_setSkull _ _
  · rw [← hattacked]
    exact .refl _

theorem resynced_checkSkull (elapsed : Nat) (inFight : Bool) :
    c.screen.Resynced (checkSkull c elapsed inFight).value.screen (checkSkull c elapsed inFight).notices := by
  unfold checkSkull
  simp only
  split_ifs
  · have hticks (skullTicks : Int) : (c.mapReputation fun r => { r with skullTicks }).screen = c.screen := rfl
    rw [← hticks]
    exact resynced_setSkull _ _
  · exact .refl _

theorem resynced_onFightEnd :
    c.screen.Resynced (onFightEnd c).value.screen (onFightEnd c).notices := by
  unfold onFightEnd
  simp only
  split_ifs
  · exact .refl _
  · exact resynced_setSkull (clearAttacked { c with combat := { c.combat with pzLocked := false } }) .none

end Standing

/-! ## The engine -/

namespace Engine

variable {e : Engine σ τ} {s : Situation σ τ}

theorem resynced_expire (c : Character) :
    c.screen.Resynced (e.expire c).value.screen (e.expire c).notices := by
  by_cases ended : .inFight ∈ c.combat.conditions.expired e.rules.now
  · simp only [expire, if_pos ended]
    exact (Standing.resynced_onFightEnd { c with combat :=
      { c.combat with conditions := c.combat.conditions.removeExpired e.rules.now } }).silently
  · simp only [expire, if_neg ended]
    exact .refl _

theorem resynced_tick (elapsed : Nat) :
    s.character.screen.Resynced (e.tick s elapsed).value.1.character.screen (e.tick s elapsed).notices := by
  have hexpire := resynced_expire (e := e) s.character
  have hskull := Standing.resynced_checkSkull (e.expire s.character).value elapsed
    ((e.expire s.character).value.isInFight e.rules.now)
  refine hexpire.trans (hskull.trans ?_)
  exact (Passives.resynced_onCombatTick e.rules s.arena false _).silently

theorem resynced_absorb (hit : Hit) :
    s.character.screen.Resynced (e.absorb s hit).value.1.character.screen (e.absorb s hit).notices :=
  (Wearer.resynced_discard e.rules
    { s.wearer with arena := (hit.absorb e.rules s.character s.arena).1 } _).silently

theorem resynced_carryOut (hk : e.hook.LeavesCharacter) (s : Situation σ τ) (action : ScheduledAction) :
    s.character.screen.Resynced (e.carryOut s action).value.character.screen
      (e.carryOut s action).notices := by
  cases action with
  | equip request => exact (Dressing.resynced_tryEquip hk request).silently.silently
  | unequip slot count => exact (Dressing.resynced_tryUnequip hk slot count).silently.silently
  | forceRefresh =>
    exact (Passives.resynced_onCombatTick e.rules s.arena true _).silently.silently

theorem resynced_answer (hk : e.hook.LeavesCharacter) (call : Call) :
    s.character.screen.Resynced (e.answer s call).value.character.screen (e.answer s call).notices := by
  cases call with
  | equip request => exact resynced_carryOut hk s (.equip request)
  | unequip slot count => exact resynced_carryOut hk s (.unequip slot count)
  | absorb hit => exact (resynced_absorb hit).silently
  | runDue schedule =>
    have hall := Screen.Resynced.foldlM (fun s : Situation σ τ => s.character.screen)
      (resynced_carryOut hk) ((schedule.drainDue e.rules.now).2.map (·.2)) s
    exact hall.silently.silently

theorem resynced_triggerGiftOfLife (damage : Nat) :
    s.character.screen.Resynced (e.triggerGiftOfLife s damage).value.1.character.screen
      (e.triggerGiftOfLife s damage).notices :=
  (Passives.resynced_triggerGiftOfLife e.rules s.character damage).silently

/-- Damage that is taken off health tells the stats. -/
theorem resynced_applyDamage (damage : Nat) :
    s.character.screen.Resynced (e.applyDamage s damage).value.1.character.screen
      (e.applyDamage s damage).notices := by
  have hrescue := resynced_triggerGiftOfLife (e := e) (s := s) damage
  unfold applyDamage
  split_ifs
  · exact .refl _
  · generalize e.triggerGiftOfLife s damage = rescue at hrescue ⊢
    obtain ⟨⟨t, saved⟩, told⟩ := rescue
    cases saved with
    | true => exact hrescue.silently
    | false => exact hrescue.trans (.of_stats (by simp) (by simp) rfl)

/-- **One operation.**  Whatever of the screen it changes, it tells to read again. -/
theorem resynced_operate (hk : e.hook.LeavesCharacter) (s : Situation σ τ) (o : Operation) :
    s.character.screen.Resynced (e.operate s o).value.character.screen (e.operate s o).notices := by
  cases o with
  | call call => exact resynced_answer hk call
  | addExperience amount source announce =>
    exact (Progress.resynced_addExperience _ _ _ _ amount source announce).silently.silently
  | removeExperience amount announce =>
    exact (Progress.resynced_removeExperience _ _ _ _ amount announce).silently.silently
  | addSkillTries skill count =>
    exact (Progress.resynced_addTries _ _ _ _ (.skill skill) count).silently.silently
  | addManaSpent amount =>
    exact (Progress.resynced_addTries _ _ _ _ .magicLevel amount).silently.silently
  | addOfflineTries track tries =>
    exact (Progress.resynced_addOfflineTries _ _ _ _ track tries).silently.silently
  | blockHit => exact (Progress.resynced_onBlockHit _ _ _ _ s.arena).silently
  | attackBlocked block =>
    obtain ⟨_, _, _, h⟩ := Progress.character_onAttackBlocked s.character block
    have hscreen : (Progress.onAttackBlocked s.character block).screen = s.character.screen := by
      rw [h]
      rfl
    show s.character.screen.Resynced (Progress.onAttackBlocked s.character block).screen []
    rw [hscreen]
    exact .refl _
  | combatTick force =>
    exact (Passives.resynced_onCombatTick e.rules s.arena force _).silently.silently
  | enterFight pzLock => exact (Passives.resynced_addInFightTicks _ _ pzLock _).silently
  | triggerGiftOfLife damage => exact (resynced_triggerGiftOfLife damage).silently
  | applyDamage damage => exact (resynced_applyDamage damage).silently
  | die killer => exact (Death.resynced_resolve _ _ _ _ killer).silently.silently
  | addUnjustifiedKill target name =>
    exact (Standing.resynced_addUnjustifiedKill _ _ target name).silently
  | retaliation avenger => exact .refl _
  | attackPlayer target skull struckFirst =>
    exact (Standing.resynced_onAttackPlayer _ _ target skull struckFirst).silently
  | tick elapsed => exact (resynced_tick elapsed).silently

/-! ## Clients -/

/-- What a client shows after a course: after each operation it reads what it was told to read. -/
def watch (s : Situation σ τ) (shown : Screen) : Course σ τ → Screen
  | [] => shown
  | o :: course =>
    let told := o.1.operate s o.2
    watch told.value (shown.hear told.value.character.screen told.notices) course

theorem alike_watch (course : Course σ τ) (s : Situation σ τ) {shown : Screen}
    (hk : ∀ o ∈ course, o.1.hook.LeavesCharacter) (hshown : shown.Alike s.character.screen) :
    (watch s shown course).Alike (arrived s course).character.screen := by
  induction course generalizing s shown with
  | nil => exact hshown
  | cons o course ih =>
    have hone := resynced_operate (hk o List.mem_cons_self) s o.2
    exact ih _ (fun o ho => hk o (List.mem_cons_of_mem _ ho)) (hshown.hear hone)

/-- **Clients never show a stale value.**  With hooks that leave the character alone, an operation that changes
the panel of stats, the panel of skills, the skull or the blessings tells so, a skull with its new value;
and whoever reads again only what is told shows, after any course, what there is to show. -/
theorem never_stale :
    (∀ (e : Engine σ τ) (s : Situation σ τ) (o : Operation), e.hook.LeavesCharacter →
      let c := s.character
      let d := (e.operate s o).value.character
      let told := (e.operate s o).notices
      (¬ c.statsPanel.Alike d.statsPanel → .stats ∈ told) ∧
        (¬ c.skillsPanel.Alike d.skillsPanel → .skills ∈ told) ∧
        (d.reputation.skull ≠ c.reputation.skull → .skullChanged d.reputation.skull ∈ told) ∧
        (d.blessings ≠ c.blessings → .blessStatus ∈ told)) ∧
    ∀ (course : Course σ τ) (s : Situation σ τ), (∀ o ∈ course, o.1.hook.LeavesCharacter) →
      (watch s s.character.screen course).Alike (arrived s course).character.screen := by
  refine ⟨fun e s o hk => ?_, fun course s hk => alike_watch course s hk (.refl _)⟩
  intro c d told
  have hone : c.screen.Resynced d.screen told := resynced_operate hk s o
  have hskull : c.reputation.skull.hear told = d.reputation.skull := hone.skull
  refine ⟨hone.stats.resolve_right, hone.skills.resolve_right, fun hchanged => ?_, fun hchanged => ?_⟩
  · rw [← hskull] at hchanged ⊢
    exact Skull.mem_of_hear_ne hchanged
  · exact hone.blessings.resolve_right fun hsame => hchanged hsame.symm

def duelist : Situation Unit Unit where
  wearer := { character := { id := ⟨1⟩, name := "Duelist" }, arena := .empty }
  hook := ()
  rates := ()

def firstBlow : Operation := .attackPlayer ⟨2⟩ .none false

/-- The duelist strikes a player first, and is struck. -/
def duel : Course Unit Unit := [(.plain {}, firstBlow), (.plain {}, .applyDamage 40)]

/-- The first blow tells the white skull; and what is shown after the duel is neither the skull nor the health
that was shown before it. -/
theorem never_stale_duel :
    .skullChanged .white ∈ ((Engine.plain {}).operate duelist firstBlow).notices ∧
    (watch duelist duelist.character.screen duel).Alike (arrived duelist duel).character.screen ∧
    (arrived duelist duel).character.reputation.skull ≠ duelist.character.reputation.skull ∧
    (arrived duelist duel).character.health ≠ duelist.character.health := by
  have hk : ∀ o ∈ duel, o.1.hook.LeavesCharacter := by
    intro o ho
    simp only [duel, List.mem_cons, List.not_mem_nil, or_false] at ho
    rcases ho with rfl | rfl <;> exact EquipHook.leavesCharacter_idle
  have hwhite : ((Engine.plain {}).operate duelist firstBlow).value.character.reputation.skull = .white := by
    decide +kernel
  obtain ⟨-, -, htold, -⟩ := never_stale.1 (.plain {}) duelist firstBlow EquipHook.leavesCharacter_idle
  rw [hwhite] at htold
  exact ⟨htold (by decide), never_stale.2 duel duelist hk, by decide +kernel, by decide +kernel⟩

end Engine

end Adventurer
