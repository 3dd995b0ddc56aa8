import Adventurer.Progress.Level
import Adventurer.Progress.Rates
import Adventurer.Progress.Walk

/-!
# Gains and losses of progress

Experience, skill tries and spent mana pass through the rates, are booked on the ledger and are told
to the client.  Every booking reads the percent of its track anew.
-/

namespace Adventurer.Progress

variable {σ : Type}

/-- A line that announces an advance. -/
def advanceLine (line : String) : Notice := .text .eventAdvance line

/-- Nothing booked. -/
def unchanged (c : Character) (s : σ) : Told (Booked σ) := pure ⟨c, s, 0⟩

/-- The lines for each level of a track from the one after `before` up to `after`. -/
def levelLines (line : Nat → String) (before after : Nat) : List Notice :=
  (List.range' (before + 1) (after - before)).map fun level => advanceLine (line level)

/-- Books `amount` on a track with a requirement curve.  The booking is refused where the curve is
flat, and cancelled where the rates leave nothing of it.  What has changed is told as `resync`. -/
def bookTries (rates : Rates σ) (track : Track) (require : Nat → Nat) (start : Footing)
    (percent : Float) (write : Footing → Float → Character) (line : Nat → String) (resync : Notice)
    (c : Character) (amount : Nat) (s : σ) : Told (Booked σ) :=
  if require start.level < require (start.level + 1) then
    let (amount, s) := rates.tries c track amount s
    if amount = 0 then unchanged c s
    else do
      let arrived := start.advance require amount
      let newPercent := arrived.percent require
      let c := write arrived newPercent
      let gained := arrived.level - start.level
      if 0 < gained then
        Told.tellAll (levelLines line start.level arrived.level)
        Told.tell (.advance track start.level arrived.level)
      let s := if 0 < gained then rates.onAdvance c track start.level arrived.level s else s
      if 0 < gained || percent != newPercent then Told.tell resync
      pure ⟨c, s, gained⟩
  else unchanged c s

/-- Adds tries to a skill. -/
def addSkillTries (rules : Rules) (rates : Rates σ) (c : Character) (skill : Skill) (count : Nat)
    (s : σ) : Told (Booked σ) :=
  if c.flags.has .notGainSkill then unchanged c s
  else match rules.vocationOf? c with
    | none => unchanged c s
    | some vocation =>
      let record := c.skill skill
      let write (f : Footing) (percent : Float) : Character :=
        { c with progress := c.progress.setSkill skill ⟨f.level, f.count, percent⟩ }
      bookTries rates (.skill skill) (vocation.skillTries skill) ⟨record.level, record.tries⟩
        record.percent write
        (fun level => "You advanced to " ++ skill.title ++ " level " ++ toString level ++ ".")
        .skills c count s

/-- Adds spent mana toward the next magic level. -/
def addManaSpent (rules : Rules) (rates : Rates σ) (c : Character) (amount : Nat) (s : σ) :
    Told (Booked σ) :=
  if c.flags.has .notGainMana then unchanged c s
  else match rules.vocationOf? c with
    | none => unchanged c s
    | some vocation =>
      let write (f : Footing) (percent : Float) : Character :=
        { c with
          progress :=
            { c.progress with
              magicLevel := f.level, manaSpent := f.count, magicLevelPercent := percent } }
      bookTries rates .magicLevel vocation.manaRequired
        ⟨c.progress.magicLevel, c.progress.manaSpent⟩ c.progress.magicLevelPercent write
        (fun level => "You advanced to magic level " ++ toString level ++ ".")
        .stats c amount s

/-- The two lines that announce experience gained or lost. -/
def announceExperience (announce : Bool) (c : Character) (verb : String) (amount : Nat) :
    Told Unit :=
  let rest := " " ++ verb ++ " " ++ toString amount ++ " experience points."
  if announce then
    Told.tellAll [.text .experienceGain ("You" ++ rest), .text .spectator (c.name ++ rest)]
  else pure ()

/-- Adds experience and the levels it reaches.  A new level refills health and mana. -/
def addExperience (rules : Rules) (rates : Rates σ) (c : Character) (amount : Nat)
    (source : Option CreatureId) (announce : Bool) (s : σ) : Told (Booked σ) :=
  if c.flags.has .notGainExperience then unchanged c s
  else if Character.threshold rules c.level < Character.threshold rules (c.level + 1) then
    let (amount, s) := rates.experience c source amount s
    if amount = 0 then unchanged c s
    else do
      let before := c.level
      let c := c.withExperience (addUpTo max64 c.progress.experience amount)
      announceExperience announce c "gained" amount
      let vocation := rules.vocationOf? c
      let c := c.ascendAll rules vocation
      let after := c.level
      if after = before then
        Told.tell .stats
        pure ⟨c.withLevelPercent (c.freshLevelPercent rules), s, 0⟩
      else
        let c := { c with health := c.health.refill, mana := c.mana.refill }
        let c := c.updateBaseSpeed vocation
        Told.tell (advanceLine
          ("You advanced from Level " ++ toString before ++ " to Level " ++ toString after ++ "."))
        Told.tell (.advance .level before after)
        let s := rates.onAdvance c .level before after s
        Told.tell .stats
        pure ⟨c.withLevelPercent (c.freshLevelPercent rules), s, after - before⟩
  else do
    Told.tell .stats
    pure ⟨c.withLevelPercent 0.0, s, 0⟩

/-- Tells that levels were lost and reports the loss to the rates. -/
def reportDowngrade (rates : Rates σ) (c : Character) (before : Nat) (s : σ) : Told σ := do
  let after := c.level
  if after < before then
    Told.tell (advanceLine
      ("You were downgraded from Level " ++ toString before ++ " to Level " ++ toString after
        ++ "."))
    Told.tell (.advance .level before after)
    pure (rates.onAdvance c .level before after s)
  else pure s

/-- Takes experience and the levels it no longer covers.  Health and mana are cut down to their new
maximum and not refilled. -/
def removeExperience (rules : Rules) (rates : Rates σ) (c : Character) (amount : Nat)
    (announce : Bool) (s : σ) : Told (Booked σ) :=
  if c.progress.experience = 0 || amount = 0 then unchanged c s
  else
    let (amount, s) := rates.loss c amount s
    if amount = 0 then unchanged c s
    else do
      let held := c.progress.experience
      let before := c.level
      let c := c.withExperience (held - amount)
      announceExperience announce c "lost" (held - c.progress.experience)
      let c := c.dropLevels rules (rules.vocationOf? c) true
      let s ← reportDowngrade rates c before s
      Told.tell .stats
      pure ⟨c, s, before - c.level⟩

end Adventurer.Progress
