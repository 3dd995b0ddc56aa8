import Adventurer.Character.Basic

/-!
# Notices

What the rules tell the client, and computations that tell.  Notices are only written: no rule reads
back what it told.
-/

namespace Adventurer

/-- The kind of a text line. -/
inductive MessageClass where
  | eventAdvance
  | experienceGain
  | spectator
  | warning
  | status
  deriving DecidableEq, Repr

/-- Something a client has to show or to read again. -/
inductive Notice where
  /-- Health, mana, level, capacity or derived stats changed. -/
  | stats
  /-- Skill records or major stats changed. -/
  | skills
  | inventorySlot (slot : Slot) (item : Option ItemId)
  | text (kind : MessageClass) (line : String)
  | advance (track : Track) (before after : Nat)
  /-- A request was rejected. -/
  | cancel (code : String)
  | reLoginWindow (unfairFightReduction : Nat)
  | blessStatus
  | movedToTemple (place : Place)
  | skullChanged (skull : Skull)
  | unjustifiedPoints
  deriving DecidableEq, Repr

/-- A value together with the notices told on the way to it, first ones first. -/
structure Told (α : Type) where
  value : α
  notices : List Notice := []

namespace Told

variable {α β : Type}

/-- Tells one notice. -/
def tell (notice : Notice) : Told Unit := ⟨(), [notice]⟩

/-- Tells notices in order. -/
def tellAll (notices : List Notice) : Told Unit := ⟨(), notices⟩

instance : Monad Told where
  pure value := ⟨value, []⟩
  bind t next := ⟨(next t.value).value, t.notices ++ (next t.value).notices⟩

instance [Inhabited α] : Inhabited (Told α) := ⟨⟨default, []⟩⟩

instance : LawfulMonad Told := LawfulMonad.mk' Told
  (fun t => by cases t; simp [Functor.map])
  (fun a f => by simp [pure, bind])
  (fun t f g => by simp [bind])

@[simp] theorem value_pure (a : α) : (pure a : Told α).value = a := rfl

@[simp] theorem notices_pure (a : α) : (pure a : Told α).notices = [] := rfl

@[simp] theorem value_bind (t : Told α) (f : α → Told β) :
    (t >>= f).value = (f t.value).value := rfl

@[simp] theorem notices_bind (t : Told α) (f : α → Told β) :
    (t >>= f).notices = t.notices ++ (f t.value).notices := rfl

@[simp] theorem value_tell (n : Notice) : (tell n).value = () := rfl

@[simp] theorem notices_tell (n : Notice) : (tell n).notices = [n] := rfl

@[simp] theorem value_map (f : α → β) (t : Told α) : (f <$> t).value = f t.value := rfl

@[simp] theorem notices_map (f : α → β) (t : Told α) : (f <$> t).notices = t.notices := by
  show t.notices ++ [] = _
  simp

end Told

end Adventurer
