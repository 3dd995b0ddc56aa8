import Adventurer.Document.Character

/-!
# Snapshots

A character with its items and the instant at which it was saved.  Scheduled actions are not part of
a snapshot.
-/

namespace Adventurer

open Markup IntWidth

/-- All that is needed to go on with a character. -/
structure Snapshot where
  character : Character
  arena : Arena
  savedAt : Instant

/-- The character of a snapshot. -/
def Snapshot.id (s : Snapshot) : CreatureId := s.character.id

variable {ν : Type} [Markup ν]

namespace Item

def read? (v : ν) : Option Item := do
  let row ← Row.read? "Item" ["type_id", "count", "charges", "contents"] v
  return {
    type := ← row.required "type_id" ItemTypeId.read?
    count := ← row.required "count" (count? natural32)
    charges := ← row.required "charges" (count? natural16)
    contents := ← row.required "contents" (listOf? ItemId.read?) }

def toJson (i : Item) : Json :=
  .fields [("type_id", i.type.toJson), ("count", .count i.count), ("charges", .count i.charges),
    ("contents", .ofList ItemId.toJson i.contents)]

end Item

namespace Cell

def read? (v : ν) : Option Cell := do
  match ← variant? v with
  | ("Occupied", some held) => do
    let row ← Row.read? "Occupied" ["generation", "item"] held
    return .occupied (← row.required "generation" (count? natural32))
      (← row.required "item" Item.read?)
  | ("Vacant", some held) => do
    let row ← Row.read? "Vacant" ["generation"] held
    return .vacant (← row.required "generation" (count? natural32))
  | _ => none

def toJson : Cell → Json
  | occupied generation item =>
    .tagged "Occupied" (.fields [("generation", .count generation), ("item", item.toJson)])
  | vacant generation => .tagged "Vacant" (.fields [("generation", .count generation)])

end Cell

namespace Arena

/-- Reads an arena; the cell vacated last is written last. -/
def read? (v : ν) : Option Arena := do
  let row ← Row.read? "Arena" ["entries", "free"] v
  let cells ← row.required "entries" (listOf? Cell.read?)
  let free ← row.required "free" (listOf? (count? natural32))
  return ⟨cells, free.reverse⟩

def toJson (a : Arena) : Json :=
  .fields [("entries", .ofList Cell.toJson a.cells), ("free", .ofList .count a.free.reverse)]

end Arena

namespace Snapshot

def read? (v : ν) : Option Snapshot := do
  let row ← Row.read? "Snapshot" ["character", "arena", "saved_at"] v
  return {
    character := ← row.required "character" Character.read?
    arena := ← row.required "arena" Arena.read?
    savedAt := ← row.required "saved_at" Instant.read? }

def toJson (s : Snapshot) : Json :=
  .fields [("character", s.character.toJson), ("arena", s.arena.toJson),
    ("saved_at", s.savedAt.toJson)]

end Snapshot

end Adventurer
