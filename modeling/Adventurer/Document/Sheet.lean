import Adventurer.Dressing.Wearer
import Adventurer.Host.Snapshot
import Adventurer.Markup.Json.Patch

/-!
# Sheets

A sheet lists everything about a character and its items part by part, so that what has changed from
one state to the next can be told by the names of the parts.
-/

namespace Adventurer

/-- Parts by name. -/
abbrev Sheet := List (String × Json)

namespace Sheet

/-- The fields of an object under names that begin with that of the object. -/
def spread (name : String) : Json → Sheet
  | .fields entries => entries.map fun e => (name ++ "." ++ e.1, e.2)
  | v => [(name, v)]

/-- The fields of a character that are listed part by part. -/
def groups : List String := ["combat", "passives", "progression", "reputation"]

def ofCharacter (c : Character) : Sheet :=
  match c.toJson with
  | .fields entries => entries.flatMap fun e => if e.1 ∈ groups then spread e.1 e.2 else [e]
  | _ => []

def ofWearer (w : Wearer) : Sheet := ofCharacter w.character ++ spread "arena" w.arena.toJson

/-- The parts that differ from those of an earlier sheet. -/
def changes (before after : Sheet) : Sheet :=
  after.filter fun e => !(before.lookup e.1).any e.2.same

end Sheet

end Adventurer
