import Adventurer.Collection.SortedMap
import Adventurer.Host.Failure
import Adventurer.Host.Snapshot
import Adventurer.Markup.Json.Parser
import Adventurer.Markup.Json.Printer

/-!
# Stores of snapshots

Snapshots are kept by character, either as they are or as texts in a folder with one file for each
character.  What another hand has put into the folder is found again as it is, so loading can fail.
-/

namespace Adventurer

/-- What stands at a place in a folder. -/
inductive FolderEntry where
  | text (content : String)
  | folder
  deriving DecidableEq, Repr

/-- The place of each character's snapshot in a folder. -/
structure SnapshotFolder where
  entries : SortedMap CreatureId FolderEntry := .empty

namespace SnapshotFolder

/-- What stands at the place of a character. -/
def find? (f : SnapshotFolder) (id : CreatureId) : Option FolderEntry := f.entries.find? id

def exists_ (f : SnapshotFolder) (id : CreatureId) : Bool := (f.find? id).isSome

/-- Puts something at a place, over anything that is there. -/
def put (f : SnapshotFolder) (id : CreatureId) (entry : FolderEntry) : SnapshotFolder :=
  ⟨f.entries.insert id entry⟩

/-- Writes a snapshot; a folder in its place cannot be replaced. -/
def save (f : SnapshotFolder) (snapshot : Snapshot) : Except StoreFailure SnapshotFolder :=
  match f.find? snapshot.id with
  | some .folder => .error (.io "the place is taken by a folder")
  | _ => .ok (f.put snapshot.id (.text snapshot.toJson.pretty))

/-- The snapshot of a text. -/
def parse (id : CreatureId) (content : String) : Except StoreFailure Snapshot :=
  match (Json.Written.parse? content).bind Snapshot.read? with
  | none => .error (.json "no snapshot")
  | some snapshot =>
    if snapshot.id = id then .ok snapshot else .error (.mismatch id snapshot.id)

/-- Reads the snapshot of a character, if there is one. -/
def load (f : SnapshotFolder) (id : CreatureId) : Except StoreFailure (Option Snapshot) :=
  match f.find? id with
  | none => .ok none
  | some .folder => .error (.io "a folder cannot be read")
  | some (.text content) => (parse id content).map some

/-- Removes the snapshot of a character, if there is one. -/
def delete (f : SnapshotFolder) (id : CreatureId) : Except StoreFailure SnapshotFolder :=
  match f.find? id with
  | some .folder => .error (.io "a folder cannot be removed as a file")
  | _ => .ok ⟨f.entries.erase id⟩

end SnapshotFolder

/-- Snapshots kept as they are. -/
structure SnapshotMemory where
  snapshots : SortedMap CreatureId Snapshot := .empty

namespace SnapshotMemory

def save (m : SnapshotMemory) (snapshot : Snapshot) : SnapshotMemory :=
  ⟨m.snapshots.insert snapshot.id snapshot⟩

def load (m : SnapshotMemory) (id : CreatureId) : Option Snapshot := m.snapshots.find? id

def exists_ (m : SnapshotMemory) (id : CreatureId) : Bool := m.snapshots.contains id

def delete (m : SnapshotMemory) (id : CreatureId) : SnapshotMemory := ⟨m.snapshots.erase id⟩

end SnapshotMemory

/-- A store of either kind. -/
inductive Store where
  | memory (memory : SnapshotMemory)
  | folder (folder : SnapshotFolder)

namespace Store

/-- Keeps a snapshot, over any of the same character. -/
def save : Store → Snapshot → Except StoreFailure Store
  | memory m, snapshot => .ok (memory (m.save snapshot))
  | folder f, snapshot => (f.save snapshot).map folder

/-- The snapshot of a character, if one is kept. -/
def load : Store → CreatureId → Except StoreFailure (Option Snapshot)
  | memory m, id => .ok (m.load id)
  | folder f, id => f.load id

/-- Whether something is kept for a character. -/
def exists_ : Store → CreatureId → Bool
  | memory m, id => m.exists_ id
  | folder f, id => f.exists_ id

/-- Forgets the snapshot of a character. -/
def delete : Store → CreatureId → Except StoreFailure Store
  | memory m, id => .ok (memory (m.delete id))
  | folder f, id => (f.delete id).map folder

end Store

end Adventurer
