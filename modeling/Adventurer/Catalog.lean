import Adventurer.Collection.SortedMap
import Adventurer.Item.Kind
import Adventurer.Vocation

/-!
# Catalogs

The item types and vocations of a world by number.  A catalog of vocations always knows that of
fresh characters.
-/

namespace Adventurer

/-- Item types by number. -/
structure ItemCatalog where
  types : SortedMap ItemTypeId ItemType := .empty

namespace ItemCatalog

instance : Inhabited ItemCatalog := ⟨{}⟩

/-- Adds a type, over any of the same number. -/
def insert (c : ItemCatalog) (type : ItemType) : ItemCatalog := ⟨c.types.insert type.id type⟩

def ofList (types : List ItemType) : ItemCatalog := types.foldl insert {}

def find? (c : ItemCatalog) (id : ItemTypeId) : Option ItemType := c.types.find? id

/-- The types by ascending number. -/
def toList (c : ItemCatalog) : List ItemType := c.types.values

def size (c : ItemCatalog) : Nat := c.types.size

def isEmpty (c : ItemCatalog) : Bool := c.types.isEmpty

end ItemCatalog

/-- Vocations by number. -/
structure VocationTable where
  vocations : SortedMap VocationId Vocation

namespace VocationTable

/-- The table that knows fresh characters only. -/
def starting : VocationTable := ⟨SortedMap.empty.insert .none {}⟩

instance : Inhabited VocationTable := ⟨starting⟩

/-- Adds a vocation, over any of the same number. -/
def insert (t : VocationTable) (vocation : Vocation) : VocationTable :=
  ⟨t.vocations.insert vocation.id vocation⟩

/-- The starting table with vocations added one after the other. -/
def ofList (vocations : List Vocation) : VocationTable := vocations.foldl insert starting

def find? (t : VocationTable) (id : VocationId) : Option Vocation := t.vocations.find? id

/-- The vocations by ascending number. -/
def toList (t : VocationTable) : List Vocation := t.vocations.values

def size (t : VocationTable) : Nat := t.vocations.size

def isEmpty (t : VocationTable) : Bool := t.vocations.isEmpty

end VocationTable

end Adventurer
