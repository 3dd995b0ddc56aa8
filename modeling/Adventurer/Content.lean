import Adventurer.Catalog
import Adventurer.Document.Content
import Adventurer.Markup.Ron.Parser
import Adventurer.Markup.Toml.Parser
import Adventurer.Number.Decimal

/-!
# Loading content

A world is loaded from three texts: its configuration, its item types and its vocations.  Each is
read and then checked; the first fault that is found is the one reported.
-/

namespace Adventurer

/-- What is wrong with a configuration that can be read. -/
inductive ConfigFault where
  | damageShare (share : Float)
  | fightFloor (percent : Nat)
  | blessing (index : Nat)
  | interval

/-- Why content is refused. -/
inductive ContentFault where
  /-- The text does not stand for content at all. -/
  | unreadable
  | config (fault : ConfigFault)
  | duplicateItem (id : ItemTypeId) (name : String)
  | unknownPromotion (name : String) (promotion : VocationId)
  | promotedIntoItself (name : String)

namespace ConfigFault

/-- What is shown of a fault. -/
def message : ConfigFault → String
  | damageShare share => "pvp_damage_share must lie in 0.0..=1.0, got " ++ Decimal.text share
  | fightFloor percent => "unfair_fight_floor is a percentage, got " ++ toString percent
  | blessing index =>
    "max_blessing " ++ toString index ++ " exceeds the " ++ toString Blessings.number
      ++ " tracked blessings"
  | interval => "passive_interval_ms must be positive"

end ConfigFault

namespace ContentFault

/-- What is shown of a fault; nothing of a text that cannot be read. -/
def message? : ContentFault → Option String
  | unreadable => none
  | config fault => some fault.message
  | duplicateItem id name =>
    some ("duplicate item type ItemTypeId(" ++ toString id.number ++ ") (" ++ name ++ ")")
  | unknownPromotion name promotion =>
    some ("vocation " ++ name ++ " promotes into unknown vocation VocationId("
      ++ toString promotion.number ++ ")")
  | promotedIntoItself name => some ("vocation " ++ name ++ " promotes into itself")

end ContentFault

/-- The fault of a configuration, if it has one. -/
def GameConfig.fault? (c : GameConfig) : Option ConfigFault :=
  if !(0.0 ≤ c.pvpDamageShare && c.pvpDamageShare ≤ 1.0) then some (.damageShare c.pvpDamageShare)
  else if 100 < c.unfairFightFloor then some (.fightFloor c.unfairFightFloor)
  else if Blessings.number < c.maxBlessing then some (.blessing c.maxBlessing)
  else if c.passiveIntervalMillis = 0 then some .interval
  else none

/-- The configuration of a text. -/
def GameConfig.parse (text : String) : Except ContentFault GameConfig :=
  match (Toml.parse? text).bind GameConfig.read? with
  | none => .error .unreadable
  | some config => match config.fault? with
    | some fault => .error (.config fault)
    | none => .ok config

/-- The first type whose number an earlier one has, among types that follow others. -/
def ItemType.firstDuplicate? (seen : List ItemTypeId) : List ItemType → Option ItemType
  | [] => none
  | type :: rest =>
    if type.id ∈ seen then some type else firstDuplicate? (type.id :: seen) rest

/-- A quiver holds ammunition like any other container. -/
def ItemType.withQuiverOpen (t : ItemType) : ItemType :=
  { t with container := t.container || t.quiver }

/-- The item types of a text. -/
def ItemCatalog.parse (text : String) : Except ContentFault ItemCatalog :=
  let types? : Option (List ItemType) := do
    let row ← Row.read? "ItemFile" ["items"] (← Ron.parse? text)
    row.required "items" (Markup.listOf? ItemType.read?)
  match types? with
  | none => .error .unreadable
  | some types => match ItemType.firstDuplicate? [] types with
    | some type => .error (.duplicateItem type.id type.name)
    | none => .ok (.ofList (types.map ItemType.withQuiverOpen))

/-- What is wrong with the promotion of a vocation, if anything. -/
def VocationTable.promotionFault? (t : VocationTable) (v : Vocation) : Option ContentFault :=
  v.promotion.bind fun promotion =>
    if (t.find? promotion).isNone then some (.unknownPromotion v.name promotion)
    else if promotion = v.id then some (.promotedIntoItself v.name)
    else none

/-- The vocations of a text. -/
def VocationTable.parse (text : String) : Except ContentFault VocationTable :=
  let vocations? : Option (List Vocation) := do
    let row ← Row.read? "VocationFile" ["vocations"] (← Ron.parse? text)
    row.required "vocations" (Markup.listOf? Vocation.read?)
  match vocations? with
  | none => .error .unreadable
  | some vocations =>
    let table := VocationTable.ofList vocations
    match table.toList.findSome? table.promotionFault? with
    | some fault => .error fault
    | none => .ok table

/-- The content of a world. -/
structure Content where
  config : GameConfig
  items : ItemCatalog
  vocations : VocationTable

/-- A file of a content folder. -/
inductive ContentFile where
  | config
  | items
  | vocations
  deriving DecidableEq, Repr

namespace ContentFile

/-- The name of a file. -/
def name : ContentFile → String
  | config => "config.toml"
  | items => "items.ron"
  | vocations => "vocations.ron"

/-- What is written in a file. -/
def title : ContentFile → String
  | config => "config TOML"
  | items => "item catalog RON"
  | vocations => "vocation table RON"

end ContentFile

/-- Why a content folder cannot be loaded. -/
inductive LoadFault where
  | missing (file : ContentFile)
  | refused (file : ContentFile) (fault : ContentFault)
  /-- The configuration names an item type that the catalog does not know. -/
  | unknownField (type : Nat)

/-- What is shown of a folder that cannot be loaded, up to what a file system or a grammar has to
say. -/
def LoadFault.message (folder : String) : LoadFault → String
  | missing file => "Failed to read file " ++ folder ++ "/" ++ file.name
  | refused file fault =>
    let place := "Failed to parse " ++ file.title ++ " " ++ folder ++ "/" ++ file.name
    fault.message?.elim place fun message => place ++ ": " ++ message
  | unknownField type =>
    "divine_empowerment_item " ++ toString type ++ " is not in " ++ ContentFile.items.name

namespace Content

/-- Reads one file of a folder. -/
def loadFile {α : Type} (folder : ContentFile → Option String) (file : ContentFile)
    (parse : String → Except ContentFault α) : Except LoadFault α :=
  match folder file with
  | none => .error (.missing file)
  | some text => (parse text).mapError (.refused file)

/-- Whether the item that feeds Divine Empowerment is in the catalog. -/
def checkField (config : GameConfig) (items : ItemCatalog) : Except LoadFault Unit :=
  match config.divineEmpowermentItem with
  | none => .ok ()
  | some type => if (items.find? ⟨type⟩).isSome then .ok () else .error (.unknownField type)

/-- Loads a folder; the configuration alone may be missing. -/
def load (folder : ContentFile → Option String) : Except LoadFault Content := do
  let config ← match folder .config with
    | none => pure {}
    | some _ => loadFile folder .config GameConfig.parse
  let items ← loadFile folder .items ItemCatalog.parse
  let vocations ← loadFile folder .vocations VocationTable.parse
  checkField config items
  return ⟨config, items, vocations⟩

end Content

end Adventurer
