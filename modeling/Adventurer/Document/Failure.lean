import Adventurer.Content
import Adventurer.Document.Request
import Adventurer.Host.Failure
import Adventurer.Rules

/-!
# Written failures

How clients are told why something has failed, and the results of requests that may fail.
-/

namespace Adventurer

/-- A failure by its code, its message and its severity. -/
def Json.ofFault {ε : Type} [Fault ε] (failure : ε) : Json :=
  .fields [("err", .text (Fault.code failure)), ("message", .text (Fault.message failure)),
    ("severity", .text (Fault.severity failure).word)]

/-- The result of a request that may fail. -/
def Json.ofResult {ε α : Type} [Fault ε] (item : α → Json) : Except ε α → Json
  | .ok value => .tagged "ok" (item value)
  | .error failure => .ofFault failure

/-- The fields by which clients are told why a store has failed.  What a file system or a grammar
has to say is left out. -/
def StoreFailure.toFields : StoreFailure → List (String × Json)
  | .lockPoisoned => [("err", .text "lock")]
  | .io _ => [("err", .text "io")]
  | .json _ => [("err", .text "json")]
  | f@(.mismatch expected found) =>
    [("err", .text "mismatch"), ("expected", expected.toJson), ("found", found.toJson),
      ("message", .text f.message)]

/-- The result of a request to a store. -/
def Json.ofStored {α : Type} (item : α → Json) : Except StoreFailure α → Json
  | .ok value => .tagged "ok" (item value)
  | .error failure => .fields failure.toFields

/-- The content of a text, or why there is none. -/
def Json.ofParsed {α : Type} (item : α → Json) : Except ContentFault α → Json
  | .ok value => .tagged "ok" (item value)
  | .error fault => match fault.message? with
    | none => .tagged "error" (.text "syntax")
    | some message => .fields [("error", .text "invalid"), ("message", .text message)]

/-- Reads a failed lookup. -/
def LookupError.read? (v : Json) : Option LookupError := do
  match ← v.arg? "kind" Markup.text? with
  | "items" => return .itemsNotAvailable
  | "vocations" => return .vocationsNotAvailable
  | "world" => return .worldNotAvailable
  | "item_type" => return .itemTypeNotFound (← v.argOr? "id" ⟨0⟩ ItemTypeId.read?)
  | "vocation" => return .vocationNotFound (← v.argOr? "id" ⟨0⟩ VocationId.read?)
  | "item" => return .itemNotFound (← v.argOr? "id" ⟨0, 0⟩ ItemId.named?)
  | _ => none

/-- Reads a failure of a host. -/
def HostFailure.read? (v : Json) : Option HostFailure := do
  match ← v.arg? "kind" Markup.text? with
  | "command" => return .commandChannelClosed
  | "character" => return .missingCharacter
  | "content" => return .missingContent
  | "equip" => return .equip (← v.arg? "equip" Worded.read?)
  | "lock" => return .store .lockPoisoned
  | "other" => return .content (← v.arg? "text" Markup.text?)
  | "logging" => return .logging (← v.arg? "text" Markup.text?)
  | _ => none

end Adventurer
