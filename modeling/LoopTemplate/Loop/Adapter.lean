import LoopTemplate.Text.Blank
import LoopTemplate.Text.Identifier

/-!
# Loop attributes

A template writes a loop as three attributes of an element: one holds the collection, one names the
item and one names the index. An adapter spells them for a host. It is only made by validation, so
that its names can always be written as attributes.
-/

namespace LoopTemplate.Loop

/-- What one of the three attributes is for. -/
inductive Role where
  | collection | item | index
deriving DecidableEq, Inhabited

namespace Role

/-- The role as messages name it. -/
def text : Role → String
  | collection => "collection"
  | item => "item-name"
  | index => "index-name"

end Role

/-- Why attribute names make no adapter. -/
inductive AdapterError where
  | missingRole (role : Role)
  | emptyRole (role : Role)
  | invalidName (role : Role) (name : String)
  | unknownTarget (name : String)
deriving DecidableEq, Inhabited

namespace AdapterError

/-- The wording of an error. -/
def message : AdapterError → String
  | missingRole role => "adapter is missing the " ++ role.text ++ " attribute"
  | emptyRole role => "adapter " ++ role.text ++ " attribute is empty"
  | invalidName role name =>
      "adapter " ++ role.text ++ " attribute `" ++ name ++ "` is not a valid attribute name"
  | unknownTarget name => "unknown target `" ++ name ++ "` (expected one of: ali, wechat)"

end AdapterError

/-! ## Attribute names -/

/-- Whether a character may begin a part of an attribute name. -/
def beginsAttributeName (c : Char) : Bool := Text.isAsciiLetter c || c == '_'

/-- Whether a character may stand in a part of an attribute name. -/
def continuesAttributeName (c : Char) : Bool :=
  Text.isAsciiLetter c || Text.isAsciiDigit c || c == '_' || c == '-'

/-- One part of an attribute name: a letter or underscore, then letters, digits, underscores and
dashes. -/
def isAttributePart : List Char → Bool
  | [] => false
  | c :: chars => beginsAttributeName c && chars.all continuesAttributeName

/-- An attribute name: one part, or two parts with a colon between them. -/
def isAttributeName (chars : List Char) : Bool :=
  match chars.dropWhile (· != ':') with
  | [] => isAttributePart chars
  | _ :: name => isAttributePart (chars.takeWhile (· != ':')) && isAttributePart name

/-- A name that can be written as an attribute. -/
abbrev ValidName := { name : String // isAttributeName name.toList = true }

/-- A name for a role, if it is a valid one. -/
def validateName (role : Role) (name : String) : Except AdapterError ValidName :=
  if (Text.trim name).isEmpty then .error (.emptyRole role)
  else if valid : isAttributeName name.toList = true then .ok ⟨name, valid⟩
  else .error (.invalidName role name)

/-! ## Adapters -/

/-- The attributes of one host. Each can be written as an attribute. -/
structure Adapter where
  collection : String
  item : String
  index : String
  collection_valid : isAttributeName collection.toList = true
  item_valid : isAttributeName item.toList = true
  index_valid : isAttributeName index.toList = true
deriving DecidableEq

/-- An adapter as it is configured: any role may be missing. -/
structure AdapterConfig where
  collection : Option String
  item : Option String
  index : Option String
deriving DecidableEq, Inhabited

namespace Adapter

/-- The adapter with given names, which are validated in order. -/
def ofNames (collection item index : String) : Except AdapterError Adapter := do
  let collection ← validateName .collection collection
  let item ← validateName .item item
  let index ← validateName .index index
  return {
    collection := collection.val
    item := item.val
    index := index.val
    collection_valid := collection.property
    item_valid := item.property
    index_valid := index.property }

/-- The name for a role, which must be there. -/
def requireRole (role : Role) : Option String → Except AdapterError String
  | some name => .ok name
  | none => .error (.missingRole role)

/-- The adapter that is configured. Missing roles are found before invalid names. -/
def ofConfig (config : AdapterConfig) : Except AdapterError Adapter := do
  let collection ← requireRole .collection config.collection
  let item ← requireRole .item config.item
  let index ← requireRole .index config.index
  ofNames collection item index

/-- The configuration that gives an adapter. -/
def toConfig (adapter : Adapter) : AdapterConfig :=
  ⟨some adapter.collection, some adapter.item, some adapter.index⟩

/-- The attributes of Alipay mini programs. -/
def ali : Adapter :=
  ⟨"a:for", "a:for-item", "a:for-index", by decide, by decide, by decide⟩

/-- The attributes of WeChat mini programs. -/
def wechat : Adapter :=
  ⟨"wx:for", "wx:for-item", "wx:for-index", by decide, by decide, by decide⟩

instance : Inhabited Adapter := ⟨ali⟩

end Adapter

/-! ## Targets -/

/-- The hosts that are known by name. -/
inductive Target where
  | ali | wechat
deriving DecidableEq, Inhabited

namespace Target

/-- The name of a host. -/
def name : Target → String
  | ali => "ali"
  | wechat => "wechat"

/-- The attributes of a host. -/
def adapter : Target → Adapter
  | ali => Adapter.ali
  | wechat => Adapter.wechat

/-- The host with a name or a second name of it. -/
def ofName? : String → Option Target
  | "ali" | "alipay" => some ali
  | "wechat" | "wx" => some wechat
  | _ => none

/-- The host that a text names, in any case and with white space around it. -/
def parse (text : String) : Except AdapterError Target :=
  match ofName? (Text.lowerAscii (Text.trim text)) with
  | some target => .ok target
  | none => .error (.unknownTarget text)

end Target

/-! ## Merge policies -/

/-- What an outer loop hands to its template of the names that inner loops bind. -/
inductive MergePolicy where
  /-- Names of inner loops are merged into every loop around them. -/
  | flatten
  /-- A loop hands over only the names of its own scope. -/
  | scoped
deriving DecidableEq, Inhabited

namespace MergePolicy

/-- The name of a policy. -/
def name : MergePolicy → String
  | .flatten => "flatten"
  | .scoped => "scoped"

/-- The policy with a name. -/
def ofName? : String → Option MergePolicy
  | "flatten" => some .flatten
  | "scoped" => some .scoped
  | _ => none

/-- The wording for a name that no policy has. -/
def unknownMessage (name : String) : String :=
  "unknown merge policy `" ++ name ++ "` (expected flatten or scoped)"

/-- The policy that a text names, in any case and with white space around it. -/
def parse (text : String) : Except String MergePolicy :=
  let name := Text.lowerAscii (Text.trim text)
  match ofName? name with
  | some policy => .ok policy
  | none => .error (unknownMessage name)

end MergePolicy

end LoopTemplate.Loop
