import LoopTemplate.Json.Decode
import LoopTemplate.Json.Value
import LoopTemplate.Loop.Adapter

/-!
# Adapters, hosts and policies in JSON
-/

namespace LoopTemplate.Loop

open LoopTemplate.Json (Decoder RecordField Value decodeOptional decodeRecord decodeString
  decodeVariant)

/-- A host by one of its names. -/
def decodeTarget : Decoder Target :=
  decodeVariant [("ali", .ali), ("alipay", .ali), ("wechat", .wechat), ("wx", .wechat)]

/-- A policy by its name. -/
def decodePolicy : Decoder MergePolicy :=
  decodeVariant [("flatten", .flatten), ("scoped", .scoped)]

/-- The fields of a configured adapter. -/
def adapterFields : List (RecordField AdapterConfig) :=
  [ { name := "collection", required := false,
      read := fun config => return { config with collection := ← decodeOptional decodeString } },
    { name := "item", required := false,
      read := fun config => return { config with item := ← decodeOptional decodeString } },
    { name := "index", required := false,
      read := fun config => return { config with index := ← decodeOptional decodeString } } ]

/-- An adapter as it is configured. -/
def decodeAdapterConfig : Decoder AdapterConfig :=
  decodeRecord "AdapterConfig" adapterFields ⟨none, none, none⟩

/-- A field that is written if it has a value. -/
def optionalField (name : String) (value : Option String) : List (String × Value) :=
  match value with
  | some text => [(name, .text text)]
  | none => []

/-- A configured adapter as it is written: roles that are missing are left out. -/
def AdapterConfig.toJson (config : AdapterConfig) : Value :=
  .object (optionalField "collection" config.collection ++ optionalField "item" config.item
    ++ optionalField "index" config.index)

end LoopTemplate.Loop
