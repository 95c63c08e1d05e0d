import LoopTemplate.Compile
import LoopTemplate.Loop.Shape

/-!
# Project configurations

A project is configured by a name, a host or attributes of its own, a merge policy, and the
directories of its sources and its output.
-/

namespace LoopTemplate.Project

open LoopTemplate.Json (DecodeError Decoder RecordField Value decode decodeOptional decodeRecord
  decodeString)
open LoopTemplate.Loop (Adapter AdapterConfig AdapterError MergePolicy Target decodeAdapterConfig
  decodePolicy decodeTarget)

/-- The configuration of a project. -/
structure Config where
  name : String
  target : Target
  /-- Attributes that take the place of the host's. -/
  adapter : Option AdapterConfig
  policy : MergePolicy
  /-- The directory of the sources. -/
  src : String
  /-- The directory of the output. -/
  out : String
deriving DecidableEq, Inhabited

namespace Config

/-- A configuration with nothing but a name. -/
def ofName (name : String) : Config := ⟨name, .ali, none, .flatten, "src", "dist"⟩

/-- The fields of a configuration. -/
def fields : List (RecordField Config) :=
  [ { name := "name", required := true,
      read := fun config => return { config with name := ← decodeString } },
    { name := "target", required := false,
      read := fun config => return { config with target := ← decodeTarget } },
    { name := "adapter", required := false,
      read := fun config =>
        return { config with adapter := ← decodeOptional decodeAdapterConfig } },
    { name := "policy", required := false,
      read := fun config => return { config with policy := ← decodePolicy } },
    { name := "src", required := false,
      read := fun config => return { config with src := ← decodeString } },
    { name := "out", required := false,
      read := fun config => return { config with out := ← decodeString } } ]

/-- A configuration in JSON. -/
def decoder : Decoder Config := decodeRecord "Jsx2mpConfig" fields (ofName "")

/-- The configuration that a text gives. -/
def parse (text : String) : Except DecodeError Config := decode decoder text

/-- A configuration as it is written. -/
def toJson (config : Config) : Value :=
  .object ([("name", .text config.name), ("target", .text config.target.name)]
    ++ (match config.adapter with
      | some adapter => [("adapter", adapter.toJson)]
      | none => [])
    ++ [("policy", .text config.policy.name), ("src", .text config.src), ("out", .text config.out)])

/-- The attributes that the project compiles for. -/
def compileAdapter (config : Config) : Except AdapterError Adapter :=
  match config.adapter with
  | some adapter => Adapter.ofConfig adapter
  | none => .ok config.target.adapter

/-- How the sources of the project are compiled. -/
def compileOptions (config : Config) : Except AdapterError CompileOptions := do
  return ⟨← config.compileAdapter, config.policy, false⟩

/-- The directory inside the output directory: named for the host, or `custom`. -/
def outputName (config : Config) : String :=
  if config.adapter.isSome then "custom" else config.target.name

end Config

end LoopTemplate.Project
