import LoopTemplate.Compile
import LoopTemplate.Loop.Shape
import LoopTemplate.Text.Split

/-!
# Compile requests

A request is a JSON record with a source and how to compile it; the response is one line of JSON.
The service answers its whole input as one request, or every line of it as a request of its own.
-/

namespace LoopTemplate.Service

open LoopTemplate.Json (Decoder RecordField Value decode decodeBoolean decodeOptional decodeRecord
  decodeString)
open LoopTemplate.Loop (Adapter AdapterConfig MergePolicy Target decodeAdapterConfig decodePolicy
  decodeTarget)

/-- A source and how to compile it. -/
structure Request where
  source : String
  target : Target
  /-- Attributes that take the place of the host's. -/
  adapter : Option AdapterConfig
  policy : MergePolicy
  /-- The source is one expression and not a module. -/
  expression : Bool
  minify : Bool
deriving DecidableEq, Inhabited

namespace Request

/-- The fields of a request. -/
def fields : List (RecordField Request) :=
  [ { name := "source", required := true,
      read := fun request => return { request with source := ← decodeString } },
    { name := "target", required := false,
      read := fun request => return { request with target := ← decodeTarget } },
    { name := "adapter", required := false,
      read := fun request =>
        return { request with adapter := ← decodeOptional decodeAdapterConfig } },
    { name := "policy", required := false,
      read := fun request => return { request with policy := ← decodePolicy } },
    { name := "expression", required := false,
      read := fun request => return { request with expression := ← decodeBoolean } },
    { name := "minify", required := false,
      read := fun request => return { request with minify := ← decodeBoolean } } ]

/-- A request in JSON. -/
def decoder : Decoder Request :=
  decodeRecord "CompileRequest" fields ⟨"", .ali, none, .flatten, false, false⟩

/-- The attributes that a request asks for. -/
def compileAdapter (request : Request) : Except String Adapter :=
  match request.adapter with
  | some adapter => (Adapter.ofConfig adapter).mapError (·.message)
  | none => .ok request.target.adapter

/-- The code that a request asks for, or why there is none. -/
def run (request : Request) : Except String String := do
  let adapter ← request.compileAdapter
  let options : CompileOptions := ⟨adapter, request.policy, request.minify⟩
  let compiled ← (compile options request.expression request.source).mapError (·.message)
  return compiled.code

end Request

/-- The code that the text of a request asks for, or why there is none. -/
def handle (text : String) : Except String String := do
  let request ← (decode Request.decoder text).mapError (·.message)
  request.run

/-- A response as it is written. -/
def responseJson : Except String String → Value
  | .ok code => .object [("ok", .boolean true), ("code", .text code)]
  | .error message => .object [("ok", .boolean false), ("error", .text message)]

/-- The line that answers the text of a request. -/
def respond (text : String) : String := (responseJson (handle text)).compact ++ "\n"

/-! ## Input line by line -/

/-- The requests in an input, one a line without the blanks around it; blank lines are passed. -/
def requestsOf (input : String) : List String :=
  ((Text.pieces '\n' input.toList).map fun line => Text.trim (String.ofList line)).filter
    fun request => !request.isEmpty

/-- The answers to all lines of an input. -/
def respondToLines (input : String) : String :=
  String.join ((requestsOf input).map respond)

/-- Whether the arguments ask for one answer a line. -/
def isLineMode (arguments : List String) : Bool := arguments.contains "--daemon"

/-- What the service prints, given its arguments and its input. -/
def run (arguments : List String) (input : String) : String :=
  if isLineMode arguments then respondToLines input else respond input

end LoopTemplate.Service
