import LoopTemplate.CommandLine.Run
import LoopTemplate.Proofs.Compilation
import LoopTemplate.Proofs.Json.Record
import LoopTemplate.Service

/-!
# Blanks around an expression

The command compiles the expression in a file without the white space at the ends of the file, and
the service compiles the expression in a request as it is. So they need not place an error alike.
White space before the expression moves all that comes behind it, and an error at the end of the
text stands behind the white space that follows the expression.
-/

namespace LoopTemplate

open LoopTemplate.Json
  (Entries RecordField Value Yields compactChars compactFields decode decodeBoolean
  decodeName decodeString decodeVariant isGap_nil
  quote separated yields_decodeBoolean yields_decodeString yields_decodeVariant)
open LoopTemplate.Loop (MergePolicy Target decodePolicy decodeTarget)

/-! ## Requests -/

namespace Service

/-- The text of a request for an expression. -/
def expressionRequest (source : String) (target : Target) (policy : MergePolicy) (minify : Bool) :
    String :=
  Value.compact (.object [("source", .text source), ("target", .text target.name),
    ("policy", .text policy.name), ("expression", .boolean true), ("minify", .boolean minify)])

theorem decode_expressionRequest (source : String) (target : Target) (policy : MergePolicy)
    (minify : Bool) :
    decode Request.decoder (expressionRequest source target policy minify) =
      .ok ⟨source, target, none, policy, true, minify⟩ := by
  have targetRead : ∀ rest, Yields decodeTarget (quote target.name.toList ++ rest) target rest :=
    @yields_decodeVariant [] _ _ _ _ isGap_nil (by cases target <;> rfl)
  have policyRead : ∀ rest, Yields decodePolicy (quote policy.name.toList ++ rest) policy rest :=
    @yields_decodeVariant [] _ _ _ _ isGap_nil (by cases policy <;> rfl)
  have sourceRead : ∀ rest, Yields decodeString (quote source.toList ++ rest) source rest :=
    @yields_decodeString [] isGap_nil source
  have boolRead : ∀ (value : Bool) rest, Yields decodeBoolean
      ((if value then "true" else "false").toList ++ rest) value rest :=
    @yields_decodeBoolean [] isGap_nil
  have minifyEntry : Entries Request.fields false ["expression", "policy", "target", "source"]
      ⟨source, target, none, policy, true, false⟩ _ _ _ ['\x7d'] :=
    Entries.named "minify" isGap_nil rfl (by decide)
      ((boolRead minify _).map fun minify => Request.mk source target none policy true minify)
      (by simp) (.nil isGap_nil)
  have expressionEntry : Entries Request.fields false ["policy", "target", "source"]
      ⟨source, target, none, policy, false, false⟩ _ _ _ _ :=
    Entries.named "expression" isGap_nil rfl (by decide)
      ((boolRead true _).map fun expression => Request.mk source target none policy expression
        false)
      (by simp) minifyEntry
  have policyEntry : Entries Request.fields false ["target", "source"]
      ⟨source, target, none, .flatten, false, false⟩ _ _ _ _ :=
    Entries.named "policy" isGap_nil rfl (by decide)
      ((policyRead _).map fun policy => Request.mk source target none policy false false)
      (by simp) expressionEntry
  have targetEntry : Entries Request.fields false ["source"]
      ⟨source, .ali, none, .flatten, false, false⟩ _ _ _ _ :=
    Entries.named "target" isGap_nil rfl (by decide)
      ((targetRead _).map fun target => Request.mk source target none .flatten false false)
      (by simp) policyEntry
  have sourceEntry : Entries Request.fields true [] ⟨"", .ali, none, .flatten, false, false⟩
      _ _ _ _ :=
    Entries.named "source" isGap_nil rfl (by decide)
      ((sourceRead _).map fun source => Request.mk source .ali none .flatten false false)
      (by simp) targetEntry
  have complete : ∀ field ∈ Request.fields, field.required = true →
      field.name ∈ ["minify", "expression", "policy", "target", "source"] := by
    simp [Request.fields]
  apply Yields.decode_eq
  have yields := sourceEntry.yields_decodeRecord complete "CompileRequest"
  simpa [Request.decoder, expressionRequest, Value.compact, compactChars, compactFields,
    separated] using yields

/-- The answer to a request for an expression. -/
theorem handle_expressionRequest (source : String) (target : Target) (policy : MergePolicy)
    (minify : Bool) :
    handle (expressionRequest source target policy minify) =
      ((compileExpression ⟨target.adapter, policy, minify⟩ source).mapError
        CompileError.message).map Compiled.code := by
  have decoded := decode_expressionRequest source target policy minify
  have asked : (decode Request.decoder (expressionRequest source target policy minify)).mapError
      (·.message) = .ok ⟨source, target, none, policy, true, minify⟩ := by
    rw [decoded]
    rfl
  have adapted : Request.compileAdapter ⟨source, target, none, policy, true, minify⟩ =
      .ok target.adapter := rfl
  rw [handle, Loop.except_bind_of_ok asked, Request.run, Loop.except_bind_of_ok adapted]
  simp only [compile, if_true]
  generalize compileExpression ⟨target.adapter, policy, minify⟩ source = outcome
  cases outcome <;> rfl

end Service

/-! ## The command -/

namespace CommandLine

open LoopTemplate.Files (FileTree)

/-- The arguments that ask for the code of the expression in a file. -/
def expressionArguments (file : String) (target : Target) (policy : MergePolicy) (minify : Bool) :
    List String :=
  ["compile", "--expression", "--target", target.name, "--policy", policy.name] ++
    (if minify then ["--minify"] else []) ++ ["--", file]

theorem settle_file {settings : Settings} {file : String} (named : file ≠ "")
    (unset : settings.file = none) (escaped : Bool) :
    Reading.settle ⟨settings, some (.file, some file), escaped⟩ =
      .ok ⟨{ settings with file := some file }, none, escaped⟩ := by
  have nonempty : file.isEmpty = false := by simpa using named
  have free : settings.has .file = false := by simp [Settings.has, unset]
  have assigned : settings.assign .file (some file) = .ok { settings with file := some file } := by
    rw [Settings.assign, free]
    delta Settings.set
    simp [Setting.takesValue, nonempty]
  delta Reading.settle Reading.assign
  dsimp only
  rw [assigned]
  rfl

theorem parseArguments_expressionArguments {file : String} (named : file ≠ "") (target : Target)
    (policy : MergePolicy) (minify : Bool) :
    parseArguments (expressionArguments file target policy minify) =
      .ok ⟨.compile file target policy true minify, false⟩ := by
  have settled := settle_file named
    (rfl : Settings.file ⟨false, true, minify, some target, some policy, none⟩ = none) true
  have read : readArguments .compile .start (expressionArguments file target policy minify).tail =
      .ok ⟨false, true, minify, some target, some policy, some file⟩ := by
    cases target <;> cases policy <;> cases minify <;>
      exact congrArg (fun reading => reading.map Reading.settings) settled
  change readCommand .compile false (expressionArguments file target policy minify).tail = _
  rw [readCommand, read]
  rfl

/-- The answer of the command for an expression. -/
theorem run_expressionArguments {tree : FileTree} {directory file source : String}
    (named : file ≠ "")
    (read : tree.readText (Files.join directory file) = .ok source) (target : Target)
    (policy : MergePolicy) (minify : Bool) :
    run tree directory (expressionArguments file target policy minify) =
      match compileExpression ⟨target.adapter, policy, minify⟩ (Text.trim source) with
      | .ok compiled => ⟨0, withLineBreak compiled.code, "", tree⟩
      | .error error =>
          ⟨1, "", failureLine (CommandError.uncompiled file error).message, tree⟩ := by
  rw [run, parseArguments_expressionArguments named]
  have found : (tree.readText (Files.join directory file)).mapError (CommandError.unreadable file) =
      .ok source := by
    rw [read]
    rfl
  delta runCommand
  dsimp only
  rw [compileFile, Loop.except_bind_of_ok found, compileText, if_pos rfl]
  generalize compileExpression ⟨target.adapter, policy, minify⟩ (Text.trim source) = outcome
  cases outcome <;> rfl

/-- A file with the given text. -/
def fileWith (source : String) : FileTree :=
  ⟨[(["app"], .directory), (["app", "page.jsx"], .text source)]⟩

theorem readText_fileWith (source : String) :
    (fileWith source).readText (Files.join "/app" "page.jsx") = .ok source :=
  rfl

/-- The error of a text, and that of the text with line breaks before it. -/
theorem compileExpression_openElement :
    compileExpression ⟨Target.ali.adapter, .flatten, false⟩ "<View>" =
        .error (.parse "Unexpected token" ⟨1, 7⟩) ∧
      compileExpression ⟨Target.ali.adapter, .flatten, false⟩ "\n\n<View>" =
        .error (.parse "Unexpected token" ⟨3, 7⟩) := by
  decide +kernel

/-- The error of a text, and that of the text with line breaks behind it. -/
theorem compileExpression_openSum :
    compileExpression ⟨Target.ali.adapter, .flatten, false⟩ "x +" =
        .error (.parse "Unexpected token" ⟨1, 4⟩) ∧
      compileExpression ⟨Target.ali.adapter, .flatten, false⟩ "x +\n\n" =
        .error (.parse "Unexpected token" ⟨3, 1⟩) := by
  decide +kernel

/-- The command and the service place the error of one text in different lines, be the line
breaks before the expression or behind it. -/
theorem compile_misplaces_error :
    (run (fileWith "\n\n<View>") "/app"
        (expressionArguments "page.jsx" .ali .flatten false)).errors =
      "Error: Failed to compile page.jsx: parse error at 1:7: Unexpected token\n" ∧
    Service.handle (Service.expressionRequest "\n\n<View>" .ali .flatten false) =
      .error "parse error at 3:7: Unexpected token" ∧
    (run (fileWith "x +\n\n") "/app"
        (expressionArguments "page.jsx" .ali .flatten false)).errors =
      "Error: Failed to compile page.jsx: parse error at 1:4: Unexpected token\n" ∧
    Service.handle (Service.expressionRequest "x +\n\n" .ali .flatten false) =
      .error "parse error at 3:1: Unexpected token" := by
  have trimmed : Text.trim "\n\n<View>" = "<View>" ∧ Text.trim "x +\n\n" = "x +" := by
    decide_cbv
  refine ⟨?_, ?_, ?_, ?_⟩
  · rw [run_expressionArguments (by decide) (readText_fileWith _), trimmed.1,
      compileExpression_openElement.1]
    rfl
  · rw [Service.handle_expressionRequest, compileExpression_openElement.2]
    rfl
  · rw [run_expressionArguments (by decide) (readText_fileWith _), trimmed.2,
      compileExpression_openSum.1]
    rfl
  · rw [Service.handle_expressionRequest, compileExpression_openSum.2]
    rfl

end CommandLine

end LoopTemplate
