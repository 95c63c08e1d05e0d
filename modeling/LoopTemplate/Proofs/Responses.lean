import LoopTemplate.Proofs.Json.Record
import LoopTemplate.Proofs.Text.Blank
import LoopTemplate.Service
import Mathlib.Data.List.Forall2

/-!
# Answers line by line

Every answer of the service is one line that holds one JSON object, with either the code or the
reason why there is none. Line by line, the service answers each line of its input that is not
blank with the same line with which it answers that line alone.
-/

namespace LoopTemplate.Service

open LoopTemplate.Json

/-! ## Responses as they are read -/

/-- A response as its reader sees it. -/
structure Response where
  ok : Bool
  code : Option String
  error : Option String
deriving DecidableEq, Inhabited

namespace Response

/-- Whether there is code. -/
def okField : RecordField Response :=
  { name := "ok", required := true,
    read := fun response => return { response with ok := ← decodeBoolean } }

/-- The code. -/
def codeField : RecordField Response :=
  { name := "code", required := false,
    read := fun response => return { response with code := ← decodeOptional decodeString } }

/-- Why there is no code. -/
def errorField : RecordField Response :=
  { name := "error", required := false,
    read := fun response => return { response with error := ← decodeOptional decodeString } }

/-- The fields of a response. -/
def fields : List (RecordField Response) := [okField, codeField, errorField]

/-- A response in JSON. -/
def decoder : Decoder Response := decodeRecord "CompileResponse" fields ⟨false, none, none⟩

/-- The response to an outcome: either the code or the reason why there is none. -/
def ofOutcome : Except String String → Response
  | .ok code => ⟨true, some code, none⟩
  | .error message => ⟨false, none, some message⟩

end Response

/-- An object with a truth value and a text is read field by field. -/
theorem yields_response (ok : Bool) (field : RecordField Response) {text : String}
    {filled : Response}
    (known : Response.fields.find? (fun other => other.name == field.name) = some field)
    (new : field.name ∉ ["ok"])
    (read : ∀ rest, Yields (field.read ⟨ok, none, none⟩) (quote text.toList ++ rest) filled rest) :
    Yields Response.decoder
      (compactChars (.object [("ok", .boolean ok), (field.name, .text text)])) filled [] := by
  have textEntry : Entries Response.fields false ["ok"] ⟨ok, none, none⟩
      (',' :: (quote field.name.toList ++ ':' :: (quote text.toList ++ ['\x7d'])))
      filled [field.name, "ok"] ['\x7d'] :=
    .cons isGap_nil known new (read _) (by simp) (.nil isGap_nil)
  have okRead : ∀ rest, Yields (Response.okField.read ⟨false, none, none⟩)
      ((if ok then "true" else "false").toList ++ rest) ⟨ok, none, none⟩ rest :=
    fun rest => (yields_decodeBoolean isGap_nil ok rest).map fun ok => Response.mk ok none none
  have okEntry : Entries Response.fields true [] ⟨false, none, none⟩
      (quote "ok".toList ++ ':' :: ((if ok then "true" else "false").toList ++
        ',' :: (quote field.name.toList ++ ':' :: (quote text.toList ++ ['\x7d']))))
      filled [field.name, "ok"] ['\x7d'] :=
    .cons isGap_nil rfl (by simp) (okRead _) (by simp) textEntry
  have complete : ∀ other ∈ Response.fields, other.required = true →
      other.name ∈ [field.name, "ok"] := by
    simp [Response.fields, Response.okField, Response.codeField, Response.errorField]
  have yields := okEntry.yields_decodeRecord complete "CompileResponse"
  have text_eq : compactChars (.object [("ok", .boolean ok), (field.name, .text text)]) =
      '\x7b' :: (quote "ok".toList ++ ':' :: ((if ok then "true" else "false").toList ++
        ',' :: (quote field.name.toList ++ ':' :: (quote text.toList ++ ['\x7d'])))) := by
    simp [compactChars, compactFields, separated]
  rw [text_eq]
  exact yields

/-- What is written as a response is read as that response. -/
theorem decode_compact_responseJson (outcome : Except String String) :
    decode Response.decoder (responseJson outcome).compact = .ok (.ofOutcome outcome) := by
  apply Yields.decode_eq
  rw [Value.compact, String.toList_ofList]
  cases outcome with
  | ok code =>
      have read : ∀ rest, Yields (Response.codeField.read ⟨true, none, none⟩)
          (quote code.toList ++ rest) ⟨true, some code, none⟩ rest := by
        intro rest
        exact (yields_optionalString isGap_nil code rest).map fun code => Response.mk true code none
      exact yields_response true Response.codeField rfl (by decide) read
  | error message =>
      have read : ∀ rest, Yields (Response.errorField.read ⟨false, none, none⟩)
          (quote message.toList ++ rest) ⟨false, none, some message⟩ rest := by
        intro rest
        exact (yields_optionalString isGap_nil message rest).map fun error =>
          Response.mk false none error
      exact yields_response false Response.errorField rfl (by decide) read

/-! ## Lines -/

theorem mem_separated {separator : List Char} {pieces : List (List Char)} {c : Char}
    (member : c ∈ separated separator pieces) : c ∈ separator ∨ ∃ piece ∈ pieces, c ∈ piece := by
  fun_induction separated separator pieces with
  | case1 => cases member
  | case2 piece => exact .inr ⟨piece, by simp, member⟩
  | case3 piece pieces more ih =>
      simp only [List.mem_append] at member
      rcases member with (inPiece | inSeparator) | later
      · exact .inr ⟨piece, by simp, inPiece⟩
      · exact .inl inSeparator
      · refine (ih later).imp_right ?_
        rintro ⟨other, among, inside⟩
        exact ⟨other, List.mem_cons_of_mem _ among, inside⟩

/-- On one line a value is written without control characters, and so without line breaks. -/
theorem le_toNat_of_mem_compactChars :
    (∀ value, ∀ c ∈ compactChars value, 32 ≤ c.toNat) ∧
      ∀ fields, ∀ piece ∈ compactFields fields, ∀ c ∈ piece, 32 ≤ c.toNat := by
  apply compactChars.mutual_induct
  case case1 =>
    intro value c member
    exact le_toNat_of_mem_quote member
  case case2 =>
    intro value c member
    cases value with
    | true =>
        have letters : c ∈ ['t', 'r', 'u', 'e'] := member
        simp only [List.mem_cons, List.not_mem_nil, or_false] at letters
        rcases letters with rfl | rfl | rfl | rfl <;> decide
    | false =>
        have letters : c ∈ ['f', 'a', 'l', 's', 'e'] := member
        simp only [List.mem_cons, List.not_mem_nil, or_false] at letters
        rcases letters with rfl | rfl | rfl | rfl | rfl <;> decide
  case case3 =>
    intro fields fieldsPrinted c member
    simp only [compactChars, List.cons_append, List.mem_cons, List.mem_append, List.not_mem_nil,
      or_false] at member
    rcases member with rfl | inside | rfl
    · decide
    · rcases mem_separated inside with comma | ⟨piece, among, inPiece⟩
      · rw [List.mem_singleton.1 comma]
        decide
      · exact fieldsPrinted piece among c inPiece
    · decide
  case case4 => simp [compactFields]
  case case5 =>
    intro name value fields valuePrinted fieldsPrinted piece among c inside
    rw [compactFields, List.mem_cons] at among
    rcases among with rfl | later
    · simp only [List.mem_append, List.mem_singleton] at inside
      rcases inside with (inName | rfl) | inValue
      · exact le_toNat_of_mem_quote inName
      · decide
      · exact valuePrinted c inValue
    · exact fieldsPrinted piece later c inside

/-! ## Requests -/

theorem pieces_eq_splitOn (separator : Char) (chars : List Char) :
    Text.pieces separator chars = chars.splitOn separator := by
  rw [List.splitOn_eq_splitOnP]
  induction chars with
  | nil => rfl
  | cons c chars ih =>
      rw [Text.pieces, List.splitOnP_cons_eq_if_modifyHead, ← ih]
      simp only [beq_iff_eq]
      split
      case isTrue => rfl
      case isFalse =>
        split
        case h_1 empty => exact absurd empty (Text.pieces_ne_nil separator chars)
        case h_2 piece rest found => rw [found, List.modifyHead_cons]

/-- The lines of an input that are not blank, without the white space at their ends. -/
def requestLines (input : String) : List String :=
  ((input.toList.splitOn '\n').filter fun line => !line.all Text.isBlank).map fun line =>
    Text.trim (String.ofList line)

theorem requestsOf_eq (input : String) : requestsOf input = requestLines input := by
  simp only [requestsOf, requestLines, pieces_eq_splitOn, List.filter_map, Function.comp_def,
    Text.isEmpty_trim, String.toList_ofList]

/-! ## Line by line -/

/-- A line that holds a JSON object with either the code that a request asks for or the reason why
there is none. -/
structure IsResponse (request line : String) : Prop where
  unbroken : ∀ c ∈ line.toList, c ≠ '\n' ∧ c ≠ '\r'
  object : line.toList.head? = some '\x7b'
  either : (∃ code, handle request = .ok code ∧
      decode Response.decoder line = .ok ⟨true, some code, none⟩) ∨
    ∃ message, handle request = .error message ∧
      decode Response.decoder line = .ok ⟨false, none, some message⟩

theorem isResponse_compact (request : String) :
    IsResponse request (responseJson (handle request)).compact where
  unbroken c member := by
    rw [Value.compact, String.toList_ofList] at member
    have printed := le_toNat_of_mem_compactChars.1 _ c member
    constructor
    · rintro rfl
      revert printed
      decide
    · rintro rfl
      revert printed
      decide
  object := by
    rw [Value.compact, String.toList_ofList]
    cases handle request <;> rfl
  either := by
    rw [decode_compact_responseJson]
    cases handle request with
    | ok code => exact .inl ⟨code, rfl, rfl⟩
    | error message => exact .inr ⟨message, rfl, rfl⟩

/-- Line by line, the service answers the lines that are not blank one after the other, each with
one line: the line that it prints if the request is its whole input. Each answer is a JSON object
with either the code or the reason why there is none. -/
theorem run_line_by_line {arguments others : List String} (lineMode : "--daemon" ∈ arguments)
    (whole : "--daemon" ∉ others) (input : String) :
    ∃ lines : List String,
      run arguments input = String.join (lines.map (· ++ "\n")) ∧
      List.Forall₂ (fun request line => run others request = line ++ "\n" ∧ IsResponse request line)
        (requestLines input) lines := by
  have byLine : isLineMode arguments = true := by simpa [isLineMode] using lineMode
  have atOnce : isLineMode others = false := by simpa [isLineMode] using whole
  refine ⟨(requestLines input).map fun request => (responseJson (handle request)).compact, ?_, ?_⟩
  · rw [run, byLine, if_pos rfl, respondToLines, requestsOf_eq, List.map_map]
    rfl
  · rw [List.forall₂_map_right_iff, List.forall₂_same]
    intro request _
    refine ⟨?_, isResponse_compact request⟩
    rw [run, atOnce]
    rfl

/-- Of four lines, of which two are blank, two are answered. -/
theorem run_line_by_line_twoRequests :
    "--daemon" ∈ ["--daemon"] ∧ "--daemon" ∉ ([] : List String) ∧
      requestLines "\n\x7b\x7d\r\n \t\r\n  [\"a\" " = ["\x7b\x7d", "[\"a\""] ∧
      ∃ first second,
        run ["--daemon"] "\n\x7b\x7d\r\n \t\r\n  [\"a\" " =
          String.join [first ++ "\n", second ++ "\n"] ∧
        (run [] "\x7b\x7d" = first ++ "\n" ∧ IsResponse "\x7b\x7d" first) ∧
        run [] "[\"a\"" = second ++ "\n" ∧ IsResponse "[\"a\"" second := by
  have lineMode : "--daemon" ∈ ["--daemon"] := by decide
  have whole : "--daemon" ∉ ([] : List String) := by decide
  have requests : requestLines "\n\x7b\x7d\r\n \t\r\n  [\"a\" " = ["\x7b\x7d", "[\"a\""] := by
    decide_cbv
  obtain ⟨lines, printed, answered⟩ :=
    run_line_by_line lineMode whole "\n\x7b\x7d\r\n \t\r\n  [\"a\" "
  rw [requests] at answered
  obtain ⟨first, rest, firstAnswer, restAnswered, rfl⟩ := List.forall₂_cons_left_iff.1 answered
  obtain ⟨second, rest, secondAnswer, noneAnswered, rfl⟩ :=
    List.forall₂_cons_left_iff.1 restAnswered
  obtain rfl := List.forall₂_nil_left_iff.1 noneAnswered
  exact ⟨lineMode, whole, requests, first, second, printed, firstAnswer, secondAnswer⟩

end LoopTemplate.Service
