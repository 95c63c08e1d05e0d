import LoopTemplate.Json.Literal
import LoopTemplate.Json.Value

/-!
# Strings that are written and read again

Every text in quotes is read back as it was, whatever characters it holds, and it holds no control
character as it is written. What a decoder reads is said by `Yields`, from the text before it to the
text behind; such statements are put together as the decoders are.
-/

namespace LoopTemplate.Json

/-! ## Decoders that succeed -/

/-- Whether a decoder that stands before a text yields a value and then stands before the rest. -/
def Yields {α : Type} (decoder : Decoder α) (text : List Char) (value : α) (rest : List Char) :
    Prop :=
  ∀ place, ∃ after, decoder.run.run ⟨text, place⟩ = (.ok value, ⟨rest, after⟩)

section Composition

variable {α β : Type} {first : Decoder α} {later : α → Decoder β} {value : α} {result : β}
  {text middle rest : List Char}

theorem run_bind_of_ok {reader after : Reader} (done : first.run.run reader = (.ok value, after)) :
    (first >>= later).run.run reader = (later value).run.run after := by
  rw [ExceptT.run_bind, StateT.run_bind, done]
  rfl

theorem yields_pure (value : α) (text : List Char) : Yields (pure value) text value text :=
  fun place => ⟨place, rfl⟩

theorem Yields.bind (firstYields : Yields first text value middle)
    (laterYields : Yields (later value) middle result rest) :
    Yields (first >>= later) text result rest := by
  intro place
  obtain ⟨between, firstDone⟩ := firstYields place
  obtain ⟨after, laterDone⟩ := laterYields between
  exact ⟨after, by rw [run_bind_of_ok firstDone, laterDone]⟩

/-- A value that was read is changed. -/
theorem Yields.map (yields : Yields first text value rest) (change : α → β) :
    Yields (first >>= fun value => pure (change value)) text (change value) rest :=
  yields.bind (yields_pure (change value) rest)

end Composition

theorem yields_eat (c : Char) (rest : List Char) : Yields eat (c :: rest) () rest :=
  fun place => ⟨place.advance c, rfl⟩

theorem yields_next? (c : Char) (rest : List Char) : Yields next? (c :: rest) (some c) rest :=
  fun place => ⟨place.advance c, rfl⟩

theorem yields_readWord (word rest : List Char) :
    Yields (readWord word) (word ++ rest) () rest := by
  induction word with
  | nil => exact yields_pure () rest
  | cons c word ih =>
      rw [readWord]
      refine (yields_next? c (word ++ rest)).bind ?_
      simpa using ih

/-! ## Characters in quotes -/

/-- Whether a text takes the reader of a string from one state to another. -/
def Passes (state : StringState) (text : List Char) (reached : StringState) : Prop :=
  ∀ rest place, ∃ after, runString true state (text ++ rest) place =
    runString true reached rest after

section Passing

variable {state middle reached : StringState}

theorem passes_nil (state : StringState) : Passes state [] state := fun _ place => ⟨place, rfl⟩

theorem Passes.cons {c : Char} {text : List Char} (step : state.step true c = .next middle)
    (passes : Passes middle text reached) : Passes state (c :: text) reached := by
  intro rest place
  obtain ⟨after, done⟩ := passes rest (place.advance c)
  refine ⟨after, ?_⟩
  rw [List.cons_append, runString, step]
  exact done

theorem Passes.append {text more : List Char} (passes : Passes state text middle)
    (later : Passes middle more reached) : Passes state (text ++ more) reached := by
  intro rest place
  obtain ⟨between, done⟩ := passes (more ++ rest) place
  obtain ⟨after, laterDone⟩ := later rest between
  exact ⟨after, by rw [List.append_assoc, done, laterDone]⟩

end Passing

theorem hexDigit?_digitChar {value : Nat} (small : value < 16) :
    hexDigit? (Nat.digitChar value) = some value := by
  revert value
  decide

theorem utf8Size_digitChar {value : Nat} (small : value < 16) :
    (Nat.digitChar value).utf8Size = 1 := by
  revert value
  decide

/-- A digit of a code unit that has more digits. -/
theorem step_unit {taken value digit : Nat} {c : Char} {chars : List Char} (size : c.utf8Size = 1)
    (hex : hexDigit? c = some digit) (more : taken + 1 < 4) :
    StringState.step true ⟨.unit none taken (some value), chars⟩ c =
      .next ⟨.unit none (taken + 1) (some (value * 16 + digit)), chars⟩ := by
  simp [StringState.step, size, hex, more]

/-- A character below the printed ones is read back from its code point. -/
theorem passes_codePoint {c : Char} (control : c.toNat < 32) (chars : List Char) :
    Passes ⟨.plain, chars⟩
      ['\\', 'u', '0', '0', Nat.digitChar (c.toNat / 16), Nat.digitChar (c.toNat % 16)]
      ⟨.plain, c :: chars⟩ := by
  have highSmall : c.toNat / 16 < 16 := by omega
  have lowSmall : c.toNat % 16 < 16 := by omega
  have whole : c.toNat / 16 * 16 + c.toNat % 16 = c.toNat := by omega
  have plain : ¬ 0xDC00 ≤ c.toNat ∧ ¬ 0xD800 ≤ c.toNat := by omega
  have zero : hexDigit? '0' = some 0 := rfl
  refine .cons rfl (.cons rfl ?_)
  refine .cons (step_unit rfl zero (by decide)) (.cons (step_unit rfl zero (by decide)) ?_)
  refine .cons (step_unit (utf8Size_digitChar highSmall) (hexDigit?_digitChar highSmall)
    (by decide)) ?_
  refine .cons ?_ (passes_nil _)
  simp [StringState.step, StringState.pushUnit, StringState.push, utf8Size_digitChar lowSmall,
    hexDigit?_digitChar lowSmall, whole, plain]

theorem passes_escapeChar (c : Char) (chars : List Char) :
    Passes ⟨.plain, chars⟩ (escapeChar c) ⟨.plain, c :: chars⟩ := by
  have simple : ∀ escape, escape ≠ 'u' → simpleEscape? escape = some c →
      Passes ⟨.plain, chars⟩ ['\\', escape] ⟨.plain, c :: chars⟩ := by
    intro escape other stands
    refine .cons rfl (.cons ?_ (passes_nil _))
    simp [StringState.step, other, stands, StringState.push]
  have known : ∀ code, c.toNat = code → some (Char.ofNat code) = some c := by
    rintro code rfl
    rw [Char.ofNat_toNat]
  unfold escapeChar
  split
  case isTrue quote => exact simple _ (by decide) (by rw [quote]; rfl)
  split
  case isTrue backslash => exact simple _ (by decide) (by rw [backslash]; rfl)
  split
  case isTrue backspace => exact simple _ (by decide) (known _ backspace)
  split
  case isTrue tab => exact simple _ (by decide) (known _ tab)
  split
  case isTrue lineFeed => exact simple _ (by decide) (known _ lineFeed)
  split
  case isTrue formFeed => exact simple _ (by decide) (known _ formFeed)
  split
  case isTrue carriageReturn => exact simple _ (by decide) (known _ carriageReturn)
  split
  case isTrue control => exact passes_codePoint control chars
  case isFalse notQuote notBackslash _ _ _ _ _ printed =>
    refine .cons ?_ (passes_nil _)
    simp [StringState.step, notQuote, notBackslash, printed, StringState.push]

theorem passes_escaped (text chars : List Char) :
    Passes ⟨.plain, chars⟩ (text.flatMap escapeChar) ⟨.plain, text.reverse ++ chars⟩ := by
  induction text generalizing chars with
  | nil => exact passes_nil _
  | cons c text ih =>
      rw [List.flatMap_cons, List.reverse_cons, List.append_assoc]
      exact (passes_escapeChar c chars).append (ih (c :: chars))

/-- A text in quotes is read back as it was. -/
theorem yields_readString (text rest : List Char) :
    Yields readString (quote text ++ rest) (String.ofList text) rest := by
  have inside : Yields (ExceptT.mk fun reader => runString true .start reader.chars reader.place)
      (text.flatMap escapeChar ++ '"' :: rest) text rest := by
    intro place
    obtain ⟨after, done⟩ := passes_escaped text [] ('"' :: rest) place
    refine ⟨after.advance '"', done.trans ?_⟩
    simp [runString, StringState.step]
  have shape : quote text ++ rest = '"' :: (text.flatMap escapeChar ++ '"' :: rest) := by
    simp [quote]
  rw [shape]
  exact (yields_eat '"' _).bind (inside.map String.ofList)

/-! ## Control characters -/

theorem le_toNat_digitChar {value : Nat} (small : value < 16) :
    32 ≤ (Nat.digitChar value).toNat := by
  revert value
  decide

/-- Inside quotes no control character is written, and so no line break. -/
theorem le_toNat_of_mem_escapeChar {c written : Char} (member : written ∈ escapeChar c) :
    32 ≤ written.toNat := by
  unfold escapeChar at member
  iterate 7
    split at member
    case isTrue =>
      simp only [List.mem_cons, List.not_mem_nil, or_false] at member
      rcases member with rfl | rfl <;> decide
  split at member
  case isTrue control =>
    simp only [List.mem_cons, List.not_mem_nil, or_false] at member
    rcases member with rfl | rfl | rfl | rfl | rfl | rfl
    iterate 4 decide
    · exact le_toNat_digitChar (by omega)
    · exact le_toNat_digitChar (by omega)
  case isFalse printed =>
    rw [List.mem_singleton.1 member]
    omega

theorem le_toNat_of_mem_quote {text : List Char} {written : Char} (member : written ∈ quote text) :
    32 ≤ written.toNat := by
  simp only [quote, List.cons_append, List.mem_cons, List.mem_append, List.mem_flatMap,
    List.not_mem_nil, or_false] at member
  rcases member with rfl | ⟨c, -, member⟩ | rfl
  · decide
  · exact le_toNat_of_mem_escapeChar member
  · decide

end LoopTemplate.Json
