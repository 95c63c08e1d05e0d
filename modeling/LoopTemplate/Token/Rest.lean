import LoopTemplate.Text.Position

/-!
# The unread text

What is left to read, with the byte offset at which it begins, and automata that read it character
by character.
-/

namespace LoopTemplate.Token

/-- The unread text and its byte offset. -/
structure Rest where
  chars : List Char
  offset : Nat
deriving DecidableEq, Inhabited

namespace Rest

/-- The whole of a text. -/
def ofChars (chars : List Char) : Rest := ⟨chars, 0⟩

/-- The text after the given number of characters. -/
def drop (rest : Rest) : Nat → Rest
  | 0 => rest
  | count + 1 =>
      match rest with
      | ⟨[], offset⟩ => ⟨[], offset⟩
      | ⟨c :: chars, offset⟩ => drop ⟨chars, offset + c.utf8Size⟩ count

/-- The longest run of characters that satisfy a predicate, and the text after it. -/
def span (accept : Char → Bool) : List Char → Nat → List Char × Rest
  | [], offset => ([], ⟨[], offset⟩)
  | c :: chars, offset =>
      if accept c then
        let (run, rest) := span accept chars (offset + c.utf8Size)
        (c :: run, rest)
      else ([], ⟨c :: chars, offset⟩)

/-- The longest run of characters that satisfy a predicate, and the text after it. -/
def takeWhile (rest : Rest) (accept : Char → Bool) : List Char × Rest :=
  span accept rest.chars rest.offset

/-- The characters before a byte offset. -/
def upTo (stop : Nat) : List Char → Nat → List Char
  | [], _ => []
  | c :: chars, offset =>
      if offset < stop then c :: upTo stop chars (offset + c.utf8Size) else []

/-- The characters from here to where another text begins. -/
def before (rest : Rest) (later : Rest) : List Char :=
  upTo later.offset rest.chars rest.offset

/-- Whether the text begins with the given one. -/
def startsWith (rest : Rest) (text : String) : Bool :=
  text.toList.isPrefixOf rest.chars

end Rest

/-- What an automaton does on a character. -/
inductive Step (σ : Type) where
  /-- It goes on in a state. -/
  | next (state : σ)
  /-- The character was the last, and the reading ends in a state. -/
  | done (state : σ)
  /-- The reading ended before the character. -/
  | stop (state : σ)
  /-- The character cannot stand here. -/
  | refuse

/-- How the run of an automaton ends. -/
inductive Outcome (σ : Type) where
  | done (state : σ) (rest : Rest)
  | refused (rest : Rest)
  /-- The text ended first. -/
  | ended (state : σ) (rest : Rest)

/-- Runs an automaton over the text. -/
def run {σ : Type} (step : σ → Char → Step σ) : σ → List Char → Nat → Outcome σ
  | state, [], offset => .ended state ⟨[], offset⟩
  | state, c :: chars, offset =>
      match step state c with
      | .next state => run step state chars (offset + c.utf8Size)
      | .done state => .done state ⟨chars, offset + c.utf8Size⟩
      | .stop state => .done state ⟨c :: chars, offset⟩
      | .refuse => .refused ⟨c :: chars, offset⟩

/-- Runs an automaton over the text. -/
def Rest.run {σ : Type} (rest : Rest) (step : σ → Char → Step σ) (state : σ) : Outcome σ :=
  Token.run step state rest.chars rest.offset

end LoopTemplate.Token
