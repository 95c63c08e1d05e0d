import LoopTemplate.Loop.Names

/-!
# What a compilation reports
-/

namespace LoopTemplate.Loop

/-- A thing worth reporting. -/
inductive Event where
  /-- A list was rewritten, with `depth` loops open around it. -/
  | rewrote (item index : String) (captures : Names) (depth : Nat)
  /-- A call of `map` was left as it is. -/
  | skipped (offset : Nat)
  /-- The walk ended after the given number of rewritten lists. -/
  | finished (loops : Nat)
  | compiledExpression (collection : String)
  /-- A module with the given number of statements was compiled. -/
  | compiledModule (collection : String) (statements : Nat)
deriving DecidableEq, Inhabited

end LoopTemplate.Loop
