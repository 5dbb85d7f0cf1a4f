import Lintel.Rule

/-!
# The rule about nested blocks
-/

set_option autoImplicit false

namespace Lintel.Rule

/-- The kinds of blocks that the rule looks at. -/
def blockKinds : List NodeKind :=
  [.functionDef, .asyncFunctionDef, .classDef, .ifStmt, .forLoop, .asyncFor, .whileLoop, .tryStmt, .tryStar,
   .withStmt, .asyncWith, .matchStmt]

/-- A block is too deep when the number of blocks around it, itself included, exceeds the limit. -/
def maxNestingDepth : Rule where
  id := "max-nesting-depth"
  description := "Deeply nested blocks are hard to read and test"
  severity := .information
  onByDefault := true
  subscriptions := blockKinds
  parameters := [⟨"maxDepth", .integer, 5⟩]
  evaluate := fun node context =>
    .withInteger context "maxDepth" fun limit =>
      let depth := context.position.depth + 1
      if limit < depth then
        [context.findingAt "max-nesting-depth" .information node.extent
          s!"Deeply nested code (depth {depth})"]
      else []

end Lintel.Rule
