import FilterQuery.Query.Tree
import FilterQuery.Text.Lines

/-!
# Query trees as text

The canonical text of a tree is a query that reads back as the tree. The listing shows one node a
line, indented by its level.
-/

namespace FilterQuery

mutual

/-- The canonical text of a term. -/
def Term.canonical : Term → String
  | .leaf key value => key ++ ":" ++ value
  | .group inner => "(" ++ inner.canonical ++ ")"

def Conjunction.canonical : Conjunction → String
  | .one term => term.canonical
  | .and term rest => term.canonical ++ " AND " ++ rest.canonical

def Disjunction.canonical : Disjunction → String
  | .one operand => operand.canonical
  | .or operand rest => operand.canonical ++ " OR " ++ rest.canonical

end

mutual

/-- The lines of a term at a level. -/
def Term.listingLines (level : Nat) : Term → List String
  | .leaf key value => [Text.indentation level ++ "Leaf(" ++ key ++ ":" ++ value ++ ")"]
  | .group inner =>
    (Text.indentation level ++ "Group") :: (Text.indentation (level + 1) ++ "Or") ::
      inner.operandLines (level + 2)

/-- The lines of the terms of a conjunction, all at one level. -/
def Conjunction.operandLines (level : Nat) : Conjunction → List String
  | .one term => term.listingLines level
  | .and term rest => term.listingLines level ++ rest.operandLines level

/-- The lines of the conjunctions of a disjunction, all at one level. -/
def Disjunction.operandLines (level : Nat) : Disjunction → List String
  | .one operand => (Text.indentation level ++ "And") :: operand.operandLines (level + 1)
  | .or operand rest =>
    (Text.indentation level ++ "And") :: operand.operandLines (level + 1) ++
      rest.operandLines level

end

def Disjunction.listingLines (tree : Disjunction) : List String :=
  "Or" :: tree.operandLines 1

def Disjunction.listing (tree : Disjunction) : String :=
  Text.unlines tree.listingLines

end FilterQuery
