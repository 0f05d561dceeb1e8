import FilterQuery.Filter.Clause
import FilterQuery.Key.Table
import FilterQuery.Query.Reading

/-!
# Compiling queries

A tree is compiled against a key table: each leaf becomes the filter of its key's rule, a
conjunction asks for all of its terms and a disjunction for one of its operands. A node with one
operand compiles to that operand and a group to what stands in it, so redundant parentheses leave no
trace.
-/

namespace FilterQuery

namespace KeyTable

def compileLeaf (table : KeyTable) (key value : String) : Except Fault Filter :=
  match table.rule? key with
  | some rule => rule.compile key value
  | none => .error (.unknownKey key table.names)

mutual

/-- The clause of a term. -/
def compileTerm (table : KeyTable) : Term → Except Fault Clause
  | .leaf key value => do return .filter (← table.compileLeaf key value)
  | .group inner => do return .joinAny (← table.compileOperands inner)

def compileTerms (table : KeyTable) : Conjunction → Except Fault (List Clause)
  | .one term => do return [← table.compileTerm term]
  | .and term rest => do
    let clause ← table.compileTerm term
    return clause :: (← table.compileTerms rest)

def compileOperands (table : KeyTable) : Disjunction → Except Fault (List Clause)
  | .one operand => do return [.joinAll (← table.compileTerms operand)]
  | .or operand rest => do
    let clauses ← table.compileTerms operand
    return .joinAll clauses :: (← table.compileOperands rest)

end

/-- The clause of a whole query. The first leaf without a filter decides the fault. -/
def compile (table : KeyTable) (tree : Disjunction) : Except Fault Clause := do
  return .joinAny (← table.compileOperands tree)

end KeyTable

/-- A key table with the nesting limit of the queries it compiles. -/
structure Compiler where
  keys : KeyTable := .builtin
  maxDepth : Nat := defaultMaxDepth

namespace Compiler

def compileQuery (compiler : Compiler) (query : String) : Except Fault Clause := do
  compiler.keys.compile (← Disjunction.ofQuery compiler.maxDepth query)

end Compiler

end FilterQuery
