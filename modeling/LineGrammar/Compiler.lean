import LineGrammar.Expression.Basic
import LineGrammar.Journal

/-!
# Compilers

A compiler keeps what it has compiled under the text of the expression, as long as the table of
types does not change. Each of its results bears a stamp, a number that no other result of the
compiler bears; so two results with one stamp are one result, compiled once.
-/

namespace LineGrammar

open LineGrammar.Text

/-- A compiled expression with the stamp of its compilation. -/
structure Stamped where
  stamp : Nat
  expression : Expression

/-- The results of a compiler, the version of the types that they hold for, and the next stamp. -/
structure Compiler where
  results : Table Stamped
  version : Nat
  next : Nat

namespace Compiler

/-- A compiler without results. -/
def fresh (types : TypeTable) : Compiler := ⟨.empty, types.version, 0⟩

/-- Drops all results when the types have changed. -/
def current (compiler : Compiler) (types : TypeTable) : Compiler :=
  if compiler.version = types.version then compiler
  else { compiler with results := .empty, version := types.version }

/-- Keeps a new result. -/
def keep (compiler : Compiler) (expression : Expression) : Compiler :=
  { compiler with
    results := compiler.results.insert expression.text ⟨compiler.next, expression⟩
    next := compiler.next + 1 }

/-- What is noted about a new result. -/
def noticeOf (expression : Expression) : String :=
  "Compiled " ++ quoted expression.text ++ " -> " ++ expression.pattern.source

/-- Compiles an expression, or answers the result that is kept for it. -/
def compile (types : TypeTable) (text : String) : Action Fault Compiler Stamped := do
  Action.modifyState (·.current types)
  let compiler ← Action.state
  match compiler.results.get? text with
  | some result => return result
  | none =>
    let expression ← Action.ofExcept (Expression.compile types text)
    Action.note .debug (noticeOf expression)
    Action.setState (compiler.keep expression)
    return ⟨compiler.next, expression⟩

end Compiler

end LineGrammar
