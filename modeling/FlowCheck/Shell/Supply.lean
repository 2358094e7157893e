import FlowCheck.Shell.Script

/-!
# Supplies

What a command can read: some bytes and, behind them, perhaps a text that comes again and again
without end. A program that writes for ever gives such a supply, and so does a device that never
runs dry.
-/

namespace FlowCheck.Shell

/-- Some bytes, and a text behind them that is repeated for ever unless it is empty. -/
structure Supply where
  content : Bytes := []
  cycle : Bytes := []

namespace Supply

/-- Whether the supply never ends. -/
def isEndless (supply : Supply) : Bool :=
  !supply.cycle.isEmpty

/-- All bytes of a supply that ends. -/
def whole? (supply : Supply) : Option Bytes :=
  if supply.isEndless then none else some supply.content

/-- A text several times in a row. -/
def repeated (count : Nat) (text : Bytes) : Bytes :=
  (List.replicate count text).flatten

/-- The first bytes. -/
def take (supply : Supply) (count : Nat) : Bytes :=
  let missing := if supply.isEndless then count - supply.content.length else 0
  supply.content.take count ++
    (repeated (missing / supply.cycle.length + 1) supply.cycle).take missing

/-- What is left without the first bytes. -/
def drop (supply : Supply) (count : Nat) : Supply :=
  let turned := (count - supply.content.length) % supply.cycle.length
  ⟨supply.content.drop count, supply.cycle.drop turned ++ supply.cycle.take turned⟩

/-- A beginning that holds so many lines, or all there are. An endless supply may have too few. -/
def linesWithin? (supply : Supply) (count : Nat) : Option Bytes :=
  if supply.isEndless && !supply.cycle.contains '\n' then
    if count ≤ supply.content.count '\n' then some supply.content else none
  else some (supply.content ++
    if supply.isEndless then repeated (count - supply.content.count '\n') supply.cycle else [])

end Supply

end FlowCheck.Shell
