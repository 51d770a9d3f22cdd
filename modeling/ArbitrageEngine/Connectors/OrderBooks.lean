/-
# ArbitrageEngine.Connectors.OrderBooks -- cached order books and changes to them

The connectors keep one book for each execution token: two sorted lists of levels, the sequence
number the venue gave, and a status.  A change message names prices of one side with their new
sizes; size zero removes the price.  Payloads are modelled after their fields were parsed, and
`none` is a field that is missing or does not parse.

Prices and sizes are floats in the code; nothing here computes with them, so they are rationals.
-/
import ArbitrageEngine.Lib.Dict
import Mathlib.Algebra.Order.Field.Rat
import Mathlib.Data.List.Sort

namespace ArbitrageEngine.MarketData

open Lib

/-! ## Books -/

inductive MarketDataStatus
  | valid
  | invalid
  | stale
deriving DecidableEq, Repr

/-- `OrderBookLevel`. -/
structure Level where
  price : ℚ
  size : ℚ
deriving DecidableEq

/-- `OrderBook`.  A book that is built without a status is valid. -/
structure Book where
  bids : List Level
  asks : List Level
  sequence : Option ℤ := none
  status : MarketDataStatus := .valid
deriving DecidableEq

/-- A set of execution tokens. -/
abbrev TokenSet : Type := Dict String Unit

/-- Bids from the highest price down, equal prices in the order they came in. -/
def sortedBids (levels : List Level) : List Level :=
  levels.insertionSort fun a b => b.price ≤ a.price

/-- Asks from the lowest price up, equal prices in the order they came in. -/
def sortedAsks (levels : List Level) : List Level :=
  levels.insertionSort fun a b => a.price ≤ b.price

/-! ## Changes -/

inductive BookSide
  | bids
  | asks
deriving DecidableEq, Repr

/-- The sizes of a book by price, while changes are written to them. -/
structure Sizes where
  bids : Dict ℚ ℚ
  asks : Dict ℚ ℚ
deriving DecidableEq

namespace Sizes

/-- `{level.price: level.size for level in levels}`. -/
def byPrice (levels : List Level) : Dict ℚ ℚ :=
  levels.foldl (fun sizes level => sizes.set level.price level.size) Dict.empty

def ofBook (book : Book) : Sizes := ⟨byPrice book.bids, byPrice book.asks⟩

/-- One price of a side: a size that is not positive removes it. -/
def writePrice (sizes : Dict ℚ ℚ) (level : Level) : Dict ℚ ℚ :=
  if level.size ≤ 0 then sizes.erase level.price else sizes.set level.price level.size

def write (sizes : Sizes) (side : BookSide) (level : Level) : Sizes :=
  match side with
  | .bids => { sizes with bids := writePrice sizes.bids level }
  | .asks => { sizes with asks := writePrice sizes.asks level }

def levels (sizes : Dict ℚ ℚ) : List Level := sizes.entries.map fun entry => ⟨entry.1, entry.2⟩

def sortedBids (sizes : Sizes) : List Level := MarketData.sortedBids (levels sizes.bids)

def sortedAsks (sizes : Sizes) : List Level := MarketData.sortedAsks (levels sizes.asks)

end Sizes

end ArbitrageEngine.MarketData
