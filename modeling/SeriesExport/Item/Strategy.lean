import SeriesExport.Document

/-! How one series is exported. -/
namespace SeriesExport
set_option autoImplicit false

/-- The strategies, in the order in which a plan takes them. -/
inductive Strategy where
  | raw
  | changesOnly
  | discontinuitiesOnly
  | aggregateMean
  | aggregateSum
  | aggregateBand
  | aggregateCount
  | windowedMean
  | windowedSum
  | windowedBand
  | windowedCount
  deriving DecidableEq, Inhabited

namespace Strategy

def all : List Strategy :=
  [raw, changesOnly, discontinuitiesOnly, aggregateMean, aggregateSum, aggregateBand,
    aggregateCount, windowedMean, windowedSum, windowedBand, windowedCount]

def name : Strategy → String
  | raw => "RAW"
  | changesOnly => "CHANGES_ONLY"
  | discontinuitiesOnly => "DISCONTINUITIES_ONLY"
  | aggregateMean => "AGGREGATE_MEAN"
  | aggregateSum => "AGGREGATE_SUM"
  | aggregateBand => "AGGREGATE_BAND"
  | aggregateCount => "AGGREGATE_COUNT"
  | windowedMean => "WINDOWED_MEAN"
  | windowedSum => "WINDOWED_SUM"
  | windowedBand => "WINDOWED_BAND"
  | windowedCount => "WINDOWED_COUNT"

def ofName? (s : String) : Option Strategy := all.find? fun t => t.name == s

/-- Items of these strategies share one query. -/
def isWindowed : Strategy → Bool
  | windowedMean | windowedSum | windowedBand | windowedCount => true
  | _ => false

def isAggregate : Strategy → Bool
  | aggregateMean | aggregateSum | aggregateBand | aggregateCount => true
  | _ => false

def rank : Strategy → Nat
  | raw => 0
  | changesOnly => 1
  | discontinuitiesOnly => 2
  | aggregateMean => 3
  | aggregateSum => 4
  | aggregateBand => 5
  | aggregateCount => 6
  | windowedMean => 7
  | windowedSum => 8
  | windowedBand => 9
  | windowedCount => 10

theorem rank_injective {s t : Strategy} (h : s.rank = t.rank) : s = t := by
  cases s <;> cases t <;> first | rfl | exact absurd h (by decide)

instance : Ord Strategy := ⟨fun s t => compare s.rank t.rank⟩

instance : Std.TransOrd Strategy where
  eq_swap {s t} := @Std.OrientedCmp.eq_swap Nat compare _ s.rank t.rank
  isLE_trans {s t u} := @Std.TransCmp.isLE_trans Nat compare _ s.rank t.rank u.rank

instance : Std.LawfulEqOrd Strategy where
  compare_self {s} := @Std.ReflCmp.compare_self Nat compare _ s.rank
  eq_of_compare {s t} h :=
    rank_injective (@Std.LawfulEqCmp.eq_of_compare Nat compare _ s.rank t.rank h)

theorem ofName?_name (s : Strategy) : ofName? s.name = some s := by
  cases s <;> decide

/-- A strategy is given by its name, alone or as the name of the only entry of a record, with nothing
in it. -/
def ofDocument? (f : Format) : Document → Option Strategy
  | .text s => ofName? s
  | .record [(s, d)] => if Document.isNothing f d then ofName? s else none
  | _ => none

end Strategy
end SeriesExport
