import SeriesExport.Query.Error

/-! Plans: items that share one time span, grouped by domain and strategy. -/
namespace SeriesExport
set_option autoImplicit false

/-- The items of one domain in the order of their strategies. -/
abbrev StrategyGroups := SortedMap Strategy (List Item)

structure Plan where
  groups : SortedMap String StrategyGroups := .empty
  span : Option Span := none
  /-- The tags on which all items agree. -/
  commonTags : Tags := .empty
  exportNames : List String := []
  deriving Inhabited

namespace Plan

def empty : Plan := {}

/-- The tags that are common once an item has joined: those of the first item, less what a later one
does not have with the same value. -/
def narrowTags (p : Plan) (i : Item) : Tags :=
  match p.span with
  | none => i.tags
  | some _ => p.commonTags.filter fun key value => i.tags.get? key == some value

def file (groups : SortedMap String StrategyGroups) (i : Item) : SortedMap String StrategyGroups :=
  groups.upsert i.domain fun g =>
    (g.getD .empty).upsert i.exporter fun items => items.getD [] ++ [i]

/-- Adds an item that has the span of the plan and a name of its own. -/
def add (p : Plan) (i : Item) : Except QueryError Plan := do
  if let some span := p.span then
    unless span.Alike i.span do throw (.spanMismatch span i.span)
  if p.exportNames.contains i.exportName then throw (.duplicateExportName i.exportName)
  return {
    groups := file p.groups i
    span := some (p.span.getD i.span)
    commonTags := p.narrowTags i
    exportNames := p.exportNames ++ [i.exportName] }

/-- The plan after an attempt to add an item, and what went wrong with it. -/
def offer (p : Plan) (i : Item) : Plan × Option QueryError :=
  match p.add i with
  | .ok q => (q, none)
  | .error e => (p, some e)

def addAll (p : Plan) (items : List Item) : Except QueryError Plan := items.foldlM add p

/-- Domains with at least one item, in increasing order. -/
def domains (p : Plan) : List String := p.groups.keys

def groupsOf (p : Plan) (domain : String) : Option StrategyGroups := p.groups.get? domain

/-- The items of a domain by strategy, and in order of addition within each. -/
def itemsOf (p : Plan) (domain : String) : List Item :=
  ((p.groupsOf domain).getD .empty).values.flatten

def size (p : Plan) : Nat := p.exportNames.length

def isEmpty (p : Plan) : Bool := p.exportNames.isEmpty

end Plan
end SeriesExport
