import SeriesExport.Plan.Basic
import SeriesExport.Query.Basic

/-! The queries of one domain of a plan, compiled one at a time. Windowed items are gathered on the
way and share one query, which comes last unless one of them was refused. -/
namespace SeriesExport
set_option autoImplicit false

def windowedName : String := "windowed"

structure NamedQuery where
  name : String
  query : Query

structure Generator where
  buckets : Buckets
  items : List Item
  /-- The channels of the windowed items so far, once there was one. -/
  channels : Option ChannelList := none
  refused : Bool := false

namespace Generator

/-- The query of an item that has one of its own. -/
def compile (buckets : Buckets) (i : Item) : Except QueryError Query :=
  match i.exporter with
  | .raw => .series <$> SeriesQuery.compile buckets i.shape .all i
  | .changesOnly => .series <$> SeriesQuery.compile buckets i.shape .changes i
  | .discontinuitiesOnly =>
    .series <$> SeriesQuery.compile buckets i.shape (.discontinuities .standard) i
  | _ => .aggregate <$> AggregateQuery.compile buckets i.shape i

def gather (g : Generator) (i : Item) : Option QueryError × Generator :=
  let channels := g.channels.getD { buckets := g.buckets }
  match channels.add i.shape i with
  | .ok more => (none, { g with channels := some more })
  | .error e => (some e, { g with channels := some channels, refused := true })

def close (g : Generator) : Option (Except QueryError NamedQuery × Generator) :=
  let rest := { g with items := [], channels := none }
  match g.channels with
  | none => none
  | some channels =>
    if channels.channels.isEmpty || g.refused then none
    else
      some ((fun q => ⟨windowedName, .windowed q⟩) <$> WindowedQuery.ofChannels channels, rest)

/-- The next query, or the error in place of it, and what remains. -/
def next (g : Generator) : Option (Except QueryError NamedQuery × Generator) :=
  go g.items g
where
  go : List Item → Generator → Option (Except QueryError NamedQuery × Generator)
    | [], g => g.close
    | i :: rest, g =>
      if i.exporter.isWindowed then
        match g.gather i with
        | (some e, g) => some (.error e, { g with items := rest })
        | (none, g) => go rest g
      else
        some ((fun q => ⟨i.exportName, q⟩) <$> compile g.buckets i, { g with items := rest })

/-- At most the first `limit` queries. -/
def take : (limit : Nat) → Generator → List (Except QueryError NamedQuery)
  | 0, _ => []
  | limit + 1, g =>
    match g.next with
    | none => []
    | some (r, rest) => r :: take limit rest

end Generator

namespace Plan

def generator (buckets : Buckets) (p : Plan) (domain : String) : Generator :=
  { buckets, items := p.itemsOf domain }

/-- All queries of a domain: no more than one for each item. -/
def queries (buckets : Buckets) (p : Plan) (domain : String) :
    List (Except QueryError NamedQuery) :=
  (p.generator buckets domain).take ((p.itemsOf domain).length + 1)

end Plan
end SeriesExport
