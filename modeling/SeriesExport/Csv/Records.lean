/-! Records of comma-separated text. Lines without any character are no records; a cell in quotes may
hold commas, line ends and quotes written twice; whatever follows its closing quote still belongs to
it. -/
namespace SeriesExport.Csv
set_option autoImplicit false

inductive Place where
  | lineStart
  | cellStart
  | plain
  | quoted
  /-- After a quote inside a quoted cell. -/
  | afterQuote
  deriving DecidableEq

/-- A record that is being read: its place, the cell so far and the cells before, both in reverse. -/
structure Draft where
  place : Place := .lineStart
  cell : List Char := []
  cells : List String := []

namespace Draft

def closeCell (p : Draft) : List String := String.ofList p.cell.reverse :: p.cells

def record (p : Draft) : List String := p.closeCell.reverse

def isLineEnd (c : Char) : Bool := c == '\n' || c == '\r'

/-- A character outside quotes: it ends the cell or the record, or belongs to the cell. -/
def plainStep (p : Draft) (c : Char) : Draft × Option (List String) :=
  if c = ',' then ({ place := .cellStart, cells := p.closeCell }, none)
  else if isLineEnd c then ({}, some p.record)
  else ({ p with place := .plain, cell := c :: p.cell }, none)

/-- One character further, with the record that it ends. -/
def step (p : Draft) (c : Char) : Draft × Option (List String) :=
  match p.place with
  | .lineStart =>
    if isLineEnd c then (p, none)
    else if c = '"' then ({ p with place := .quoted }, none)
    else p.plainStep c
  | .cellStart => if c = '"' then ({ p with place := .quoted }, none) else p.plainStep c
  | .plain => p.plainStep c
  | .quoted =>
    if c = '"' then ({ p with place := .afterQuote }, none)
    else ({ p with cell := c :: p.cell }, none)
  | .afterQuote =>
    if c = '"' then ({ p with place := .quoted, cell := c :: p.cell }, none)
    else p.plainStep c

end Draft

def recordsFrom (p : Draft) : List Char → List (List String)
  | [] => if p.place = .lineStart then [] else [p.record]
  | c :: cs =>
    match p.step c with
    | (q, some r) => r :: recordsFrom q cs
    | (q, none) => recordsFrom q cs

/-- The records of a text; a byte order mark in front is skipped. -/
def records (text : String) : List (List String) :=
  match text.toList with
  | '\ufeff' :: cs => recordsFrom {} cs
  | cs => recordsFrom {} cs

end SeriesExport.Csv
