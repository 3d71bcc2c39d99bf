import SeriesExport.Document
import SeriesExport.Time.Timestamp

/-! Cells of tables. -/
namespace SeriesExport
set_option autoImplicit false

inductive Cell where
  | missing
  | boolean (b : Bool)
  | integer (n : Int64)
  | real (x : Float)
  | text (s : String)
  | time (t : Instant)
  deriving Inhabited

namespace Cell

/-- Cells of one kind are compared by value, cells of two kinds are never equal. Real numbers are
compared as numbers, so an undefined one differs from itself. -/
def same : Cell → Cell → Bool
  | missing, missing => true
  | boolean a, boolean b => a == b
  | integer a, integer b => a == b
  | real a, real b => a == b
  | text a, text b => a == b
  | time a, time b => a == b
  | _, _ => false

instance : BEq Cell := ⟨same⟩

def number? : Cell → Option Float
  | integer n => some n.toFloat
  | real x => some x
  | _ => none

def isMissing : Cell → Bool
  | missing => true
  | _ => false

def document : Cell → Document
  | missing => .null
  | boolean b => .boolean b
  | integer n => .integer n.toInt
  | real x => .real x
  | text s => .text s
  | time t => .text (Timestamp.write "Z" t)

end Cell

abbrev Row := List Cell

end SeriesExport
