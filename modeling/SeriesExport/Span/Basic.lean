import SeriesExport.Span.Error

/-! Time spans as asked for, with any of their fields left open, and as resolved. -/
namespace SeriesExport
set_option autoImplicit false

structure SpanSpec where
  start : Option Instant := none
  stop : Option Instant := none
  width : Option Duration := none
  windowCount : Option UInt32 := none
  windowWidth : Option Duration := none
  deriving DecidableEq, Inhabited

/-- Which window field of a span was computed from the other. -/
inductive WindowSource where
  | count | width
  deriving DecidableEq

structure Span where
  start : Instant
  stop : Instant
  width : Duration
  windowCount : UInt32
  windowWidth : Duration
  windowSource : WindowSource
  deriving DecidableEq

namespace Span

/-- Two spans are alike when they agree on everything but where their windows came from. -/
def Alike (a b : Span) : Prop :=
  a.start = b.start ∧ a.stop = b.stop ∧ a.width = b.width ∧ a.windowCount = b.windowCount ∧
    a.windowWidth = b.windowWidth

instance (a b : Span) : Decidable (a.Alike b) := by unfold Alike; infer_instance

theorem Alike.refl (a : Span) : a.Alike a := ⟨rfl, rfl, rfl, rfl, rfl⟩

theorem Alike.symm {a b : Span} (h : a.Alike b) : b.Alike a :=
  ⟨h.1.symm, h.2.1.symm, h.2.2.1.symm, h.2.2.2.1.symm, h.2.2.2.2.symm⟩

theorem Alike.trans {a b c : Span} (h : a.Alike b) (k : b.Alike c) : a.Alike c :=
  ⟨h.1.trans k.1, h.2.1.trans k.2.1, h.2.2.1.trans k.2.2.1, h.2.2.2.1.trans k.2.2.2.1,
    h.2.2.2.2.trans k.2.2.2.2⟩

/-- The request that names the bounds of a span and the window field that was given. -/
def toSpec (s : Span) : SpanSpec :=
  match s.windowSource with
  | .count => { start := some s.start, stop := some s.stop, windowCount := some s.windowCount }
  | .width => { start := some s.start, stop := some s.stop, windowWidth := some s.windowWidth }

def display (s : Span) : String :=
  SpanError.writeInstant s.start ++ " .. " ++ SpanError.writeInstant s.stop ++ " (" ++
    toString s.windowCount.toNat ++ " x " ++ s.windowWidth.literal ++ ")"

end Span
end SeriesExport
