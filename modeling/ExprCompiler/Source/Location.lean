import ExprCompiler.Text.Display

set_option autoImplicit false

namespace ExprCompiler

-- Lines and columns count from 1, offsets from 0. A location given by hand may hold any integers.
structure Location where
  file : String
  line : Int
  column : Int
  offset : Int
deriving DecidableEq, Repr

namespace Location

def text (place : Location) : String :=
  s!"{place.file}:{place.line}:{place.column}"

def details (place : Location) : String :=
  let file := Text.quoted place.file
  s!"SourceLocation({file}, {place.line}, {place.column}, {place.offset})"

def shift (place : Location) (count : Nat) : Location :=
  { place with column := place.column + count, offset := place.offset + count }

end Location

-- From the first character to the place just past the last one.
structure Span where
  start : Location
  stop : Location
deriving DecidableEq, Repr

namespace Span

def text (span : Span) : String :=
  if span.start.file = span.stop.file then
    s!"{span.start.text}-{span.stop.line}:{span.stop.column}"
  else s!"{span.start.text}-{span.stop.text}"

-- Where the offsets tie, `left` gives the place.
def hull (left right : Span) : Span where
  start := if left.start.offset ≤ right.start.offset then left.start else right.start
  stop := if right.stop.offset ≤ left.stop.offset then left.stop else right.stop

def join : Option Span → Option Span → Option Span
  | some left, some right => some (hull left right)
  | _, _ => none

end Span

end ExprCompiler
