import LayoutTracking.Ron.Sequence

/-!
# Skipping values

A field that nobody asks for may hold any value at all, as long as it is written correctly and not
nested too deeply. This module reads over such a value. Its readers give the glyphs after it.
-/

set_option autoImplicit false

namespace LayoutTracking.Ron

abbrev Skipper := List Glyph → Option (List Glyph)

def Skipper.item (skip : Skipper) : Unit → Reader Unit :=
  fun _ glyphs => (skip glyphs).map fun rest => ((), rest)

def skipItems (close : Char) (skip : Skipper) : Skipper := fun glyphs =>
  (items close skip.item () glyphs).map (·.2)

def skipPair (skip : Skipper) : Skipper := fun glyphs => do
  skip (← colon? (← skip glyphs))

def skipField (skip : Skipper) : Skipper := fun glyphs => do
  let (_, rest) ← identifier? glyphs
  skip (← colon? rest)

/-- Whether what stands in parentheses is a tuple: it does not begin with an identifier and a
colon. Fails if nothing at all follows the identifier. -/
def isTuple? (glyphs : List Glyph) : Option Bool :=
  match identifier? glyphs with
  | none => some true
  | some (_, rest) => do
    match ← skipBlanks rest with
    | [] => none
    | next :: _ => return next != .char ':'

/-- Reads over what stands in parentheses. Nothing needs to stand there behind a name. The inner
skipper is that for the contents; without one these are nested too deeply. -/
def skipParenthesised (inner : Option Skipper) (glyphs : List Glyph) : Option (List Glyph) :=
  match glyphs with
  | .char '(' :: rest => do
    let tuple ← isTuple? (← skipBlanks rest)
    let inner ← inner
    skipItems ')' (if tuple then inner else skipField inner) rest
  | rest => some rest

/-- Reads over an optional value behind its `Some`, or over a value that implies it. -/
def skipOptional (implicitSome : Bool) (content : Skipper) (glyphs : List Glyph) :
    Option (List Glyph) := do
  match ← skipBlanks glyphs with
  | .char '(' :: rest =>
    let (_, rest) ← comma? (← content (← skipBlanks rest))
    literal? [')'] rest
  | rest => if implicitSome then content rest else none

def skipUnnamed (inner : Option Skipper) (glyphs : List Glyph) : Option (List Glyph) :=
  match glyphs with
  | .char '(' :: _ => skipParenthesised inner glyphs
  | .char '[' :: rest => inner.bind fun inner => skipItems ']' inner rest
  | .char '\x7b' :: rest => inner.bind fun inner => skipItems '\x7d' (skipPair inner) rest
  | .char '.' :: _ => skipFloat? glyphs
  | .char '"' :: _ | .char 'r' :: _ => (text? glyphs).map (·.2)
  | .char '\'' :: _ => skipCharacter? glyphs
  | .char c :: _ =>
    if isDecimal c || c == '+' || c == '-' then skipNumber? glyphs else none
  | _ => none

/-- Reads over any value. The skippers are those for the value of a `Some`, and for what stands
between marks. -/
def skipAny (implicitSome : Bool) (content : Skipper) (inner : Option Skipper) : Skipper :=
  fun glyphs =>
    match ["true", "false", "None", "inf", "-inf", "NaN"].findSome? (keyword? · glyphs),
        keyword? "Some" glyphs, literal? ['(', ')'] glyphs, identifier? glyphs with
    | some rest, _, _, _ => some rest
    | none, some rest, _, _ => skipOptional implicitSome content rest
    | none, none, some rest, _ => some rest
    | none, none, none, some (_, rest) => do skipParenthesised inner (← skipBlanks rest)
    | none, none, none, none => skipUnnamed inner glyphs

/-- Reads over any value that is nested no deeper than given. A `Some` takes one level; marks take
one themselves, and each item between them another. -/
def skipValue (implicitSome : Bool) : Nat → Skipper
  | 0 => skipAny implicitSome (fun _ => none) none
  | 1 => skipAny implicitSome (skipValue implicitSome 0) (some fun _ => none)
  | depth + 2 =>
    skipAny implicitSome (skipValue implicitSome (depth + 1)) (some (skipValue implicitSome depth))

end LayoutTracking.Ron
