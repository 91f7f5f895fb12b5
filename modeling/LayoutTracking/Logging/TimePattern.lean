import LayoutTracking.Time.Format

/-!
# Time patterns in paths

A path may hold time formats in braces behind `$TIME`. Each stands for the moment in that format.
They are resolved one after the other, so what one stands for may complete another, but no more
than five are resolved.
-/

set_option autoImplicit false

namespace LayoutTracking.TimePattern

def opening : List Char := "$TIME\x7b".toList

def closing : Char := '\x7d'

/-- How many patterns of a path are resolved. -/
def limit : Nat := 5

/-- The first pattern of a path, with what is before its opening and after its end. A pattern that
is not ended is none. -/
def first? : List Char → Option (List Char × List Char × List Char)
  | [] => none
  | c :: rest =>
    if opening.isPrefixOf (c :: rest) then
      let inside := (c :: rest).drop opening.length
      match inside.dropWhile (· != closing) with
      | [] => none
      | _ :: after => some ([], inside.takeWhile (· != closing), after)
    else
      (first? rest).map fun (front, pattern, after) => (c :: front, pattern, after)

/-- Resolves so many patterns, each time the first one that there is. There is no result where
the format in one of them cannot be read. -/
def expandWithin? (now : Moment) : Nat → List Char → Option (List Char)
  | 0, path => some path
  | count + 1, path =>
    match first? path with
    | none => some path
    | some (front, pattern, after) =>
      (TimeFormat.write? now pattern).bind fun text =>
        expandWithin? now count (front ++ text ++ after)

def expand? (now : Moment) (path : List Char) : Option (List Char) :=
  expandWithin? now limit path

end LayoutTracking.TimePattern
