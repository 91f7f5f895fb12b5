/-!
# Self-describing data

The values in which structured data arrives and leaves: truth values, numbers, texts, lists and
records. A record says the name of each of its fields; a list may stand for a record whose fields
come in a known order.
-/

set_option autoImplicit false

namespace LayoutTracking

inductive Data where
  | null
  | bool (value : Bool)
  | integer (value : Int)
  /-- A number that is not written as an integer, even if its value is one. -/
  | real
  | text (value : String)
  | list (items : List Data)
  /-- Fields with different names. -/
  | record (fields : List (String × Data))
deriving Inhabited

namespace Data

/-- The values of the fields of the given names, from a record or from a list in that order. A
record may lack fields and have others. A list may stop early, but no earlier than after `least`
of them, and has no more. -/
def fields? (names : List String) (least : Nat) : Data → Option (List (Option Data))
  | .record fields => some (names.map fun name => List.lookup name fields)
  | .list items =>
    if least ≤ items.length ∧ items.length ≤ names.length then
      some (items.map some ++ List.replicate (names.length - items.length) none)
    else
      none
  | _ => none

def bool? : Data → Option Bool
  | .bool value => some value
  | _ => none

def text? : Data → Option String
  | .text value => some value
  | _ => none

def natural? (bound : Nat) : Data → Option Nat
  | .integer (.ofNat value) => if value < bound then some value else none
  | _ => none

def word32? (data : Data) : Option UInt32 := (data.natural? UInt32.size).map UInt32.ofNat

def word64? (data : Data) : Option UInt64 := (data.natural? UInt64.size).map UInt64.ofNat

def optional? {α : Type} (read? : Data → Option α) : Data → Option (Option α)
  | .null => some none
  | data => (read? data).map some

/-- The name of an alternative without contents: the name itself, or a record that gives the name
and null. -/
def alternative? : Data → Option String
  | .text name => some name
  | .record [(name, .null)] => some name
  | _ => none

def required? {α : Type} (read? : Data → Option α) (field : Option Data) : Option α :=
  field.bind read?

def given? {α : Type} (read? : Data → Option α) : Option Data → Option (Option α)
  | none => some none
  | some data => (read? data).map some

def ofOption {α : Type} (write : α → Data) : Option α → Data
  | none => .null
  | some value => write value

def ofWord (value : UInt32) : Data := .integer value.toNat

end Data

end LayoutTracking
