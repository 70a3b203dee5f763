/-! Inspection text as a tree, written on one line (`compact`) or spread over several (`pretty`).
Both forms come from the same tree, so they always show the same parts in the same order. -/
namespace BufferRental.Text

/-- `group` holds parts between two brackets. A `spaced` group keeps blanks inside its brackets
when it is written on one line; one with `more` says that some parts are left out. -/
inductive Shown where
  | atom (text : String)
  | labelled (label : String) (value : Shown)
  | group (opening closing : String) (spaced more : Bool) (parts : List Shown)

namespace Shown

def list (parts : List Shown) : Shown := .group "[" "]" false false parts

def tuple (parts : List Shown) : Shown := .group "(" ")" false false parts

def wrapped (name : String) (parts : List Shown) : Shown := .group (name ++ "(") ")" false false parts

def record (name : String) (fields : List (String × Shown)) : Shown :=
  .group (name ++ " \x7b") "\x7d" true false (fields.map fun (label, value) => .labelled label value)

def partialRecord (name : String) (fields : List (String × Shown)) : Shown :=
  .group (name ++ " \x7b") "\x7d" true true (fields.map fun (label, value) => .labelled label value)

def nat (n : Nat) : Shown := .atom (toString n)

def ellipsis : String := ".."

def enclose (opening closing : String) (spaced : Bool) (parts : List String) : String :=
  let blank := if spaced then " " else ""
  if parts.isEmpty then opening ++ closing
  else opening ++ blank ++ ", ".intercalate parts ++ blank ++ closing

mutual
def compact : Shown → String
  | .atom text => text
  | .labelled label value => label ++ ": " ++ value.compact
  | .group opening closing spaced more parts =>
    enclose opening closing spaced (compactParts parts ++ if more then [ellipsis] else [])

def compactParts : List Shown → List String
  | [] => []
  | part :: parts => part.compact :: compactParts parts
end

def indentation (depth : Nat) : String := String.ofList (List.replicate (4 * depth) ' ')

mutual
/-- The tree over several lines: every part of a group stands on lines of its own, indented one
level deeper than the group, which itself stands at `depth`. -/
def spread (depth : Nat) : Shown → String
  | .atom text => text
  | .labelled label value => label ++ ": " ++ value.spread depth
  | .group opening closing _ more parts =>
    let lines := spreadParts (depth + 1) parts ++
      if more then [indentation (depth + 1) ++ ellipsis ++ "\n"] else []
    if lines.isEmpty then opening ++ closing
    else opening ++ "\n" ++ String.join lines ++ indentation depth ++ closing

def spreadParts (depth : Nat) : List Shown → List String
  | [] => []
  | part :: parts => (indentation depth ++ part.spread depth ++ ",\n") :: spreadParts depth parts
end

def pretty (shown : Shown) : String := shown.spread 0

end Shown

end BufferRental.Text
