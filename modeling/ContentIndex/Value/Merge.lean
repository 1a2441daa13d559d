import ContentIndex.Text.Split
import ContentIndex.Value.Key

/-!
# Nested dictionaries

A dotted path looks up one key after the other and ends at the first one that is missing. Merging
keeps the order of the base; where both sides hold a dictionary they are merged, elsewhere the
override wins.
-/

namespace ContentIndex.Value

set_option autoImplicit false

def lookup? : Value → List String → Option Value
  | v, [] => some v
  | v, key :: rest =>
    match v.entries? with
    | some entries =>
      match Entries.findText? entries key with
      | some w => lookup? w rest
      | Option.none => Option.none
    | Option.none => Option.none

def pathSegments (path : String) : List String :=
  (Text.splitOn ['.'] path.toList).map String.ofList

def getPath? (v : Value) (path : String) : Option Value :=
  lookup? v (pathSegments path)

mutual
/-- What stands under a key after a value for it has been merged in. -/
def mergeValue (base : Option Value) : Value → Value
  | .dict override mark =>
    match base.bind entries? with
    | some entries => .dict (mergeEntries entries override) 0
    | Option.none => .dict override mark
  | v => v

def mergeEntries (base : List (Value × Value)) : List (Value × Value) → List (Value × Value)
  | [] => base
  | (k, v) :: rest =>
    mergeEntries (Entries.insert base k (mergeValue ((k.key?).bind (Entries.find? base)) v)) rest
end

end ContentIndex.Value
