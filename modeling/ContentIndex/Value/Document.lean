import ContentIndex.Json.Parser
import ContentIndex.Json.Printer
import ContentIndex.Value.Key
import ContentIndex.Value.Written

/-!
# Values as JSON documents

Lists and tuples become arrays, dictionaries objects, and every value that JSON does not know its
text. Numbers, truth values and null may stand as names of members; other keys than texts may
not. Reading a document gives lists and dictionaries; of two members with one name the last one
counts, in the place of the first.
-/

namespace ContentIndex.Value

set_option autoImplicit false

/-- A key of a dictionary that cannot name a member. -/
def keyFault (typeName : String) : Fault :=
  .wrongType ("keys must be str, int, float, bool or None, not " ++ typeName)

/-- Name of a member for a key. -/
def memberName : Value → Except Fault String
  | .str s => .ok s
  | .none => .ok "null"
  | .bool b => .ok (if b then "true" else "false")
  | .int n => written (.int n)
  | .float x => .ok (String.ofList (Json.floatText x))
  | .nan _ => .ok "NaN"
  | v => .error (keyFault v.typeName)

/-- Arrays and objects one in another that are written; two fewer are read. -/
def writingLimit : Nat := Json.nestingLimit + 2

mutual
/-- The document of a value with at most `room` arrays and objects one in another, unless a key
cannot be a name or an integer has too many digits. -/
def toJson : Nat → Value → Except Fault Json
  | _, .none => .ok .null
  | _, .bool b => .ok (.bool b)
  | _, .int n => if isLong n then .error exceedsDigits else .ok (.int n)
  | _, .float x => .ok (.float x)
  | _, .nan _ => .ok (.float Decimal.notANumber)
  | _, .str s => .ok (.str s)
  | 0, .list _ _ => .error .tooDeep
  | 0, .tuple _ _ => .error .tooDeep
  | 0, .dict _ _ => .error .tooDeep
  | room + 1, .list items _ => (toJsonAll room items).map fun js => .array js
  | room + 1, .tuple items _ => (toJsonAll room items).map fun js => .array js
  | room + 1, .dict entries _ => (toJsonMembers room entries).map fun ms => .object ms
  | _, v => (written v).map fun s => .str s

def toJsonAll : Nat → List Value → Except Fault (List Json)
  | _, [] => .ok []
  | room, v :: vs =>
    match toJson room v, toJsonAll room vs with
    | .ok j, .ok js => .ok (j :: js)
    | .error e, _ => .error e
    | _, .error e => .error e

def toJsonMembers : Nat → List (Value × Value) → Except Fault (List (String × Json))
  | _, [] => .ok []
  | room, (k, v) :: rest =>
    match memberName k, toJson room v, toJsonMembers room rest with
    | .ok name, .ok j, .ok js => .ok ((name, j) :: js)
    | .error e, _, _ => .error e
    | _, .error e, _ => .error e
    | _, _, .error e => .error e
end

/-- The mark of every number of a document that is not a number. -/
def documentNan : Nat := 1

mutual
def ofJson : Json → Value
  | .null => .none
  | .bool b => .bool b
  | .int n => .int n
  | .float x => if x.isNaN then .nan documentNan else .float x
  | .str s => .str s
  | .array items => .list (ofJsonAll items) 0
  | .object members => .dict (Entries.ofList (ofJsonMembers members)) 0

def ofJsonAll : List Json → List Value
  | [] => []
  | j :: js => ofJson j :: ofJsonAll js

def ofJsonMembers : List (String × Json) → List (Value × Value)
  | [] => []
  | (name, j) :: rest => (.str name, ofJson j) :: ofJsonMembers rest
end

end ContentIndex.Value
