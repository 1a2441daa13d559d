import ContentIndex.Value.Basic

/-!
# Giving out marks

Marks are given out in ascending order, to the parts of a value before the value itself. The parts
of a value that has a mark have theirs already.
-/

namespace ContentIndex.Value

set_option autoImplicit false

/-- Whether a value waits for a mark. -/
def isUnmarked : Value → Bool
  | .float x => x.isNaN
  | .nan mark => mark == 0
  | .list _ mark => mark == 0
  | .tuple _ mark => mark == 0
  | .set _ mark => mark == 0
  | .dict _ mark => mark == 0
  | .range _ _ _ mark => mark == 0
  | .view _ _ _ mark => mark == 0
  | .moment _ mark => mark == 0
  | .rule _ _ _ _ mark => mark == 0
  | .asset _ mark => mark == 0
  | .helper mark => mark == 0
  | .object typeName mark => mark == 0 && typeName != "ellipsis" && typeName != "slice"
  | .method _ _ mark => mark == 0
  | .closure _ _ _ _ _ mark => mark == 0
  | _ => false

mutual
/-- A value with marks from `next` on where there are none, and the next mark after those. -/
def withMarks (v : Value) (next : Nat) : Value × Nat :=
  match v with
  | .float x => if x.isNaN then (.nan next, next + 1) else (.float x, next)
  | .nan 0 => (.nan next, next + 1)
  | .list items 0 =>
    let (items, n) := withMarksAll items [] next
    (.list items n, n + 1)
  | .tuple items 0 =>
    let (items, n) := withMarksAll items [] next
    (.tuple items n, n + 1)
  | .set items 0 =>
    let (items, n) := withMarksAll items [] next
    (.set items n, n + 1)
  | .dict entries 0 =>
    let (entries, n) := withMarksEntries entries [] next
    (.dict entries n, n + 1)
  | .range start stop step 0 => (.range start stop step next, next + 1)
  | .view kind entries owner 0 => (.view kind entries owner next, next + 1)
  | .moment t 0 => (.moment t next, next + 1)
  | .rule name type indexing extractor 0 => (.rule name type indexing extractor next, next + 1)
  | .asset a 0 => (.asset a next, next + 1)
  | .helper 0 => (.helper next, next + 1)
  | .object typeName 0 =>
    if typeName == "ellipsis" || typeName == "slice" then (.object typeName 0, next)
    else (.object typeName next, next + 1)
  | .method receiver name 0 => (.method receiver name next, next + 1)
  | .closure params body defaults keywordDefaults scope 0 =>
    (.closure params body defaults keywordDefaults scope next, next + 1)
  | v => (v, next)

def withMarksAll (items done : List Value) (next : Nat) : List Value × Nat :=
  match items with
  | [] => (done.reverse, next)
  | v :: vs =>
    let (w, n) := withMarks v next
    withMarksAll vs (w :: done) n

def withMarksEntries (entries done : List (Value × Value)) (next : Nat) :
    List (Value × Value) × Nat :=
  match entries with
  | [] => (done.reverse, next)
  | (k, v) :: rest =>
    let (k, n) := withMarks k next
    let (v, n) := withMarks v n
    withMarksEntries rest ((k, v) :: done) n
end

end ContentIndex.Value
