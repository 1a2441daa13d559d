import ContentIndex.Source.Lexer

/-!
# Reading expressions

Recursive descent over the tokens, from the loosest operators to the tightest. Every function
takes the number of nested steps it may use; `parse?` starts with more than a source of that
length can need.
-/

namespace ContentIndex.Source

set_option autoImplicit false

abbrev Parser := StateT (List Token) Option

def isSymbol (s : String) : Token → Bool
  | .symbol t => s == t
  | _ => false

def isKeyword (word : String) : Token → Bool
  | .keyword w => word == w
  | _ => false

/-- Whether the next token is as asked; it stays where it is. -/
def next? (p : Token → Bool) : Parser Bool := do
  return ((← get).head?.map p).getD false

def skip : Parser Unit :=
  modify (List.drop 1)

def accept (p : Token → Bool) : Parser Bool := do
  if ← next? p then
    skip
    return true
  else return false

def expect (p : Token → Bool) : Parser Unit := do
  if ← accept p then return () else failure

def symbol (s : String) : Parser Unit := expect (isSymbol s)

def readName : Parser String := do
  match ← get with
  | .name id :: rest =>
    set rest
    return id
  | _ => failure

def binaryLevels : List (List (String × BinaryOp)) :=
  [[("|", .bitOr)], [("^", .bitXor)], [("&", .bitAnd)],
    [("<<", .shiftLeft), (">>", .shiftRight)], [("+", .add), ("-", .sub)],
    [("*", .mul), ("/", .div), ("//", .floorDiv), ("%", .mod), ("@", .matmul)]]

def operatorOf (level : List (String × BinaryOp)) : Token → Option BinaryOp
  | .symbol s => level.lookup s
  | _ => none

def compareSymbols : List (String × CompareOp) :=
  [("==", .eq), ("!=", .ne), ("<", .lt), ("<=", .le), (">", .gt), (">=", .ge)]

/-- A comparison operator at the front of the tokens, which may be two words. -/
def readCompareOp : Parser (Option CompareOp) := do
  match ← get with
  | .symbol s :: rest =>
    match compareSymbols.lookup s with
    | some op =>
      set rest
      return some op
    | none => return none
  | .keyword "in" :: rest =>
    set rest
    return some .elementOf
  | .keyword "not" :: .keyword "in" :: rest =>
    set rest
    return some .notElementOf
  | .keyword "is" :: .keyword "not" :: rest =>
    set rest
    return some .notSame
  | .keyword "is" :: rest =>
    set rest
    return some .same
  | _ => return none

def unaryOf : Token → Option UnaryOp
  | .symbol "+" => some .plus
  | .symbol "-" => some .minus
  | .symbol "~" => some .invert
  | _ => none

/-- What may be assigned to in a clause. -/
def isTarget : Nat → Expr → Bool
  | 0, _ => false
  | fuel + 1, e =>
    match e with
    | .name _ => true
    | .access .. => true
    | .subscript .. => true
    | .starred (.starred _) => false
    | .starred t => isTarget fuel t
    | .tuple items => items.all (isTarget fuel)
    | .list items => items.all (isTarget fuel)
    | _ => false

/-- Adjacent quoted literals. -/
inductive Quotation where
  | text (s : String)
  | bytes (b : List UInt8)
  | pieces (ps : List Piece)

def readQuotations : List Token → List Quotation × List Token
  | .literal (.text s) :: rest =>
    let (qs, after) := readQuotations rest
    (.text s :: qs, after)
  | .literal (.bytes b) :: rest =>
    let (qs, after) := readQuotations rest
    (.bytes b :: qs, after)
  | .formatted ps :: rest =>
    let (qs, after) := readQuotations rest
    (.pieces ps :: qs, after)
  | rest => ([], rest)

def Quotation.asPieces? : Quotation → Option (List Piece)
  | .text s => some (textPiece s)
  | .bytes _ => none
  | .pieces ps => some ps

def Quotation.asText? : Quotation → Option String
  | .text s => some s
  | _ => none

def Quotation.asBytes? : Quotation → Option (List UInt8)
  | .bytes b => some b
  | _ => none

structure ParamState where
  before : List String
  positional : List String
  defaults : List Expr
  starred : Bool
  rest : Option String
  keywordOnly : List (String × Option Expr)

def ParamState.finish (st : ParamState) (keywordRest : Option String) : Params Expr :=
  ⟨st.before, st.positional, st.rest, st.keywordOnly, keywordRest, st.defaults⟩

/-- Whether a bare star stands without a parameter after it. -/
def ParamState.dangling (st : ParamState) : Bool :=
  st.starred && st.rest.isNone && st.keywordOnly.isEmpty

structure ArgState where
  args : List Expr
  keywords : List (Option String × Expr)

def ArgState.hasDouble (st : ArgState) : Bool :=
  st.keywords.any (·.1.isNone)

mutual
def parseExpression : Nat → Parser Expr
  | 0 => failure
  | fuel + 1 => do
    if ← accept (isKeyword "lambda") then
      let params ← parseParams fuel ⟨[], [], [], false, none, []⟩
      symbol ":"
      return .lambda params (← parseExpression fuel)
    else
      let body ← parseDisjunction fuel
      if ← accept (isKeyword "if") then
        let test ← parseDisjunction fuel
        expect (isKeyword "else")
        return .conditional test body (← parseExpression fuel)
      else return body

def parseParams : Nat → ParamState → Parser (Params Expr)
  | 0, _ => failure
  | fuel + 1, st => do
    if ← next? (isSymbol ":") then
      if st.dangling then failure else return st.finish none
    else if ← accept (isSymbol "/") then
      if st.starred || st.positional.isEmpty || !st.before.isEmpty then failure
      else parseParamsRest fuel { st with before := st.positional, positional := [] }
    else if ← accept (isSymbol "**") then
      let id ← readName
      let _ ← accept (isSymbol ",")
      if st.dangling then failure
      else if ← next? (isSymbol ":") then return st.finish (some id)
      else failure
    else if ← accept (isSymbol "*") then
      if st.starred then failure
      else if ← next? (isSymbol ",") then parseParamsRest fuel { st with starred := true }
      else
        let id ← readName
        parseParamsRest fuel { st with starred := true, rest := some id }
    else
      let id ← readName
      let value ← do
        if ← accept (isSymbol "=") then pure (some (← parseExpression fuel)) else pure none
      if st.starred then
        parseParamsRest fuel { st with keywordOnly := st.keywordOnly ++ [(id, value)] }
      else
        match value with
        | some e =>
          parseParamsRest fuel
            { st with positional := st.positional ++ [id], defaults := st.defaults ++ [e] }
        | none =>
          if st.defaults.isEmpty then
            parseParamsRest fuel { st with positional := st.positional ++ [id] }
          else failure

def parseParamsRest : Nat → ParamState → Parser (Params Expr)
  | 0, _ => failure
  | fuel + 1, st => do
    if ← accept (isSymbol ",") then parseParams fuel st
    else if ← next? (isSymbol ":") then parseParams fuel st
    else failure

def parseDisjunction : Nat → Parser Expr
  | 0 => failure
  | fuel + 1 => do
    let first ← parseConjunction fuel
    let rest ← parseOrRest fuel
    return if rest.isEmpty then first else .either (first :: rest)

def parseOrRest : Nat → Parser (List Expr)
  | 0 => failure
  | fuel + 1 => do
    if ← accept (isKeyword "or") then
      let e ← parseConjunction fuel
      return e :: (← parseOrRest fuel)
    else return []

def parseConjunction : Nat → Parser Expr
  | 0 => failure
  | fuel + 1 => do
    let first ← parseInversion fuel
    let rest ← parseAndRest fuel
    return if rest.isEmpty then first else .both (first :: rest)

def parseAndRest : Nat → Parser (List Expr)
  | 0 => failure
  | fuel + 1 => do
    if ← accept (isKeyword "and") then
      let e ← parseInversion fuel
      return e :: (← parseAndRest fuel)
    else return []

def parseInversion : Nat → Parser Expr
  | 0 => failure
  | fuel + 1 => do
    if ← accept (isKeyword "not") then return .unary .negation (← parseInversion fuel)
    else
      let left ← parseBinary fuel binaryLevels
      let rest ← parseCompareRest fuel
      return if rest.isEmpty then left else .compare left rest

def parseCompareRest : Nat → Parser (List (CompareOp × Expr))
  | 0 => failure
  | fuel + 1 => do
    match ← readCompareOp with
    | none => return []
    | some op =>
      let e ← parseBinary fuel binaryLevels
      return (op, e) :: (← parseCompareRest fuel)

def parseBinary : Nat → List (List (String × BinaryOp)) → Parser Expr
  | 0, _ => failure
  | fuel + 1, [] => parseFactor fuel
  | fuel + 1, level :: tighter => do
    let left ← parseBinary fuel tighter
    parseBinaryRest fuel level tighter left

def parseBinaryRest :
    Nat → List (String × BinaryOp) → List (List (String × BinaryOp)) → Expr → Parser Expr
  | 0, _, _, _ => failure
  | fuel + 1, level, tighter, left => do
    match (← get).head?.bind (operatorOf level) with
    | none => return left
    | some op =>
      skip
      let right ← parseBinary fuel tighter
      parseBinaryRest fuel level tighter (.binary left op right)

def parseFactor : Nat → Parser Expr
  | 0 => failure
  | fuel + 1 => do
    match (← get).head?.bind unaryOf with
    | some op =>
      skip
      return .unary op (← parseFactor fuel)
    | none =>
      let base ← parsePrimary fuel
      if ← accept (isSymbol "**") then return .binary base .pow (← parseFactor fuel)
      else return base

def parsePrimary : Nat → Parser Expr
  | 0 => failure
  | fuel + 1 => do
    let e ← parseAtom fuel
    parseTrailers fuel e

def parseTrailers : Nat → Expr → Parser Expr
  | 0, _ => failure
  | fuel + 1, e => do
    if ← accept (isSymbol ".") then
      let attr ← readName
      parseTrailers fuel (.access e attr)
    else if ← accept (isSymbol "(") then
      let args ← parseArgs fuel ⟨[], []⟩
      parseTrailers fuel (.call e args.args args.keywords)
    else if ← accept (isSymbol "[") then
      let index ← parseIndex fuel
      parseTrailers fuel (.subscript e index)
    else return e

/-- Arguments of a call through the closing bracket. -/
def parseArgs : Nat → ArgState → Parser ArgState
  | 0, _ => failure
  | fuel + 1, st => do
    if ← accept (isSymbol ")") then return st
    else if ← accept (isSymbol "**") then
      let e ← parseExpression fuel
      parseArgsRest fuel { st with keywords := st.keywords ++ [(none, e)] }
    else if ← accept (isSymbol "*") then
      if st.hasDouble then failure
      else
        let e ← parseExpression fuel
        parseArgsRest fuel { st with args := st.args ++ [.starred e] }
    else
      match ← get with
      | .name id :: .symbol "=" :: rest =>
        set rest
        let e ← parseExpression fuel
        parseArgsRest fuel { st with keywords := st.keywords ++ [(some id, e)] }
      | _ =>
        if !st.keywords.isEmpty then failure
        else
          let e ← parseExpression fuel
          if ← next? (isKeyword "for") then
            if !st.args.isEmpty then failure
            else
              let clauses ← parseClauses fuel
              symbol ")"
              return { st with args := [.comprehension .generator e clauses] }
          else parseArgsRest fuel { st with args := st.args ++ [e] }

def parseArgsRest : Nat → ArgState → Parser ArgState
  | 0, _ => failure
  | fuel + 1, st => do
    if ← accept (isSymbol ",") then parseArgs fuel st
    else
      symbol ")"
      return st

/-- Index of a subscript through the closing bracket; several ones form a tuple. -/
def parseIndex : Nat → Parser Expr
  | 0 => failure
  | fuel + 1 => do
    let first ← parseSlice fuel
    if first.isStarred then return .tuple (first :: (← parseSliceRest fuel))
    else if ← accept (isSymbol "]") then return first
    else return .tuple (first :: (← parseSliceRest fuel))

def parseSliceRest : Nat → Parser (List Expr)
  | 0 => failure
  | fuel + 1 => do
    if ← accept (isSymbol "]") then return []
    else
      symbol ","
      if ← accept (isSymbol "]") then return []
      else
        let e ← parseSlice fuel
        return e :: (← parseSliceRest fuel)

def parseSlice : Nat → Parser Expr
  | 0 => failure
  | fuel + 1 => do
    if ← accept (isSymbol "*") then return .starred (← parseExpression fuel)
    else
      let lower ← parseBound fuel
      if ← accept (isSymbol ":") then
        let upper ← parseBound fuel
        let step ← do
          if ← accept (isSymbol ":") then parseBound fuel else pure none
        return .slice lower upper step
      else
        match lower with
        | some e => return e
        | none => failure

/-- An expression, unless a mark that ends a part of a slice follows. -/
def parseBound : Nat → Parser (Option Expr)
  | 0 => failure
  | fuel + 1 => do
    if (← next? (isSymbol ":")) || (← next? (isSymbol "]")) || (← next? (isSymbol ",")) then
      return none
    else return some (← parseExpression fuel)

def parseClauses : Nat → Parser (List (Clause Expr))
  | 0 => failure
  | fuel + 1 => do
    if ← accept (isKeyword "for") then
      let target ← parseTargets fuel
      expect (isKeyword "in")
      let source ← parseDisjunction fuel
      let conditions ← parseConditions fuel
      return ⟨target, source, conditions⟩ :: (← parseClauses fuel)
    else return []

def parseConditions : Nat → Parser (List Expr)
  | 0 => failure
  | fuel + 1 => do
    if ← accept (isKeyword "if") then
      let e ← parseDisjunction fuel
      return e :: (← parseConditions fuel)
    else return []

def parseTargets : Nat → Parser Expr
  | 0 => failure
  | fuel + 1 => do
    let first ← parseTarget fuel
    if ← next? (isSymbol ",") then
      let rest ← parseTargetRest fuel
      return .tuple (first :: rest)
    else return first

def parseTargetRest : Nat → Parser (List Expr)
  | 0 => failure
  | fuel + 1 => do
    if ← accept (isSymbol ",") then
      if ← next? (isKeyword "in") then return []
      else
        let e ← parseTarget fuel
        return e :: (← parseTargetRest fuel)
    else return []

def parseTarget : Nat → Parser Expr
  | 0 => failure
  | fuel + 1 => do
    let starred ← accept (isSymbol "*")
    let e ← parsePrimary fuel
    if isTarget (fuel + 1) e then return if starred then .starred e else e else failure

def parseAtom : Nat → Parser Expr
  | 0 => failure
  | fuel + 1 => do
    let tokens ← get
    match tokens with
    | .name id :: rest =>
      set rest
      return .name id
    | .keyword "None" :: rest =>
      set rest
      return .literal .none
    | .keyword "True" :: rest =>
      set rest
      return .literal (.bool true)
    | .keyword "False" :: rest =>
      set rest
      return .literal (.bool false)
    | .literal (.int n) :: rest =>
      set rest
      return .literal (.int n)
    | .literal (.float x) :: rest =>
      set rest
      return .literal (.float x)
    | .symbol "..." :: rest =>
      set rest
      return .literal .ellipsis
    | .symbol "(" :: rest =>
      set rest
      parseGroup fuel
    | .symbol "[" :: rest =>
      set rest
      parseList fuel
    | .symbol "\x7b" :: rest =>
      set rest
      parseBraces fuel
    | _ =>
      let (quotations, rest) := readQuotations tokens
      set rest
      parseQuotations fuel quotations

def parseQuotations : Nat → List Quotation → Parser Expr
  | 0, _ => failure
  | fuel + 1, quotations => do
    if quotations.isEmpty then failure
    else
      match quotations.mapM Quotation.asText? with
      | some texts => return .literal (.text (String.join texts))
      | none =>
        match quotations.mapM Quotation.asBytes? with
        | some bytes => return .literal (.bytes bytes.flatten)
        | none =>
          match quotations.mapM Quotation.asPieces? with
          | some pieces => return .joined (← parsePieces fuel pieces.flatten)
          | none => failure

def parsePieces : Nat → List Piece → Parser (List Expr)
  | 0, _ => failure
  | _ + 1, [] => return []
  | fuel + 1, piece :: rest => do
    let e ←
      match piece with
      | .text s => pure (.literal (.text s))
      | .field source conversion format => do
        let value ← parseField fuel source
        let shape ←
          match format with
          | none => pure none
          | some pieces => do pure (some (Expr.joined (← parsePieces fuel pieces)))
        pure (.field value conversion shape)
    return e :: (← parsePieces fuel rest)

/-- The expression of a field, read as if it stood in brackets. -/
def parseField : Nat → String → Parser Expr
  | 0, _ => failure
  | fuel + 1, source => do
    match lex ('(' :: source.toList ++ [')']) with
    | some (.symbol "(" :: tokens) =>
      let outer ← get
      set tokens
      let e ← parseGroup fuel
      let left ← get
      set outer
      if left.isEmpty then return e else failure
    | _ => failure

/-- After an opening round bracket. -/
def parseGroup : Nat → Parser Expr
  | 0 => failure
  | fuel + 1 => do
    if ← accept (isSymbol ")") then return .tuple []
    else
      let first ← parseItem fuel
      if ← next? (isKeyword "for") then
        match first with
        | .starred _ => failure
        | _ =>
          let clauses ← parseClauses fuel
          symbol ")"
          return .comprehension .generator first clauses
      else if ← next? (isSymbol ",") then
        let rest ← parseItemRest fuel ")"
        return .tuple (first :: rest)
      else
        symbol ")"
        match first with
        | .starred _ => failure
        | _ => return first

/-- After an opening square bracket. -/
def parseList : Nat → Parser Expr
  | 0 => failure
  | fuel + 1 => do
    if ← accept (isSymbol "]") then return .list []
    else
      let first ← parseItem fuel
      if ← next? (isKeyword "for") then
        match first with
        | .starred _ => failure
        | _ =>
          let clauses ← parseClauses fuel
          symbol "]"
          return .comprehension .list first clauses
      else
        let rest ← parseItemRest fuel "]"
        return .list (first :: rest)

/-- After an opening curly bracket. -/
def parseBraces : Nat → Parser Expr
  | 0 => failure
  | fuel + 1 => do
    if ← accept (isSymbol "\x7d") then return .dict []
    else if ← next? (isSymbol "**") then
      return .dict (← parseEntries fuel)
    else
      let first ← parseItem fuel
      if ← accept (isSymbol ":") then
        match first with
        | .starred _ => failure
        | _ =>
          let value ← parseExpression fuel
          if ← next? (isKeyword "for") then
            let clauses ← parseClauses fuel
            symbol "\x7d"
            return .dictComprehension first value clauses
          else
            let rest ← parseEntryRest fuel
            return .dict ((some first, value) :: rest)
      else if ← next? (isKeyword "for") then
        match first with
        | .starred _ => failure
        | _ =>
          let clauses ← parseClauses fuel
          symbol "\x7d"
          return .comprehension .set first clauses
      else
        let rest ← parseItemRest fuel "\x7d"
        return .set (first :: rest)

def parseItem : Nat → Parser Expr
  | 0 => failure
  | fuel + 1 => do
    if ← accept (isSymbol "*") then return .starred (← parseBinary fuel binaryLevels)
    else parseExpression fuel

/-- Further items, each after a comma, through the closing bracket. -/
def parseItemRest : Nat → String → Parser (List Expr)
  | 0, _ => failure
  | fuel + 1, closer => do
    if ← accept (isSymbol closer) then return []
    else
      symbol ","
      if ← accept (isSymbol closer) then return []
      else
        let e ← parseItem fuel
        return e :: (← parseItemRest fuel closer)

def parseEntries : Nat → Parser (List (Option Expr × Expr))
  | 0 => failure
  | fuel + 1 => do
    let entry ← do
      if ← accept (isSymbol "**") then
        pure (none, ← parseBinary fuel binaryLevels)
      else
        let key ← parseExpression fuel
        symbol ":"
        pure (some key, ← parseExpression fuel)
    return entry :: (← parseEntryRest fuel)

def parseEntryRest : Nat → Parser (List (Option Expr × Expr))
  | 0 => failure
  | fuel + 1 => do
    if ← accept (isSymbol "\x7d") then return []
    else
      symbol ","
      if ← accept (isSymbol "\x7d") then return []
      else parseEntries fuel
end

def parseTopRest (fuel : Nat) : Nat → Parser (List Expr)
  | 0 => failure
  | count + 1 => do
    if ← accept (isSymbol ",") then
      if (← get).all (fun | .newline => true | _ => false) then return []
      else
        let e ← parseExpression fuel
        return e :: (← parseTopRest fuel count)
    else return []

/-- One expression, or several with commas, which form a tuple; only line ends may follow. -/
def parseTop (fuel : Nat) : Parser Expr := do
  let first ← parseExpression fuel
  let tuple ← next? (isSymbol ",")
  let rest ← parseTopRest fuel fuel
  if (← get).all (fun | .newline => true | _ => false) then
    return if tuple then .tuple (first :: rest) else first
  else failure

def stepsFor (source : List Char) : Nat :=
  32 * (source.length + 8)

/-- The expression of a source, which must not hold a null character even in a comment. -/
def parse? (source : List Char) : Option Expr :=
  if source.contains '\x00' then none
  else
    match lex source with
    | none => none
    | some tokens => ((parseTop (stepsFor source)).run tokens).map (·.1)

end ContentIndex.Source
