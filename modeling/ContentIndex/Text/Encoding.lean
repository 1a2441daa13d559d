import ContentIndex.Text.Digits

/-!
# Encodings

Reading bytes as text. An encoding cuts bytes into characters and runs of bytes that are none; what
becomes of the latter is the matter of a policy.
-/

namespace ContentIndex.Text

set_option autoImplicit false

inductive Encoding where
  | utf8
  | utf8Marked
  | ascii
  | latin1
  | windows1252
  | utf16 (bigEndian : Option Bool)
  | utf32 (bigEndian : Option Bool)
  deriving DecidableEq, Repr

/-- A character, or bytes that do not encode one. -/
inductive Piece where
  | char (c : Char)
  | invalid (bytes : List UInt8)
  deriving DecidableEq, Repr

namespace Encoding

/-- Names of an encoding, in small letters and with low lines. -/
def names : List (String × Encoding) :=
  ["utf_8", "utf8", "u8", "utf", "utf8_ucs2", "utf8_ucs4", "cp65001"].map (·, utf8) ++
    ["utf_8_sig"].map (·, utf8Marked) ++
    ["ascii", "us_ascii", "646", "us", "ansi_x3.4_1968", "ansi_x3_4_1968", "ansi_x3.4_1986",
      "cp367", "csascii", "ibm367", "iso646_us", "iso_646.irv_1991", "iso_ir_6"].map (·, ascii) ++
    ["latin_1", "latin1", "latin", "l1", "iso_8859_1", "iso8859_1", "8859", "cp819", "csisolatin1",
      "ibm819", "iso8859", "iso_8859_1_1987", "iso_ir_100"].map (·, latin1) ++
    ["cp1252", "1252", "windows_1252"].map (·, windows1252) ++
    ["utf_16", "utf16", "u16"].map (·, utf16 none) ++
    ["utf_16_le", "utf_16le", "unicodelittleunmarked"].map (·, utf16 (some false)) ++
    ["utf_16_be", "utf_16be", "unicodebigunmarked"].map (·, utf16 (some true)) ++
    ["utf_32", "utf32", "u32"].map (·, utf32 none) ++
    ["utf_32_le", "utf_32le"].map (·, utf32 (some false)) ++
    ["utf_32_be", "utf_32be"].map (·, utf32 (some true))

/-- A name in small letters, with single low lines for everything but letters, digits and points. -/
def tidyName (s : List Char) : List Char :=
  let parts := (s.map fun c => if c.isAlphanum || c == '.' then c.toLower else '_').splitBy
    fun a b => a != '_' && b != '_' || a == '_' && b == '_'
  let words := parts.filter fun w => w.head? != some '_'
  (List.intersperse ['_'] words).flatten

def named? (name : String) : Option Encoding :=
  names.lookup (String.ofList (tidyName name.toList))

end Encoding

/-- The least and the greatest second byte after a first one, and how many bytes follow that. -/
def utf8Lead? (b : Nat) : Option (Nat × Nat × Nat) :=
  if 0xC2 ≤ b && b ≤ 0xDF then some (0x80, 0xBF, 1)
  else if b == 0xE0 then some (0xA0, 0xBF, 2)
  else if b == 0xED then some (0x80, 0x9F, 2)
  else if 0xE1 ≤ b && b ≤ 0xEF then some (0x80, 0xBF, 2)
  else if b == 0xF0 then some (0x90, 0xBF, 3)
  else if 0xF1 ≤ b && b ≤ 0xF3 then some (0x80, 0xBF, 3)
  else if b == 0xF4 then some (0x80, 0x8F, 3)
  else none

/-- The bytes that can follow a first one, as far as they are there. -/
def utf8Tail (low high count : Nat) (rest : List UInt8) : List UInt8 :=
  match count, rest with
  | 0, _ => []
  | _, [] => []
  | n + 1, b :: bs =>
    if low ≤ b.toNat && b.toNat ≤ high then b :: utf8Tail 0x80 0xBF n bs else []

/-- The first piece of bytes that start with the given one, and its length. -/
def utf8Piece (b : UInt8) (rest : List UInt8) : Piece × Nat :=
  if b < 0x80 then (.char (Char.ofNat b.toNat), 1)
  else
    match utf8Lead? b.toNat with
    | none => (.invalid [b], 1)
    | some (low, high, count) =>
      let tail := utf8Tail low high count rest
      if tail.length == count then
        let lead := if count == 1 then b.toNat - 0xC0 else if count == 2 then b.toNat - 0xE0
          else b.toNat - 0xF0
        (.char (Char.ofNat (tail.foldl (fun n c => n * 64 + (c.toNat - 0x80)) lead)), count + 1)
      else (.invalid (b :: tail), tail.length + 1)

/-- Pieces of bytes, each found at the front of what is left. -/
def pieces (first : UInt8 → List UInt8 → Piece × Nat) : Nat → List UInt8 → List Piece
  | 0, _ => []
  | _, [] => []
  | fuel + 1, b :: rest =>
    let (piece, length) := first b rest
    piece :: pieces first fuel (rest.drop (length - 1))

def bytePiece (limit : Nat) (b : UInt8) (_ : List UInt8) : Piece × Nat :=
  if b.toNat < limit then (.char (Char.ofNat b.toNat), 1) else (.invalid [b], 1)

/-- What the bytes from 0x80 to 0x9F stand for in the Windows code page of western Europe; 0 where
nothing does. -/
def windows1252Codes : List Nat :=
  [0x20AC, 0, 0x201A, 0x0192, 0x201E, 0x2026, 0x2020, 0x2021, 0x02C6, 0x2030, 0x0160, 0x2039,
   0x0152, 0, 0x017D, 0, 0, 0x2018, 0x2019, 0x201C, 0x201D, 0x2022, 0x2013, 0x2014, 0x02DC,
   0x2122, 0x0161, 0x203A, 0x0153, 0, 0x017E, 0x0178]

def windows1252Piece (b : UInt8) (_ : List UInt8) : Piece × Nat :=
  match windows1252Codes[b.toNat - 0x80]? with
  | some code =>
    if b < 0x80 then (.char (Char.ofNat b.toNat), 1)
    else if code == 0 then (.invalid [b], 1)
    else (.char (Char.ofNat code), 1)
  | none => (.char (Char.ofNat b.toNat), 1)

/-- The value of bytes in the given order. -/
def joinBytes (bigEndian : Bool) (bytes : List UInt8) : Nat :=
  (if bigEndian then bytes else bytes.reverse).foldl (fun n b => n * 256 + b.toNat) 0

def utf16Piece (bigEndian : Bool) (b : UInt8) (rest : List UInt8) : Piece × Nat :=
  match rest with
  | [] => (.invalid [b], 1)
  | c :: after =>
    let unit := joinBytes bigEndian [b, c]
    if unit < 0xD800 || 0xE000 ≤ unit then (.char (Char.ofNat unit), 2)
    else
      match after with
      | d :: e :: _ =>
        let low := joinBytes bigEndian [d, e]
        if unit < 0xDC00 && 0xDC00 ≤ low && low < 0xE000 then
          (.char (Char.ofNat (0x10000 + (unit - 0xD800) * 0x400 + (low - 0xDC00))), 4)
        else (.invalid [b, c], 2)
      | _ =>
        if unit < 0xDC00 then (.invalid (b :: rest), after.length + 2) else (.invalid [b, c], 2)

def utf32Piece (bigEndian : Bool) (b : UInt8) (rest : List UInt8) : Piece × Nat :=
  match rest with
  | c :: d :: e :: _ =>
    let n := joinBytes bigEndian [b, c, d, e]
    if n < 0xD800 || 0xE000 ≤ n && n < 0x110000 then (.char (Char.ofNat n), 4)
    else (.invalid [b, c, d, e], 4)
  | _ => (.invalid (b :: rest), rest.length + 1)

/-- Bytes without the mark of their order, and that order. -/
def orderOf (width : Nat) (given : Option Bool) (bytes : List UInt8) : Bool × List UInt8 :=
  match given with
  | some bigEndian => (bigEndian, bytes)
  | none =>
    if joinBytes true (bytes.take width) == 0xFEFF && width ≤ bytes.length then
      (true, bytes.drop width)
    else if joinBytes false (bytes.take width) == 0xFEFF && width ≤ bytes.length then
      (false, bytes.drop width)
    else (false, bytes)

def Encoding.pieces (e : Encoding) (bytes : List UInt8) : List Piece :=
  let cut (first : UInt8 → List UInt8 → Piece × Nat) (bs : List UInt8) : List Piece :=
    Text.pieces first bs.length bs
  match e with
  | .utf8 => cut utf8Piece bytes
  | .utf8Marked =>
    cut utf8Piece (if bytes.take 3 == [0xEF, 0xBB, 0xBF] then bytes.drop 3 else bytes)
  | .ascii => cut (bytePiece 0x80) bytes
  | .latin1 => cut (bytePiece 0x100) bytes
  | .windows1252 => cut windows1252Piece bytes
  | .utf16 given =>
    let (bigEndian, bytes) := orderOf 2 given bytes
    cut (utf16Piece bigEndian) bytes
  | .utf32 given =>
    let (bigEndian, bytes) := orderOf 4 given bytes
    cut (utf32Piece bigEndian) bytes

/-- What becomes of bytes that encode no character; some policies are for writing only. -/
inductive Policy where
  | refuse
  | writing
  | skip
  | substitute
  | escape
  deriving DecidableEq, Repr

def Policy.named? (name : String) : Option Policy :=
  match name with
  | "strict" => some .refuse
  | "xmlcharrefreplace" => some .writing
  | "namereplace" => some .writing
  | "ignore" => some .skip
  | "replace" => some .substitute
  | "backslashreplace" => some .escape
  | _ => none

def escapedByte (b : UInt8) : List Char :=
  '\\' :: 'x' :: hexDigits 2 b.toNat

/-- Characters of a piece; none if the policy refuses it. -/
def Policy.resolve? (p : Policy) : Piece → Option (List Char)
  | .char c => some [c]
  | .invalid bytes =>
    match p with
    | .refuse => none
    | .writing => none
    | .skip => some []
    | .substitute => some ['\uFFFD']
    | .escape => some (bytes.flatMap escapedByte)

def Policy.resolveAll? (p : Policy) : List Piece → Option (List Char)
  | [] => some []
  | piece :: rest =>
    match p.resolve? piece, p.resolveAll? rest with
    | some cs, some ds => some (cs ++ ds)
    | _, _ => none

/-- ASCII is read as it stands, whatever the policy. -/
theorem resolveAll?_chars (p : Policy) (cs : List Char) :
    p.resolveAll? (cs.map .char) = some cs := by
  induction cs with
  | nil => rfl
  | cons c cs ih => simp [Policy.resolveAll?, Policy.resolve?, ih]

end ContentIndex.Text
