/-!
# Base64

Three bytes are written as four characters of the standard alphabet; equals signs fill the last
group. `decode?_encode` says that the written form can be read back.
-/

namespace ContentIndex.Text.Base64

set_option autoImplicit false

def letter (n : Nat) : Char :=
  if n < 26 then Char.ofNat (65 + n)
  else if n < 52 then Char.ofNat (71 + n)
  else if n < 62 then Char.ofNat (n - 4)
  else if n == 62 then '+'
  else '/'

def value? (c : Char) : Option Nat :=
  if 'A' ≤ c && c ≤ 'Z' then some (c.toNat - 65)
  else if 'a' ≤ c && c ≤ 'z' then some (c.toNat - 71)
  else if '0' ≤ c && c ≤ '9' then some (c.toNat + 4)
  else if c == '+' then some 62
  else if c == '/' then some 63
  else none

def encode : List UInt8 → List Char
  | [] => []
  | [a] =>
    let n := a.toNat * 16
    [letter (n / 64), letter (n % 64), '=', '=']
  | [a, b] =>
    let n := (a.toNat * 256 + b.toNat) * 4
    [letter (n / 4096), letter (n / 64 % 64), letter (n % 64), '=']
  | a :: b :: c :: rest =>
    let n := (a.toNat * 256 + b.toNat) * 256 + c.toNat
    letter (n / 262144) :: letter (n / 4096 % 64) :: letter (n / 64 % 64) :: letter (n % 64) ::
      encode rest

/-- Reads the written form alone: groups of four, filled only at the end. -/
def decode? : List Char → Option (List UInt8)
  | [] => some []
  | a :: b :: c :: d :: rest =>
    match value? a, value? b, value? c, value? d with
    | some x, some y, some z, some w =>
      let n := ((x * 64 + y) * 64 + z) * 64 + w
      (decode? rest).map fun bytes =>
        UInt8.ofNat (n / 65536) :: UInt8.ofNat (n / 256) :: UInt8.ofNat n :: bytes
    | some x, some y, some z, none =>
      let n := (x * 64 + y) * 64 + z
      if d = '=' && rest.isEmpty then some [UInt8.ofNat (n / 1024), UInt8.ofNat (n / 4)] else none
    | some x, some y, none, none =>
      let n := x * 64 + y
      if c = '=' && d = '=' && rest.isEmpty then some [UInt8.ofNat (n / 16)] else none
    | _, _, _, _ => none
  | _ => none

theorem value?_letter : ∀ n, n < 64 → value? (letter n) = some n := by decide

theorem value?_fill : value? '=' = none := by decide

theorem ofNat_eq {b : UInt8} {n : Nat} (h : n % 256 = b.toNat) : UInt8.ofNat n = b := by
  apply UInt8.toNat_inj.1
  simpa using h

theorem decode?_encode (bytes : List UInt8) : decode? (encode bytes) = some bytes := by
  fun_induction encode bytes with
  | case1 => rfl
  | case2 a n =>
    have ha := a.toNat_lt
    have h1 : n / 64 < 64 := by omega
    have h2 : n % 64 < 64 := by omega
    simp only [decode?, value?_letter _ h1, value?_letter _ h2, value?_fill]
    simp only [List.isEmpty_nil, Bool.and_true, decide_true, if_true]
    rw [ofNat_eq (b := a) (by omega)]
  | case3 a b n =>
    have ha := a.toNat_lt
    have hb := b.toNat_lt
    have h1 : n / 4096 < 64 := by omega
    have h2 : n / 64 % 64 < 64 := by omega
    have h3 : n % 64 < 64 := by omega
    simp only [decode?, value?_letter _ h1, value?_letter _ h2, value?_letter _ h3, value?_fill]
    simp only [List.isEmpty_nil, Bool.and_true, decide_true, if_true]
    rw [ofNat_eq (b := a) (by omega), ofNat_eq (b := b) (by omega)]
  | case4 a b c rest n ih =>
    have ha := a.toNat_lt
    have hb := b.toNat_lt
    have hc := c.toNat_lt
    have h1 : n / 262144 < 64 := by omega
    have h2 : n / 4096 % 64 < 64 := by omega
    have h3 : n / 64 % 64 < 64 := by omega
    have h4 : n % 64 < 64 := by omega
    simp only [decode?, value?_letter _ h1, value?_letter _ h2, value?_letter _ h3,
      value?_letter _ h4, ih, Option.map_some]
    rw [ofNat_eq (b := a) (by omega), ofNat_eq (b := b) (by omega), ofNat_eq (b := c) (by omega)]

end ContentIndex.Text.Base64
