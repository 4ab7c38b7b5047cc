import AudioLink.Toml.Lexical

/-!
# TOML numbers

Digits can be grouped by single underscores. A decimal integer has no leading zeros and can have a
sign; hexadecimal, octal and binary ones start with their base and have none. All integers fit into
64 bits. A float has a fraction, an exponent or both, and must not be too large for a
double-precision number; infinities and not-a-number have names.
-/

namespace AudioLink.Toml

def digitValue (c : Char) : Nat := (Hex.value? c).getD 0

/-- The number that a row of digits denotes in a base. -/
def valueIn (base : Nat) (digits : List Char) : Nat :=
  digits.foldl (fun n c => base * n + digitValue c) 0

/-- The digits that follow a digit, without the underscores between them. -/
def moreDigits (isDigit : Char → Bool) : List Char → List Char × List Char
  | [] => ([], [])
  | '_' :: c :: rest =>
    if isDigit c then
      let more := moreDigits isDigit rest
      (c :: more.1, more.2)
    else ([], '_' :: c :: rest)
  | c :: rest =>
    if isDigit c then
      let more := moreDigits isDigit rest
      (c :: more.1, more.2)
    else ([], c :: rest)

/-- A row of at least one digit. -/
def digits? (isDigit : Char → Bool) : List Char → Option (List Char × List Char)
  | c :: rest =>
    if isDigit c then
      let more := moreDigits isDigit rest
      some (c :: more.1, more.2)
    else none
  | [] => none

/-- Whether a minus sign comes next, and what follows a sign of either kind. -/
def sign : List Char → Bool × List Char
  | '-' :: rest => (true, rest)
  | '+' :: rest => (false, rest)
  | cs => (false, cs)

/-- A row of decimal digits in which a leading zero stands alone. -/
def decimal? : List Char → Option (List Char × List Char)
  | '0' :: rest => some (['0'], rest)
  | cs => digits? isDigit cs

/-- The integers that fit into 64 bits. -/
def inRange (n : Int) : Bool := -9223372036854775808 ≤ n && n ≤ 9223372036854775807

private def based? (base : Nat) (isDigit : Char → Bool) (cs : List Char) :
    Option (Int × List Char) :=
  match digits? isDigit cs with
  | none => none
  | some (digits, rest) =>
    let n : Int := valueIn base digits
    if inRange n then some (n, rest) else none

def integer? : List Char → Option (Int × List Char)
  | '0' :: 'x' :: rest => based? 16 (fun c => (Hex.value? c).isSome) rest
  | '0' :: 'o' :: rest => based? 8 (fun c => '0' ≤ c && c ≤ '7') rest
  | '0' :: 'b' :: rest => based? 2 (fun c => c = '0' || c = '1') rest
  | cs =>
    let signed := sign cs
    match decimal? signed.2 with
    | none => none
    | some (digits, rest) =>
      let size : Int := valueIn 10 digits
      let n := if signed.1 then -size else size
      if inRange n then some (n, rest) else none

def exponent? : List Char → Option (Bool × List Char × List Char)
  | 'e' :: rest | 'E' :: rest =>
    let signed := sign rest
    (digits? isDigit signed.2).map fun r => (signed.1, r.1, r.2)
  | _ => none

/-- Whether a decimal number, `digits` times a power of ten, is closer to infinity than to any
double-precision number. The bound lies halfway beyond the greatest of them. -/
def overflows (digits : List Char) (power : Int) : Bool :=
  let digits := digits.dropWhile (· = '0')
  let mantissa := valueIn 10 digits
  let bound := Nat.pow 2 1024 - Nat.pow 2 970
  let places := power + digits.length
  if digits.isEmpty || places < 0 then false
  else if 400 < places then true
  else if power < 0 then bound * Nat.pow 10 (-power).toNat ≤ mantissa
  else bound ≤ mantissa * Nat.pow 10 power.toNat

/-- The rest after `name`, if that comes next. -/
def keyword? (name : String) (cs : List Char) : Option (List Char) :=
  if name.toList.isPrefixOf cs then some (cs.drop name.length) else none

/-- What follows a float. -/
def float? (cs : List Char) : Option (List Char) :=
  let signed := sign cs
  let special := (keyword? "inf" signed.2).orElse fun _ => keyword? "nan" signed.2
  match decimal? signed.2 with
  | none => special
  | some (whole, rest) =>
    let fraction : List Char × List Char :=
      match rest with
      | '.' :: afterPoint => (digits? isDigit afterPoint).getD ([], rest)
      | _ => ([], rest)
    let power := exponent? fraction.2
    if fraction.1.isEmpty && power.isNone then none
    else
      let shift : Int :=
        match power with
        | some (true, digits, _) => -(valueIn 10 digits : Int)
        | some (false, digits, _) => valueIn 10 digits
        | none => 0
      let rest := (power.map fun p => p.2.2).getD fraction.2
      if !signed.1 && overflows (whole ++ fraction.1) (shift - fraction.1.length) then none
      else some rest

end AudioLink.Toml
