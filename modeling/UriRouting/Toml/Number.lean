import UriRouting.Text.Digit
import UriRouting.Text.Scan

/-!
# TOML numbers

Integers are decimal with an optional sign and no needless zero in front, or hexadecimal, octal or
binary without a sign; they have to fit into 64 bits.  Floating-point numbers have a fraction, an
exponent or both, or are written `inf` or `nan`; one above the largest double is refused.  An
underscore may stand between any two digits.
-/

namespace UriRouting.Toml

/-- Is the character a decimal digit? -/
def isDecimal (c : Char) : Bool := (decimalDigit? c).isSome

/-! ## Digits -/

/-- Takes digits of some kind with an underscore between two of them here and there, without the
underscores.  Each round takes a digit, so `fuel` bounds the rounds. -/
def moreDigits (kind : Char → Bool) : Nat → Scan (List Char)
  | 0 => return []
  | fuel + 1 => do
    let c? ← Scan.optional (do
      let _ ← Scan.optional (Scan.sign '_')
      Scan.one kind)
    match c? with
    | none => return []
    | some c => return c :: (← moreDigits kind fuel)

/-- Takes one digit of some kind and all that follow. -/
def digits (kind : Char → Bool) : Scan (List Char) := do
  let first ← Scan.one kind
  return first :: (← moreDigits kind (← Scan.rest).length)

/-- Takes a sign if there is one, and says whether it is a minus. -/
def plusOrMinus : Scan Bool := do
  return (← Scan.optional (Scan.one fun c => c == '+' || c == '-')) == some '-'

/-- Takes a decimal number without a needless zero in front. -/
def decimal : Scan (List Char) := do
  if (← Scan.peek) == some '0' then
    Scan.sign '0'
    return ['0']
  else digits isDecimal

/-- The number that digits write in a base. -/
def ofDigits (base : Nat) (digits : List Char) : Nat :=
  digits.foldl (fun n c => n * base + (hexDigit? c).getD 0) 0

/-! ## Integers -/

/-- Does the number fit into 64 bits? -/
def fits (n : Int) : Bool := decide (-0x8000000000000000 ≤ n ∧ n ≤ 0x7FFFFFFFFFFFFFFF)

/-- Takes an integer in a base that a letter names. -/
def based (letter : Char) (base : Nat) : Scan Int := do
  Scan.signs ['0', letter]
  let ds ← digits fun c => ((hexDigit? c).map fun d => decide (d < base)).getD false
  return Int.ofNat (ofDigits base ds)

/-- Takes a decimal integer. -/
def signed : Scan Int := do
  let isMinus ← plusOrMinus
  let n := Int.ofNat (ofDigits 10 (← decimal))
  return if isMinus then -n else n

/-- Takes an integer. -/
def integer : Scan Int := do
  let n ← based 'x' 16 <|> based 'o' 8 <|> based 'b' 2 <|> signed
  Scan.check (fits n)
  return n

/-! ## Floating-point numbers -/

/-- Numbers from here on are nearer to 2^1024 than to the largest double. -/
def overflowStart : Nat := Nat.pow 2 1024 - Nat.pow 2 970

/-- Is `mantissa * 10 ^ exponent` above the largest double, when rounded? -/
def overflows (mantissa : Nat) (exponent : Int) : Bool :=
  let magnitude := Int.ofNat (Nat.toDigits 10 mantissa).length + exponent
  if mantissa = 0 || magnitude < 300 then false
  else if 310 < magnitude then true
  else if 0 ≤ exponent then decide (overflowStart ≤ mantissa * Nat.pow 10 exponent.toNat)
  else decide (overflowStart * Nat.pow 10 (-exponent).toNat ≤ mantissa)

/-- Takes a fraction with its point. -/
def fraction : Scan (List Char) := do
  Scan.sign '.'
  digits isDecimal

/-- Takes an exponent with its letter. -/
def exponent : Scan Int := do
  let _ ← Scan.one fun c => c == 'e' || c == 'E'
  let isMinus ← plusOrMinus
  let n := Int.ofNat (ofDigits 10 (← digits isDecimal))
  return if isMinus then -n else n

/-- Takes a floating-point number that is written with digits. -/
def finite : Scan Unit := do
  let isMinus ← plusOrMinus
  let whole ← decimal
  let part ← Scan.optional fraction
  let power ← Scan.optional exponent
  Scan.check (part.isSome || power.isSome)
  let part := part.getD []
  Scan.check (isMinus ||
    !overflows (ofDigits 10 (whole ++ part)) (power.getD 0 - Int.ofNat part.length))

/-- Takes an infinity, or what is not a number. -/
def special : Scan Unit := do
  let _ ← plusOrMinus
  Scan.signs ['i', 'n', 'f'] <|> Scan.signs ['n', 'a', 'n']

/-- Takes a floating-point number, as it is written. -/
def float : Scan String := return String.ofList (← Scan.taken (finite <|> special))

end UriRouting.Toml
