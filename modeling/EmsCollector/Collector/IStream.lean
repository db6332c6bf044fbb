import EmsCollector.Misc.Scan
import Mathlib

/-!
# Formatted input

The extractions of `std::istream` that the command parser uses, in the "C" locale, and
`boost::lexical_cast` to `unsigned int`. A character is a byte, given as the character with its
code. An extraction skips white space, line ends included, and then reads one character after
the other until one does not fit; it never takes that character.
-/

namespace EmsCollector

/-- A stream: the characters not read yet, `eofbit` and `failbit`. -/
structure IStream where
  rest : List Char
  eofbit : Bool
  failbit : Bool
  deriving DecidableEq, Repr

/-- `isspace` in the "C" locale. -/
def isSpace (c : Char) : Bool :=
  c = ' ' ∨ c = '\t' ∨ c = '\n' ∨ c = '\x0b' ∨ c = '\x0c' ∨ c = '\r'

namespace IStream

/-- A stream over a buffer. -/
def ofChars (chars : List Char) : IStream := { rest := chars, eofbit := false, failbit := false }

def good (s : IStream) : Bool := !s.eofbit && !s.failbit

/-- The automaton that skips white space. -/
def skipStep (_ : Unit) (c : Char) : Option Unit := if isSpace c then some () else none

/-- The sentry of a formatted extraction: it fails at the end of the stream. -/
def sentry (s : IStream) : Bool × IStream :=
  if s.good then
    let rest := (Scan.run skipStep () s.rest).2
    if rest = [] then (false, { rest := [], eofbit := true, failbit := true })
    else (true, { s with rest })
  else (false, { s with failbit := true })

/-- A formatted extraction by an automaton; `finish` says what was read, if it is well formed. -/
def extract {σ α : Type} (step : σ → Char → Option σ) (start : σ) (finish : σ → Option α)
    (s : IStream) : Option α × IStream :=
  match s.sentry with
  | (false, s) => (none, s)
  | (true, s) =>
      let (state, rest) := Scan.run step start s.rest
      let value := finish state
      (value, { rest, eofbit := rest = [], failbit := value.isNone })

/-- `std::getline` without its result: the characters up to the next line end, and the line end,
    are dropped. -/
def dropLine (chars : List Char) : List Char := (chars.dropWhile (· ≠ '\n')).tail

/-- The characters of a word. -/
def wordStep (word : List Char) (c : Char) : Option (List Char) :=
  if isSpace c then none else some (word ++ [c])

/-- `>> std::string`; a failed extraction leaves the string empty. -/
def readString (s : IStream) : Option String × IStream :=
  s.extract wordStep [] (fun word => some (String.ofList word))

/-- The value of a digit. -/
def digitValue (base : Nat) (c : Char) : Option Nat :=
  let value :=
    if '0' ≤ c ∧ c ≤ '9' then c.toNat - '0'.toNat
    else if 'a' ≤ c ∧ c ≤ 'f' then c.toNat - 'a'.toNat + 10
    else if 'A' ≤ c ∧ c ≤ 'F' then c.toNat - 'A'.toNat + 10
    else base
  if value < base then some value else none

/-- How far an integer has been read: its sign, its leading zeros and prefix, its digits. -/
inductive IntPhase where
  | sign | zeros | digits
  deriving DecidableEq, Repr

/-- The variables of the integer extraction. -/
structure IntState where
  phase : IntPhase
  negative : Bool
  base : Nat
  foundZero : Bool
  digits : Nat
  result : Nat
  deriving DecidableEq, Repr

/-- A digit of an integer. -/
def IntState.digit (st : IntState) (c : Char) : Option IntState :=
  (digitValue st.base c).map fun value =>
    { st with phase := .digits, digits := st.digits + 1, result := st.result * st.base + value }

/-- A leading zero, or the `x` behind one. With no base set (`anyBase`) they set it. -/
def IntState.zero (anyBase : Bool) (st : IntState) (c : Char) : Option IntState :=
  if c = '0' ∧ (!st.foundZero ∨ st.base = 10) then
    let base := if anyBase then 8 else st.base
    some { st with phase := .zeros, foundZero := true, base,
                   digits := if base = 8 then 0 else st.digits + 1 }
  else if st.foundZero ∧ (c = 'x' ∨ c = 'X') ∧ (anyBase ∨ st.base = 16) then
    some { st with phase := .digits, foundZero := false, base := 16, digits := 0 }
  else
    st.digit c

/-- The integer extraction; `anyBase` is set when the base field of the stream is unset. -/
def intStep (anyBase : Bool) (st : IntState) (c : Char) : Option IntState :=
  match st.phase with
  | .sign =>
      if c = '-' ∨ c = '+' then some { st with phase := .zeros, negative := c = '-' }
      else st.zero anyBase c
  | .zeros => st.zero anyBase c
  | .digits => st.digit c

def intStart : IntState :=
  { phase := .sign, negative := false, base := 10, foundZero := false, digits := 0, result := 0 }

def IntState.wellFormed (st : IntState) : Bool := st.digits ≠ 0 ∨ st.foundZero

/-- `>> unsigned int`: the magnitude must fit in 32 bits, a minus sign negates modulo 2^32. -/
def finishUnsigned (st : IntState) : Option UInt32 :=
  if st.wellFormed ∧ st.result < 2 ^ 32 then
    some (if st.negative then 0 - UInt32.ofNat st.result else UInt32.ofNat st.result)
  else none

def readUnsigned (anyBase : Bool) (s : IStream) : Option UInt32 × IStream :=
  s.extract (intStep anyBase) intStart finishUnsigned

/-- `>> bool`: a `long` that must be 0 or 1. -/
def finishBool (st : IntState) : Option Bool :=
  if st.wellFormed then
    if st.result = 0 then some false
    else if st.result = 1 ∧ !st.negative then some true
    else none
  else none

def readBool (s : IStream) : Option Bool × IStream := s.extract (intStep false) intStart finishBool

/-- How far a decimal number has been read. -/
inductive FloatPhase where
  | sign | mantissa | exponentSign | exponent
  deriving DecidableEq, Repr

/-- A decimal number: the digits of the mantissa, how many of them stand behind the point, and
    the exponent. -/
structure FloatState where
  phase : FloatPhase
  negative : Bool
  mantissa : Nat
  digits : Nat
  point : Bool
  scale : Nat
  exponentNegative : Bool
  exponent : Nat
  exponentDigits : Nat
  deriving DecidableEq, Repr

def FloatState.mantissaChar (st : FloatState) (c : Char) : Option FloatState :=
  match digitValue 10 c with
  | some value =>
      some { st with phase := .mantissa, mantissa := st.mantissa * 10 + value,
                     digits := st.digits + 1, scale := if st.point then st.scale + 1 else st.scale }
  | none =>
      if c = '.' ∧ !st.point then some { st with phase := .mantissa, point := true }
      else if (c = 'e' ∨ c = 'E') ∧ st.digits ≠ 0 then some { st with phase := .exponentSign }
      else none

def FloatState.exponentChar (st : FloatState) (c : Char) : Option FloatState :=
  (digitValue 10 c).map fun value =>
    { st with phase := .exponent, exponent := st.exponent * 10 + value,
              exponentDigits := st.exponentDigits + 1 }

/-- The extraction of a floating point number. -/
def floatStep (st : FloatState) (c : Char) : Option FloatState :=
  match st.phase with
  | .sign =>
      if c = '-' ∨ c = '+' then some { st with phase := .mantissa, negative := c = '-' }
      else st.mantissaChar c
  | .mantissa => st.mantissaChar c
  | .exponentSign =>
      if c = '-' ∨ c = '+' then some { st with phase := .exponent, exponentNegative := c = '-' }
      else st.exponentChar c
  | .exponent => st.exponentChar c

def floatStart : FloatState :=
  { phase := .sign, negative := false, mantissa := 0, digits := 0, point := false, scale := 0
    exponentNegative := false, exponent := 0, exponentDigits := 0 }

/-- The characters read form a number: a mantissa, and digits behind an exponent mark. -/
def FloatState.wellFormed (st : FloatState) : Bool :=
  match st.phase with
  | .exponentSign | .exponent => st.digits ≠ 0 ∧ st.exponentDigits ≠ 0
  | _ => st.digits ≠ 0

/-- The number that was read. -/
def FloatState.value (st : FloatState) : Rat :=
  let exponent : Int :=
    (if st.exponentNegative then -(st.exponent : Int) else st.exponent) - st.scale
  (if st.negative then -1 else 1) * st.mantissa * (10 : Rat) ^ exponent

/-- The nearest integer, to even in the middle. -/
def roundHalfEven (q : Rat) : Int :=
  let floor := q.floor
  let rest := q - floor
  if rest < 1 / 2 ∨ (rest = 1 / 2 ∧ floor % 2 = 0) then floor else floor + 1

/-- The largest `k` with `2^k ≤ a`, for positive `a`. -/
def log2Floor (a : Rat) : Int :=
  let k : Int := (Nat.log2 a.num.toNat : Int) - Nat.log2 a.den
  if (2 : Rat) ^ k ≤ a then k else k - 1

/-- The nearest `float`; `none` if the number is too large for one. -/
def roundToFloat (q : Rat) : Option Rat :=
  if q = 0 then some 0
  else
    let exponent := max (-149) (log2Floor |q| - 23)
    let rounded := roundHalfEven (q / (2 : Rat) ^ exponent) * (2 : Rat) ^ exponent
    if |rounded| < (2 : Rat) ^ (128 : Int) then some rounded else none

/-- `>> float`; a number that is too large is a failure. -/
def finishFloat (st : FloatState) : Option Rat := if st.wellFormed then roundToFloat st.value else none

def readFloat (s : IStream) : Option Rat × IStream := s.extract floatStep floatStart finishFloat

/-- `boost::lexical_cast<unsigned int>`: an optional sign and digits only. -/
def lexicalCast (text : List Char) : Option UInt32 :=
  let (negative, digits) : Bool × List Char :=
    match text with
    | '-' :: digits => (true, digits)
    | '+' :: digits => (false, digits)
    | _ => (false, text)
  if digits ≠ [] ∧ digits.all (fun c => '0' ≤ c ∧ c ≤ '9') then
    let value := digits.foldl (fun value c => value * 10 + (c.toNat - '0'.toNat)) 0
    if value < 2 ^ 32 then
      some (if negative then 0 - UInt32.ofNat value else UInt32.ofNat value)
    else none
  else none

end IStream

end EmsCollector
