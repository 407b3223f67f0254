import ActionLookup.Json.Fault

/-!
Numbers of a JSON text.

A number that is kept is an integer if it is one of 64 bits, and else a double: its digits, as
many as 64 bits hold, times a power of ten. A number that is skipped is only checked.
-/

namespace ActionLookup.Json

def digit? (c : Char) : Option Nat :=
  if '0' ≤ c ∧ c ≤ '9' then some (c.toNat - '0'.toNat) else none

def isDigit (c : Char) : Bool := (digit? c).isSome

def startsWithDigit : List Char → Bool
  | [] => false
  | c :: _ => isDigit c

def dropDigits (cs : List Char) : List Char := cs.dropWhile isDigit

def takeDigits (bound : Nat) : Nat → List Char → Nat × List Char
  | n, [] => (n, [])
  | n, c :: rest =>
      match digit? c with
      | none => (n, c :: rest)
      | some d => if n * 10 + d < bound then takeDigits bound (n * 10 + d) rest else (n, c :: rest)

def significandBound : Nat := Nat.pow 2 64

def exponentBound : Nat := Nat.pow 2 31

def powerOfTen (n : Nat) : Float := Float.ofScientific 1 false n

/-- A large power is divided away in steps, until nothing is left. -/
def divideByPower (x : Float) (n : Nat) : Float :=
  if n ≤ 308 then x / powerOfTen n
  else if x == 0 then x
  else divideByPower (x / powerOfTen 308) (n - 308)
termination_by n

def multiplyByPower (x : Float) (n : Nat) : Option Float :=
  if n ≤ 308 then
    let y := x * powerOfTen n
    if y.isInf then none else some y
  else if x == 0 then some x
  else none

def scaled (significand : Nat) : Int → Option Float
  | .ofNat n => multiplyByPower (UInt64.ofNat significand).toFloat n
  | .negSucc n => some (divideByPower (UInt64.ofNat significand).toFloat (n + 1))

def fractionOf (negative : Bool) (x : Float) : Found :=
  .fraction (if negative then (-x).toBits else x.toBits)

def finish (negative : Bool) (significand : Nat) (power : Int) (rest : List Char) :
    Except Fault (Found × List Char) :=
  match scaled significand power with
  | some x => .ok (fractionOf negative x, rest)
  | none => .error (.before .numberOutOfRange rest)

def exponentSign : List Char → Bool × List Char
  | '+' :: rest => (false, rest)
  | '-' :: rest => (true, rest)
  | cs => (false, cs)

/-- After the `e`. An exponent out of bounds empties a negative power and is out of range otherwise. -/
def readExponent (negative : Bool) (significand : Nat) (power : Int) (cs : List Char) :
    Except Fault (Found × List Char) :=
  let (down, cs) := exponentSign cs
  match cs with
  | [] => .error (.before .endInValue [])
  | c :: rest =>
      match digit? c with
      | none => .error (.onByte .invalidNumber cs)
      | some d =>
          let (n, rest) := takeDigits exponentBound d rest
          if startsWithDigit rest then
            if significand ≠ 0 ∧ !down then .error (.before .numberOutOfRange (rest.drop 1))
            else .ok (fractionOf negative 0, dropDigits rest)
          else finish negative significand (if down then power - n else power + n) rest

def readPower (negative : Bool) (significand : Nat) (power : Int) :
    List Char → Except Fault (Found × List Char)
  | 'e' :: rest => readExponent negative significand power rest
  | 'E' :: rest => readExponent negative significand power rest
  | cs => finish negative significand power cs

/-- After the point. Digits that no longer fit are dropped. -/
def readFraction (negative : Bool) (significand : Nat) (power : Int) (cs : List Char) :
    Except Fault (Found × List Char) :=
  let (n, rest) := takeDigits significandBound significand cs
  let taken := cs.length - rest.length
  if startsWithDigit rest then readPower negative n (power - taken) (dropDigits rest)
  else if taken = 0 then
    match rest with
    | [] => .error (.before .endInValue [])
    | _ :: _ => .error (.onByte .invalidNumber rest)
  else readPower negative n (power - taken) rest

/-- After integer digits that do not all fit: the ones left over only raise the power. -/
def readLong (negative : Bool) (significand : Nat) (cs : List Char) :
    Except Fault (Found × List Char) :=
  let rest := dropDigits cs
  let power := cs.length - rest.length
  match rest with
  | '.' :: rest => readFraction negative significand power rest
  | rest => readPower negative significand power rest

def integerOf (negative : Bool) (significand : Nat) : Found :=
  if !negative then .integer significand
  else if significand = 0 ∨ Nat.pow 2 63 < significand then
    fractionOf true (UInt64.ofNat significand).toFloat
  else .integer (-significand)

def readAfterInteger (negative : Bool) (significand : Nat) :
    List Char → Except Fault (Found × List Char)
  | '.' :: rest => readFraction negative significand 0 rest
  | 'e' :: rest => readExponent negative significand 0 rest
  | 'E' :: rest => readExponent negative significand 0 rest
  | cs => .ok (integerOf negative significand, cs)

def readNumber (negative : Bool) (cs : List Char) : Except Fault (Found × List Char) :=
  match cs with
  | [] => .error (.before .endInValue [])
  | c :: rest =>
      match digit? c with
      | none => .error (.onByte .invalidNumber cs)
      | some 0 =>
          if startsWithDigit rest then .error (.onByte .invalidNumber rest)
          else readAfterInteger negative 0 rest
      | some d =>
          let (n, rest) := takeDigits significandBound d rest
          if startsWithDigit rest then readLong negative n rest
          else readAfterInteger negative n rest

def skipDigits1 (cs : List Char) : Except Fault (List Char) :=
  if startsWithDigit cs then .ok (dropDigits cs) else .error (.onByte .invalidNumber cs)

def skipExponent : List Char → Except Fault (List Char)
  | 'e' :: rest => skipDigits1 (exponentSign rest).2
  | 'E' :: rest => skipDigits1 (exponentSign rest).2
  | cs => .ok cs

def skipAfterInteger : List Char → Except Fault (List Char)
  | '.' :: rest =>
      match skipDigits1 rest with
      | .error f => .error f
      | .ok rest => skipExponent rest
  | cs => skipExponent cs

def skipNumber (cs : List Char) : Except Fault (List Char) :=
  match cs with
  | [] => .error (.onByte .invalidNumber [])
  | c :: rest =>
      match digit? c with
      | none => .error (.onByte .invalidNumber cs)
      | some 0 =>
          if startsWithDigit rest then .error (.onByte .invalidNumber rest)
          else skipAfterInteger rest
      | some _ => skipAfterInteger (dropDigits rest)

end ActionLookup.Json
