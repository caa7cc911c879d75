import A500cg.Gpt.Table

/-! `strtoull` with base 0: the number that it reads at the start of a token. -/

namespace A500cg.Gpt

def strtoullSubject (token : Token) : Bool × List Char :=
  match token.dropWhile isSpace with
  | '+' :: rest => (false, rest)
  | '-' :: rest => (true, rest)
  | rest => (false, rest)

def digitValue (c : Char) : Nat :=
  if isDecimal c then c.toNat - '0'.toNat
  else if 'a' ≤ c ∧ c ≤ 'f' then c.toNat - 'a'.toNat + 10
  else c.toNat - 'A'.toNat + 10

def numberIn (base : Nat) (digits : List Char) : Nat :=
  digits.foldl (fun n c => base * n + digitValue c) 0

def strtoullMagnitude (token : Token) : Nat :=
  match (strtoullSubject token).2 with
  | [] => 0
  | '0' :: x :: d :: rest =>
      if (x = 'x' ∨ x = 'X') ∧ isHex d then numberIn 16 ((d :: rest).takeWhile isHex)
      else numberIn 8 ((x :: d :: rest).takeWhile isOctal)
  | '0' :: rest => numberIn 8 (rest.takeWhile isOctal)
  | body => numberIn 10 (body.takeWhile isDecimal)

/-- `strtoull` stays at its maximum when the number is too large, and negates it for a minus. -/
def strtoull (token : Token) : Nat :=
  if strtoullMagnitude token ≥ 2 ^ 64 then 2 ^ 64 - 1
  else if (strtoullSubject token).1 then (2 ^ 64 - strtoullMagnitude token) % 2 ^ 64
  else strtoullMagnitude token

def unsignedValue (token : Token) : Option Nat :=
  if strtoullRest token = [] ∧ (strtoullSubject token).1 = false then some (strtoullMagnitude token)
  else none

end A500cg.Gpt
