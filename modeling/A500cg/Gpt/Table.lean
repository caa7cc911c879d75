import A500cg.Osip.Named
import A500cg.Lib.Tokens

/-! `FlashOsipToGPTPartition` of `updater.c`: the partition table of a device with an OSIP
is rewritten line by line before the device is partitioned with it.

A file is the list of its lines. Allocations and the writes to the update file succeed.
A token that is read behind the last one is a stray access. -/

namespace A500cg.Gpt

open Lib Flash Osip

abbrev Token := List Char

def K_MAX_ARGS : Nat := 256
def K_MAX_ARG_LEN : Nat := 256

structure Line where
  text : List Char
  short : text.length < 255
  oneLine : '\n' ∉ text
  noNul : '\x00' ∉ text

structure PartitionFile where
  first : Line
  lines : List Line

inductive TableError where
  | invalidFirstLine
  | unknownLba (name : Token)
  | badSize
  | badLba
  | osip (cause : OsipError)
  | repartition
  deriving DecidableEq, Repr

/-- `str_to_array`: the tokens that `strtok_r` cuts at blanks. -/
def strToArray (str : List Char) : List Token :=
  (((str.splitOn ' ').filter (· ≠ [])).take K_MAX_ARGS).map (·.take K_MAX_ARG_LEN)

def matchesWord (word token : Token) : Bool := token.isPrefixOf word

def argvAt (argv : List Token) (i : Nat) : Outcome TableError Token :=
  match argv[i]? with
  | some token => .ok token
  | none => .stray i

def ADD : Token := ['a', 'd', 'd']
def RESERVED : Token := ['r', 'e', 's', 'e', 'r', 'v', 'e', 'd']
def SIZE_OPTION : Token := ['-', 's']
def START_OPTION : Token := ['-', 'b']

inductive OsPartition where
  | boot
  | recovery
  | fastboot
  deriving DecidableEq, Repr

def OsPartition.all : List OsPartition := [.boot, .recovery, .fastboot]

def OsPartition.name : OsPartition → Token
  | .boot => ['b', 'o', 'o', 't']
  | .recovery => ['r', 'e', 'c', 'o', 'v', 'e', 'r', 'y']
  | .fastboot => ['f', 'a', 's', 't', 'b', 'o', 'o', 't']

def liftOsip {α : Type} : Outcome OsipError α → Outcome TableError α
  | .ok value => .ok value
  | .error cause => .error (.osip cause)
  | .stray index => .stray index

def getNamedOsiiLogicalStartBlock (destination : String) : Flash OsipError Int := do
  let osiiIndex ← getNamedOsiiIndex destination .readOsipHeader
  match ← attempt (lift (checkIndexOutofbound osiiIndex)) with
  | none => pure (-1)
  | some _ =>
      match ← attempt readOSIP with
      | none => pure (-1)
      | some osip => do
          let osii ← lift (osip.getDesc osiiIndex.toNat)
          pure (osii.start : Int)

def namedStartBlock (osip : OSIPHeader) (destination : Token) : Outcome OsipError Int :=
  match getNamedOsiiAttr (String.ofList destination) with
  | none => .ok (-1)
  | some (attr, wanted) => do
      let index ← resolveIndex osip attr wanted .readOsipHeader
      match checkIndexOutofbound index with
      | .ok _ => do
          let osii ← osip.getDesc index.toNat
          pure osii.start
      | _ => .ok (-1)

theorem getNamedOsiiLogicalStartBlock_healthy (destination : Token) {w : World}
    (healthy : Healthy w) (accepted : Accepted w) :
    getNamedOsiiLogicalStartBlock (String.ofList destination) w =
      (namedStartBlock (directory w) destination, w) := by
  have reads := attempt_of_ok (readOSIP_healthy w healthy accepted)
  rw [getNamedOsiiLogicalStartBlock, namedStartBlock]
  cases named : getNamedOsiiAttr (String.ofList destination) with
  | none =>
      have missing : getNamedOsiiIndex (String.ofList destination) .readOsipHeader w =
          (.ok (-1), w) := by
        rw [getNamedOsiiIndex, named]
        rfl
      rw [bind_of_ok missing]
      rfl
  | some pair =>
      rcases pair with ⟨attr, wanted⟩
      have looked : getNamedOsiiIndex (String.ofList destination) .readOsipHeader w =
          (resolveIndex (directory w) attr wanted .readOsipHeader, w) := by
        rw [getNamedOsiiIndex, named]
        change getAttributeOsiiIndex attr wanted .readOsipHeader w = _
        rw [getAttributeOsiiIndex, bind_of_ok reads]
        rfl
      dsimp only
      cases index : resolveIndex (directory w) attr wanted .readOsipHeader with
      | error cause =>
          rw [index] at looked
          rw [bind_of_error looked]
          rfl
      | stray place =>
          rw [index] at looked
          rw [bind_of_stray looked]
          rfl
      | ok k =>
          rw [index] at looked
          rw [bind_of_ok looked, Outcome.ok_bind]
          cases inside : checkIndexOutofbound k with
          | error cause => rfl
          | stray place => exact (Outcome.require_stray inside).elim
          | ok _ =>
              change (attempt readOSIP >>= _) w = _
              rw [bind_of_ok reads]
              change (lift ((directory w).getDesc k.toNat) >>= _) w = _
              cases (directory w).getDesc k.toNat <;> rfl

/-- The loop that catches the partitions to update: the block the entry starts at, if the
line is to be updated, and `update_write`. -/
def catchPartition (osip : OSIPHeader) : List Token → Outcome TableError (Option Int × Bool)
  | [] => .ok (none, true)
  | token :: rest =>
      let updateWrite := !matchesWord RESERVED token
      if OsPartition.all.any (fun p => matchesWord p.name token) then do
        let osiiLba ← liftOsip (namedStartBlock osip token)
        Outcome.require (osiiLba ≠ -1) (.unknownLba token)
        pure (some osiiLba, updateWrite)
      else if !updateWrite then .ok (none, updateWrite)
      else catchPartition osip rest

def isSpace (c : Char) : Bool := c ∈ [' ', '\t', '\n', '\x0b', '\x0c', '\r']
def isOctal (c : Char) : Bool := '0' ≤ c && c ≤ '7'
def isDecimal (c : Char) : Bool := '0' ≤ c && c ≤ '9'
def isHex (c : Char) : Bool := isDecimal c || ('a' ≤ c && c ≤ 'f') || ('A' ≤ c && c ≤ 'F')

/-- What `strtoull` with base 0 leaves of the token; all of it when there is no number. -/
def strtoullRest (token : Token) : List Char :=
  let body := match token.dropWhile isSpace with
    | '+' :: rest => rest
    | '-' :: rest => rest
    | rest => rest
  match body with
  | [] => token
  | '0' :: x :: d :: rest =>
      if (x = 'x' ∨ x = 'X') ∧ isHex d then rest.dropWhile isHex
      else (x :: d :: rest).dropWhile isOctal
  | '0' :: rest => rest.dropWhile isOctal
  | d :: rest => if isDecimal d then rest.dropWhile isDecimal else token

/-- `sprintf` with `%d` of a number that is not negative. -/
def decimal (n : Nat) : Token := Nat.toDigits 10 n

def replaceNumber (cause : TableError) (argv : List Token) (k : Nat) (value : Token) :
    Outcome TableError (List Token) := do
  let old ← argvAt argv k
  Outcome.require (strtoullRest old = []) cause
  pure (argv.set k value)

def updateStep (osiiLba : Int) (argv : List Token) (i : Nat) : Outcome TableError (List Token) := do
  let token ← argvAt argv i
  let argv ← if matchesWord SIZE_OPTION token then
      replaceNumber .badSize argv (i + 1) (decimal OS_MAX_LBA.toNat)
    else pure argv
  if matchesWord START_OPTION token then
    replaceNumber .badLba argv (i + 1) (decimal osiiLba.toNat)
  else pure argv

def updateLoop (osiiLba : Int) : List Token → List Nat → Outcome TableError (List Token)
  | argv, [] => .ok argv
  | argv, i :: rest => do
      let argv ← updateStep osiiLba argv i
      updateLoop osiiLba argv rest

def updateValues (osiiLba : Int) (argv : List Token) : Outcome TableError (List Token) :=
  updateLoop osiiLba argv (List.range argv.length)

/-- The tokens that are written for a line; `none` where the line is left out. -/
def rewriteTokens (osip : OSIPHeader) (argv : List Token) :
    Outcome TableError (Option (List Token)) := do
  let command ← argvAt argv 0
  if matchesWord ADD command then do
    let (need, updateWrite) ← catchPartition osip argv
    let argv ← match need with
      | some osiiLba => updateValues osiiLba argv
      | none => pure argv
    pure (if updateWrite then some argv else none)
  else pure (some argv)

def rewriteLines (osip : OSIPHeader) : List Line → Outcome TableError (List (Option (List Token)))
  | [] => .ok []
  | line :: rest => do
      let written ← rewriteTokens osip (strToArray line.text)
      let more ← rewriteLines osip rest
      pure (written :: more)

def printLine : Option (List Token) → List Char
  | some argv => joinEnd ' ' argv ++ ['\n']
  | none => []

def printTable (first : Line) (written : List (Option (List Token))) : List Char :=
  first.text ++ '\n' :: written.flatMap printLine

/-- `sscanf` with `%*[^=]=%255s` on the first line finds a value. -/
def hasType (first : List Char) : Bool :=
  !(first.takeWhile (· ≠ '=')).isEmpty &&
    !(((first.dropWhile (· ≠ '=')).drop 1).dropWhile isSpace).isEmpty

/-- `FlashOsipToGPTPartition`, with what it writes to the update file for each line; the
partitioning that the file is then handed to is a parameter. -/
def flashOsipToGPTPartition (oemPartitionCmd : List Char → Bool) (osip : OSIPHeader)
    (file : PartitionFile) : Outcome TableError (List (Option (List Token))) := do
  Outcome.require (hasType file.first.text = true) .invalidFirstLine
  let written ← rewriteLines osip file.lines
  Outcome.require (oemPartitionCmd (printTable file.first written) = true) .repartition
  pure written

end A500cg.Gpt
