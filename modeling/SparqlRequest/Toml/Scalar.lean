/-
# Toml.Scalar -- TOML values without quotes or brackets

Truth values, integers, floats, dates and times are runs of letters, digits and the marks
`_`, `+`, `-`, `.` and `:`.  Which of them a run is follows from patterns: underscores stand
between digits only, a decimal integer has no superfluous leading zero, and a float has
digits on both sides of its point.  Dates and times must exist in the calendar and on the
clock; seconds may be left out.
-/
import SparqlRequest.Number.Written
import SparqlRequest.Pattern.Basic
import SparqlRequest.Toml.Basic

set_option autoImplicit false

namespace SparqlRequest.Toml

/-! ## Numbers -/

/-- Digits of a class, with single underscores between them. -/
def digitsPattern (digit : Char → Bool) : Pattern :=
  .seq (.one digit) (.star (.seq (.optional (.char '_')) (.one digit)))

def decimalPattern : Pattern :=
  .seq .sign
    (.alt (.seq (.one fun c => c.isDigit && c ≠ '0')
        (.star (.seq (.optional (.char '_')) (.one Char.isDigit))))
      (.char '0'))

/-- The bases that a prefix announces, with the letter of the prefix. -/
def bases : List (Char × Nat) := [('x', 16), ('o', 8), ('b', 2)]

/-- The value of a digit in the bases up to sixteen. -/
def digitValue (c : Char) : Nat := (Number.hexValue? c).getD 16

/-- The value of digits in a base, underscores left out. -/
def valueIn (base : Nat) (t : Text) : Nat :=
  (t.filter (· ≠ '_')).foldl (fun n c => base * n + digitValue c) 0

def integer? (t : Text) : Option Int :=
  if decimalPattern.matchesAll t then
    match t with
    | '-' :: digits => some (-(valueIn 10 digits : Int))
    | '+' :: digits => some (valueIn 10 digits : Int)
    | digits => some (valueIn 10 digits : Int)
  else
    match t with
    | '0' :: letter :: digits =>
        match bases.find? fun base => base.1 = letter with
        | some (_, base) =>
            if (digitsPattern fun c => digitValue c < base).matchesAll digits then
              some (valueIn base digits : Int)
            else none
        | none => none
    | _ => none

/-- A float: decimals, an exponent or both behind a decimal integer, or one of the
special values. -/
def floatPattern : Pattern :=
  let decimals := Pattern.seq (.char '.') (digitsPattern Char.isDigit)
  let exponent :=
    Pattern.all [.one fun c => c = 'e' || c = 'E', .sign, digitsPattern Char.isDigit]
  .alt (.seq decimalPattern (.alt (.seq decimals (.optional exponent)) exponent))
    (.seq .sign (.alt (.word "inf".toList) (.word "nan".toList)))

/-! ## Dates and times -/

/-- A number of exactly so many digits. -/
def fixed? (count : Nat) (t : Text) : Option (Nat × Text) :=
  let digits := t.take count
  if digits.length = count ∧ digits.all Char.isDigit then
    some (Number.digitsValue digits, t.drop count)
  else none

def expect? (c : Char) : Text → Option Text
  | [] => none
  | d :: t => if d = c then some t else none

def daysIn (year month : Nat) : Nat :=
  if month = 2 then
    if year % 4 = 0 ∧ (year % 100 ≠ 0 ∨ year % 400 = 0) then 29 else 28
  else if [4, 6, 9, 11].contains month then 30
  else 31

def date? (t : Text) : Option Text := do
  let (year, t) ← fixed? 4 t
  let t ← expect? '-' t
  let (month, t) ← fixed? 2 t
  let t ← expect? '-' t
  let (day, t) ← fixed? 2 t
  if 1 ≤ month ∧ month ≤ 12 ∧ 1 ≤ day ∧ day ≤ daysIn year month then some t else none

def hourMinute? (t : Text) : Option Text := do
  let (hour, t) ← fixed? 2 t
  let t ← expect? ':' t
  let (minute, t) ← fixed? 2 t
  if hour ≤ 23 ∧ minute ≤ 59 then some t else none

/-- A time of day: seconds and their decimals may be left out. -/
def time? (t : Text) : Option Text := do
  let t ← hourMinute? t
  match t with
  | ':' :: t =>
      let (second, t) ← fixed? 2 t
      if second ≤ 60 then
        match t with
        | '.' :: t =>
            if (t.head?.map Char.isDigit).getD false then some (t.dropWhile Char.isDigit)
            else none
        | t => some t
      else none
  | t => some t

/-- The distance of a local time from universal time. -/
def offset? : Text → Option Text
  | 'Z' :: t => some t
  | 'z' :: t => some t
  | '+' :: t => hourMinute? t
  | '-' :: t => hourMinute? t
  | _ => none

/-- A run is a date, a time, or both, and with both an offset may follow. -/
def isMoment (t : Text) : Bool :=
  match date? t with
  | some [] => true
  | some (c :: t) =>
      if c = 'T' || c = 't' || c = ' ' then
        match time? t with
        | some [] => true
        | some t => (offset? t) == some []
        | none => false
      else false
  | none => (time? t) == some []

/-! ## Runs -/

def isRunChar (c : Char) : Bool :=
  c.isAlphanum || c = '_' || c = '+' || c = '-' || c = '.' || c = ':'

/-- The run at the front of a text.  A date may have one space before its time. -/
def run (t : Text) : Text × Text :=
  let first := t.takeWhile isRunChar
  let rest := t.dropWhile isRunChar
  match rest with
  | ' ' :: c :: more =>
      if date? first == some [] && c.isDigit then
        (first ++ ' ' :: (c :: more).takeWhile isRunChar, (c :: more).dropWhile isRunChar)
      else (first, rest)
  | _ => (first, rest)

/-- The value that a run is. -/
def ofRun? (t : Text) : Option Toml :=
  if t = "true".toList then some (.boolean true)
  else if t = "false".toList then some (.boolean false)
  else
    match integer? t with
    | some i => some (.integer i)
    | none =>
        if floatPattern.matchesAll t then some (.float t)
        else if isMoment t then some (.moment t)
        else none

end SparqlRequest.Toml
