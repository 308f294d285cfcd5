import DamagePlan.Datum.Basic
import DamagePlan.Decimal.Reading
import DamagePlan.Text.Pattern
import DamagePlan.Yaml.Fault

/-!
Plain scalars of YAML: words for truth and nothing, integers in several bases, decimal numbers, moments, and text
for all the rest.
-/
set_option autoImplicit false

namespace DamagePlan.Yaml

open Text

attribute [local instance (2000)] instPowNat

def truths : List String := ["yes", "Yes", "YES", "true", "True", "TRUE", "on", "On", "ON"]

def falsehoods : List String := ["no", "No", "NO", "false", "False", "FALSE", "off", "Off", "OFF"]

def nothings : List String := ["", "~", "null", "Null", "NULL"]

def oneOf (chars : String) : Pattern := .one (chars.toList.contains ·)

def sign : Pattern := .optional (oneOf "+-")

def spacedDigits (digit : Char → Bool) (least : Nat) : Pattern := .run (fun c => digit c || c == '_') least none

def leadingDigit : Pattern := .one isAsciiDigit

def sixties : (places : Nat) → Pattern
  | 0 => .empty
  | places + 1 =>
    .seq (oneOf ":") (.seq (.optional (.one fun c => '0' ≤ c && c ≤ '5')) (.seq leadingDigit (.optional (sixties places))))

def takesAll (p : Pattern) (s : String) : Bool := (p.ends ⟨none, s.toList, []⟩).any (·.rest.isEmpty)

def exponent : Pattern := .optional (.sequence [oneOf "eE", oneOf "+-", .run isAsciiDigit 1 none])

def isOctalDigit (c : Char) : Bool := '0' ≤ c && c ≤ '7'

def isInteger (s : String) : Bool :=
  takesAll (.seq sign (.anyOf [
    .seq (.exactly "0b") (spacedDigits (fun c => c == '0' || c == '1') 1),
    .seq (.exactly "0x") (spacedDigits (fun c => (hexDigit? c).isSome) 1),
    .seq (.exactly "0") (spacedDigits isOctalDigit 1),
    .exactly "0",
    .seq (.one fun c => '1' ≤ c && c ≤ '9') (.seq (spacedDigits isAsciiDigit 0) (.optional (sixties s.length)))])) s
where
  hexDigit? (c : Char) : Option Char :=
    if isAsciiDigit c || ('a' ≤ c && c ≤ 'f') || ('A' ≤ c && c ≤ 'F') then some c else none

def isDecimal (s : String) : Bool :=
  takesAll (.anyOf [
    .sequence [sign, leadingDigit, spacedDigits isAsciiDigit 0, oneOf ".", spacedDigits isAsciiDigit 0, exponent],
    .sequence [oneOf ".", leadingDigit, spacedDigits isAsciiDigit 0, exponent],
    .sequence [sign, leadingDigit, spacedDigits isAsciiDigit 0, sixties s.length, oneOf ".",
      spacedDigits isAsciiDigit 0]]) s

def infinities : List String := [".inf", ".Inf", ".INF", "+.inf", "+.Inf", "+.INF"]

def negativeInfinities : List String := ["-.inf", "-.Inf", "-.INF"]

def notNumbers : List String := [".nan", ".NaN", ".NAN"]

def digitValue (c : Char) : Nat :=
  if isAsciiDigit c then c.toNat - 48 else if 'a' ≤ c && c ≤ 'f' then c.toNat - 87 else c.toNat - 55

def inBase (base : Nat) (cs : List Char) : Nat := cs.foldl (fun n c => n * base + digitValue c) 0

def places (cs : List Char) : List (List Char) := cs.splitOnP (· == ':')

def binaryMagnitude (base : Nat) (digits : List Char) : Except Fault Nat :=
  if digits.isEmpty then .error (.noDigits base) else .ok (inBase base digits)

def magnitude (cs : List Char) : Except Fault Nat :=
  match cs with
  | ['0'] => .ok 0
  | '0' :: 'b' :: digits => binaryMagnitude 2 digits
  | '0' :: 'x' :: digits => binaryMagnitude 16 digits
  | '0' :: digits => binaryMagnitude 8 digits
  | _ => do
    let digits ← ((places cs).mapM Decimal.readDigits).mapError .tooLong
    return digits.foldl (fun n place => n * 60 + place) 0

def unsigned (s : String) : Bool × List Char :=
  match s.toList.filter (· != '_') with
  | '-' :: cs => (true, cs)
  | '+' :: cs => (false, cs)
  | cs => (false, cs)

def integerOf (s : String) : Except Fault Int := do
  let (negative, cs) := unsigned s
  let n ← magnitude cs
  return if negative then -(n : Int) else n

def sixtiesSum (xs : List Float) : Except Fault Float := do
  let scaled ← (xs.reverse.zipIdx).mapM fun (x, place) =>
    match Decimal.nearestInt? (60 ^ place : Nat) with
    | some base => .ok (x * base)
    | none => .error .tooManyPlaces
  return scaled.foldl (· + ·) 0

def decimalOf (s : String) : Except Fault Float := do
  let (negative, cs) := unsigned s
  let x ← match (places cs).map fun place => (Decimal.ofText? (String.ofList place)).getD 0 with
    | [x] => .ok x
    | xs => sixtiesSum xs
  return if negative then -x else x

inductive MomentPart where
  | year | month | day | hour | minute | second | fraction | zone | zoneSign | zoneHours | zoneMinutes

def MomentPart.label : MomentPart → Nat := MomentPart.ctorIdx

def numberPart (part : MomentPart) (least most : Nat) : Pattern :=
  .mark part.label (.run isAsciiDigit least (some most))

def lineBlanks (least : Nat) : Pattern := .run (fun c => c == ' ' || c == '\t') least none

def dayPattern (least : Nat) : Pattern :=
  .sequence [numberPart .year 4 4, oneOf "-", numberPart .month least 2, oneOf "-", numberPart .day least 2]

def zonePattern : Pattern :=
  .mark MomentPart.zone.label (.either (oneOf "Z")
    (.sequence [.mark MomentPart.zoneSign.label (oneOf "+-"), numberPart .zoneHours 1 2,
      .optional (.seq (oneOf ":") (numberPart .zoneMinutes 2 2))]))

def momentPattern : Pattern :=
  .either (dayPattern 2) (.sequence [dayPattern 1, .either (oneOf "Tt") (lineBlanks 1), numberPart .hour 1 2,
    oneOf ":", numberPart .minute 2 2, oneOf ":", numberPart .second 2 2,
    .optional (.seq (oneOf ".") (.mark MomentPart.fraction.label (.run isAsciiDigit 0 none))),
    .optional (.seq (lineBlanks 0) zonePattern)])

def wholeMatch? (p : Pattern) (s : String) : Option Text.Place :=
  (p.ends ⟨none, s.toList, []⟩).find? (·.rest.isEmpty)

def momentOf (found : Text.Place) : Moment :=
  let text? (part : MomentPart) := found.mark? part.label
  let number? (part : MomentPart) := (text? part).map fun digits => Decimal.digitsValue digits.toList
  let number (part : MomentPart) := (number? part).getD 0
  let microsecond := Decimal.digitsValue
    ((((text? .fraction).getD "").toList ++ List.replicate 6 '0').take 6)
  let ahead : Int := number .zoneHours * 60 + number .zoneMinutes
  let offset := (text? .zone).map fun _ => if text? .zoneSign = some "-" then -ahead else ahead
  { day := ⟨number .year, number .month, number .day⟩
    time := (number? .hour).map fun hour => ⟨hour, number .minute, number .second, microsecond, offset⟩ }

def checkedMoment (m : Moment) : Except Fault Moment :=
  match m.fault? with
  | some e => .error (.moment e)
  | none => .ok m

def mergeSign : String := "<<"

def defaultSign : String := "="

def plainValue (s : String) : Except Fault Scalar :=
  if s == defaultSign || s == mergeSign then .error (.noValue s)
  else if truths.contains s then .ok (.bool true)
  else if falsehoods.contains s then .ok (.bool false)
  else if nothings.contains s then .ok .null
  else if isDecimal s then (decimalOf s).map .float
  else if infinities.contains s then .ok (.float Decimal.infinity)
  else if negativeInfinities.contains s then .ok (.float (-Decimal.infinity))
  else if notNumbers.contains s then .ok (.float Decimal.notANumber)
  else if isInteger s then (integerOf s).map .int
  else
    match wholeMatch? momentPattern s with
    | some found => (checkedMoment (momentOf found)).map .moment
    | none => .ok (.text s)

end DamagePlan.Yaml
