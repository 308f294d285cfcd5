import DamagePlan.Datum.Basic
import DamagePlan.Decimal.Reading

/-!
Reading records from data. A reading gathers all errors, each with the place of the field it is
about, in the order of the fields.
-/
set_option autoImplicit false

namespace DamagePlan.Form

attribute [local instance (2000)] instPowNat

inductive FieldErrorKind where
  | missing
  | stringType
  | stringTooShort
  | intType
  | intParsing
  | intParsingSize
  | intFromFloat
  | finiteNumber
  | floatType
  | floatParsing
  | boolType
  | boolParsing
  | enum
  | listType
  | dictType
  | modelType
  | greaterThan
  | greaterThanEqual
  | lessThanEqual
  | tooLong
  | valueError
deriving DecidableEq, Repr

def FieldErrorKind.code : FieldErrorKind → String
  | .missing => "missing"
  | .stringType => "string_type"
  | .stringTooShort => "string_too_short"
  | .intType => "int_type"
  | .intParsing => "int_parsing"
  | .intParsingSize => "int_parsing_size"
  | .intFromFloat => "int_from_float"
  | .finiteNumber => "finite_number"
  | .floatType => "float_type"
  | .floatParsing => "float_parsing"
  | .boolType => "bool_type"
  | .boolParsing => "bool_parsing"
  | .enum => "enum"
  | .listType => "list_type"
  | .dictType => "dict_type"
  | .modelType => "model_type"
  | .greaterThan => "greater_than"
  | .greaterThanEqual => "greater_than_equal"
  | .lessThanEqual => "less_than_equal"
  | .tooLong => "too_long"
  | .valueError => "value_error"

structure FieldError where
  location : List String
  kind : FieldErrorKind
deriving DecidableEq, Repr

def FieldError.place (e : FieldError) : String := ".".intercalate e.location

inductive Checked (α : Type) where
  | valid (a : α)
  | invalid (errors : List FieldError)

namespace Checked

variable {α β : Type}

instance : Applicative Checked where
  pure := .valid
  seq f x := match f with
    | .valid g => match x () with
      | .valid a => .valid (g a)
      | .invalid es => .invalid es
    | .invalid es => match x () with
      | .valid _ => .invalid es
      | .invalid es' => .invalid (es ++ es')

def fail (kind : FieldErrorKind) : Checked α := .invalid [⟨[], kind⟩]

def andThen (x : Checked α) (f : α → Checked β) : Checked β :=
  match x with
  | .valid a => f a
  | .invalid es => .invalid es

def inside (key : String) : Checked α → Checked α
  | .valid a => .valid a
  | .invalid es => .invalid (es.map fun e => { e with location := key :: e.location })

def toExcept : Checked α → Except (List FieldError) α
  | .valid a => .ok a
  | .invalid es => .error es

end Checked

abbrev Reader (α : Type) := Datum → Checked α

namespace Reader

variable {α β : Type}

def any : Reader Json := fun d => .valid d.toJson

def string : Reader String
  | .scalar (.text s) => .valid s
  | _ => .fail .stringType

def nullable (read : Reader α) : Reader (Option α)
  | .scalar .null => .valid none
  | d => some <$> read d

def nonEmptyString : Reader String := fun d =>
  (string d).andThen fun s => if s.isEmpty then .fail .stringTooShort else .valid s

def withoutUnderscores (cs : List Char) : List Char :=
  let doubled := (cs.zip (cs.drop 1)).any fun (a, b) => a == '_' && b == '_'
  if cs.head? = some '_' || cs.getLast? = some '_' || doubled then cs else cs.filter (· != '_')

def withoutZeroFraction (cs : List Char) : List Char :=
  match cs.dropWhile (· != '.') with
  | '.' :: zero :: rest => if (zero :: rest).all (· == '0') then cs.takeWhile (· != '.') else cs
  | _ => cs

def stripped (s : String) : List Char := Text.trimWhile Text.isWhiteSpace s.toList

def withoutLeadingZeros? : List Char → Option (List Char)
  | '0' :: rest =>
    match rest.dropWhile fun c => c == '0' || c == '_' with
    | [] => some [((rest.getLast?).getD '0')]
    | '.' :: more => some (((rest.takeWhile fun c => c == '0' || c == '_').getLast?.getD '0') :: '.' :: more)
    | c :: more => if c == '-' || Text.isAsciiDigit c then some (c :: more) else none
  | c :: rest => if c == '-' || Text.isAsciiDigit c then some (c :: rest) else none
  | [] => none

def maxNumberLength : Nat := 4300

def isTooLong (cs : List Char) : Bool :=
  let (sign, rest) := match cs with
    | '-' :: rest => (1, rest)
    | rest => (0, rest)
  let digits := rest.takeWhile Text.isAsciiDigit
  digits.head?.any (· != '0') && maxNumberLength < sign + digits.length

def plainInteger? (cs : List Char) : Option Int :=
  let (negative, digits) := match cs with
    | '-' :: rest => (true, rest)
    | rest => (false, rest)
  if digits.isEmpty || !digits.all Text.isAsciiDigit || (digits.head? = some '0' && 1 < digits.length) then none else
  let n : Int := Decimal.digitsValue digits
  some (if negative then -n else n)

def plainForm? (cs : List Char) : Option (List Char) :=
  let (sign, unsigned) := match cs with
    | '-' :: rest => (['-'], rest)
    | '+' :: rest => ([], rest)
    | rest => ([], rest)
  if unsigned.head? = some '-' || unsigned.head? = some '+' then none else
  (withoutLeadingZeros? unsigned).map fun rest => sign ++ withoutUnderscores (withoutZeroFraction rest)

def integerOfText (s : String) : Checked Int :=
  if isTooLong s.toList then .fail .intParsingSize else
  match plainForm? (stripped s) with
  | none => .fail .intParsing
  | some cs =>
    if isTooLong cs then .fail .intParsingSize else
    match plainInteger? cs with
    | some n => .valid n
    | none => .fail .intParsing

def fitsWord (n : Int) : Bool := -(2 ^ (63 : Nat)) ≤ n && n < 2 ^ (63 : Nat)

def integerOfFloat (x : Float) : Checked Int :=
  if !Decimal.isFinite x then .fail .finiteNumber else
  match Decimal.integral? x with
  | some n => if n.natAbs < 2 ^ (63 : Nat) then .valid n else .fail .intParsingSize
  | none => .fail .intFromFloat

def integer : Reader Int
  | .scalar (.int n) => .valid n
  | .scalar (.bool b) => .valid (if b then 1 else 0)
  | .scalar (.float x) => integerOfFloat x
  | .scalar (.text s) => integerOfText s
  | _ => .fail .intType

def integerIn (least : Int) (most : Option Int) : Reader Int := fun d =>
  (integer d).andThen fun n =>
    if n < least then .fail .greaterThanEqual
    else if most.any (· < n) then .fail .lessThanEqual
    else .valid n

def naturalIn (least : Nat) (most : Option Nat) : Reader Nat := fun d =>
  Int.toNat <$> integerIn least (most.map Int.ofNat) d

def positiveInteger : Reader Int := fun d =>
  (integer d).andThen fun n => if 0 < n then .valid n else .fail .greaterThan

def floatOfText? (s : String) : Option Float :=
  let cs := if s.contains '_' then withoutUnderscores s.toList else stripped s
  if cs.all fun c => 32 < c.toNat && c.toNat < 128 && c != '_' then Decimal.ofText? (String.ofList cs) else none

def float : Reader Float
  | .scalar (.float x) => .valid x
  | .scalar (.int n) => match Decimal.nearestInt? n with
    | some x => .valid x
    | none => .fail .floatType
  | .scalar (.bool b) => .valid (if b then 1 else 0)
  | .scalar (.text s) => match floatOfText? s with
    | some x => .valid x
    | none => .fail .floatParsing
  | _ => .fail .floatType

def floatIn (least most : Float) : Reader Float := fun d =>
  (float d).andThen fun x =>
    if !(x ≤ most) then .fail .lessThanEqual
    else if !(least ≤ x) then .fail .greaterThanEqual
    else .valid x

def positiveFloat : Reader Float := fun d =>
  (float d).andThen fun x => if 0 < x then .valid x else .fail .greaterThan

def boolOfText? (s : String) : Option Bool :=
  let s := s.map fun c => if 'A' ≤ c && c ≤ 'Z' then Char.ofNat (c.toNat + 32) else c
  if ["1", "on", "t", "true", "y", "yes"].contains s then some true
  else if ["0", "off", "f", "false", "n", "no"].contains s then some false
  else none

def boolOfInt (n : Int) : Checked Bool :=
  if n = 0 then .valid false else if n = 1 then .valid true
  else if fitsWord n then .fail .boolParsing
  else .fail .boolType

def bool : Reader Bool
  | .scalar (.bool b) => .valid b
  | .scalar (.int n) => boolOfInt n
  | .scalar (.float x) => match integerOfFloat x with
    | .valid n => boolOfInt n
    | .invalid _ => .fail .boolType
  | .scalar (.text s) => match boolOfText? s with
    | some b => .valid b
    | none => .fail .boolParsing
  | _ => .fail .boolType

def listFrom (read : Reader α) : (i : Nat) → List Datum → Checked (List α)
  | _, [] => .valid []
  | i, d :: ds => List.cons <$> (read d).inside (toString i) <*> listFrom read (i + 1) ds

def list (read : Reader α) : Reader (List α)
  | .list items => listFrom read 0 items
  | _ => .fail .listType

def key (k : Scalar) : Checked String := (string (.scalar k)).inside "[key]"

def fieldsFrom (read : Reader α) : List (Scalar × Datum) → Checked (Fields α)
  | [] => .valid []
  | (k, d) :: rest =>
    (fun name a fields => (name, a) :: fields) <$> (key k).inside k.shown <*> (read d).inside k.shown
      <*> fieldsFrom read rest

def fields (read : Reader α) : Reader (Fields α)
  | .mapping entries => fieldsFrom read entries
  | _ => .fail .dictType

end Reader

variable {α : Type}

def required (record : Fields Datum) (key : String) (read : Reader α) : Checked α :=
  match record.find? key with
  | some d => (read d).inside key
  | none => .invalid [⟨[key], .missing⟩]

def defaulted (record : Fields Datum) (key : String) (default : α) (read : Reader α) : Checked α :=
  match record.find? key with
  | some d => (read d).inside key
  | none => .valid default

def optional (record : Fields Datum) (key : String) (read : Reader α) : Checked (Option α) :=
  defaulted record key none (Reader.nullable read)

def ofMapping (read : Fields Datum → Checked α) : Reader α
  | .mapping entries => read (Datum.namedEntries entries)
  | _ => .fail .modelType

def ofObject (read : Fields Datum → Checked α) (j : Json) : Checked α := ofMapping read (.ofJson j)

end DamagePlan.Form
