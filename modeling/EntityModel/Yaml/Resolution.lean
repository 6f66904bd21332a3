import EntityModel.Moment

/-!
# Types of plain scalars

A plain scalar without a tag is given one by its form: a truth value, a float, an integer, a merge key, null, a
moment, a value key, or else a text. The forms are those of version 1.1, where `yes` is a truth value, a
leading zero marks an octal number and colons separate sexagesimal digits. A line feed at the end of a text does
not count for its form.
-/

namespace EntityModel.Yaml

/-- How the tags of the standard types begin. -/
def standardTag (name : String) : String := "tag:yaml.org,2002:" ++ name

namespace Form

/-! ## Parts of a form -/

def dropSign : List Char → List Char
  | '+' :: s => s
  | '-' :: s => s
  | s => s

/-- A digit or an underscore. -/
def isDigitMark (c : Char) : Bool := c.isDigit || c == '_'

/-- Some characters, all of a kind. -/
def someAll (p : Char → Bool) (s : List Char) : Bool := !s.isEmpty && s.all p

/-- A number of sexagesimal places behind colons: each of one or two digits below sixty. -/
def isSixties : List Char → Bool
  | [':', a] => a.isDigit
  | ':' :: a :: b :: s =>
      if b = ':' then a.isDigit && isSixties (b :: s)
      else ('0' ≤ a && a ≤ '5') && b.isDigit && (s.isEmpty || isSixties s)
  | _ => false

/-- A digit and then digits and underscores, before what is left. -/
def dropDigits (s : List Char) : Option (List Char) :=
  match s with
  | c :: _ => if c.isDigit then some (s.dropWhile isDigitMark) else none
  | [] => none

/-- An exponent with a sign, or nothing. -/
def isExponent : List Char → Bool
  | [] => true
  | e :: sign :: ds => (e == 'e' || e == 'E') && (sign == '+' || sign == '-') && someAll Char.isDigit ds
  | _ => false

/-! ## Forms -/

/-- The words for truth values. -/
def truthWords : List String :=
  ["yes", "Yes", "YES", "no", "No", "NO", "true", "True", "TRUE", "false", "False", "FALSE", "on", "On",
   "ON", "off", "Off", "OFF"]

def nullWords : List String := ["", "~", "null", "Null", "NULL"]

def isInteger (s : List Char) : Bool :=
  match dropSign s with
  | '0' :: 'b' :: ds => someAll (fun c => c == '0' || c == '1' || c == '_') ds
  | '0' :: 'x' :: ds =>
      someAll (fun c => isDigitMark c || ('a' ≤ c && c ≤ 'f') || ('A' ≤ c && c ≤ 'F')) ds
  | '0' :: ds => ds.all fun c => ('0' ≤ c && c ≤ '7') || c == '_'
  | c :: s =>
      c.isDigit && (let rest := s.dropWhile isDigitMark; rest.isEmpty || isSixties rest)
  | [] => false

/-- A float with a decimal point. -/
def isDecimal (s : List Char) : Bool :=
  match dropDigits (dropSign s) with
  | some ('.' :: r) => isExponent (r.dropWhile isDigitMark)
  | _ =>
      match s with
      | '.' :: r =>
          match dropDigits r with
          | some r => isExponent r
          | none => false
      | _ => false

/-- A float with sexagesimal places before the point. -/
def isSexagesimal (s : List Char) : Bool :=
  match dropDigits (dropSign s) with
  | some r =>
      let places := r.takeWhile fun c => c.isDigit || c == ':'
      match r.dropWhile fun c => c.isDigit || c == ':' with
      | '.' :: fraction => isSixties places && fraction.all isDigitMark
      | _ => false
  | none => false

/-- A word for infinity or for what is no number. -/
def isSpecial (s : List Char) : Bool :=
  [".inf", ".Inf", ".INF"].contains (String.ofList (dropSign s)) ||
    [".nan", ".NaN", ".NAN"].contains (String.ofList s)

def isFloat (s : List Char) : Bool := isDecimal s || isSexagesimal s || isSpecial s

/-! ## Moments -/

/-- The number that digits denote. -/
def number (ds : List Char) : Nat := ds.foldl (fun n d => 10 * n + (d.toNat - 0x30)) 0

/-- Between so many and so many digits, and what is behind them. -/
def digits? (least most : Nat) (s : List Char) : Option (List Char × List Char) :=
  let ds := (s.takeWhile Char.isDigit).take most
  if ds.length < least then none else some (ds, s.drop ds.length)

/-- What stands behind a character. -/
def after? (c : Char) : List Char → Option (List Char)
  | x :: s => if x = c then some s else none
  | [] => none

/-- A blank between the parts of a moment. -/
def isGap (c : Char) : Bool := c == ' ' || c == '\t'

/-- The offset at the end of a moment, in minutes. -/
def offset? (s : List Char) : Option (Option Int) :=
  match s.dropWhile isGap with
  | [] => if s.isEmpty then some none else none
  | ['Z'] => some (some 0)
  | sign :: r => do
      guard (sign == '+' || sign == '-')
      let (h, r) ← digits? 1 2 r
      let m ← if r.isEmpty then some [] else do
        let r ← after? ':' r
        let (m, r) ← digits? 2 2 r
        guard r.isEmpty
        pure m
      let minutes : Int := 60 * number h + number m
      return some (if sign == '-' then -minutes else minutes)

/-- The millionths that the digits of a fraction denote; further digits do not count. -/
def millionths (ds : List Char) : Nat :=
  let six := ds.take 6
  number (six ++ List.replicate (6 - six.length) '0')

/-- The time of day at the end of a moment. -/
def clock? (s : List Char) : Option Clock := do
  let r ←
    match s with
    | c :: r =>
        if c = 'T' || c = 't' then some r
        else if isGap c then some (r.dropWhile isGap) else none
    | [] => none
  let (h, r) ← digits? 1 2 r
  let (m, r) ← digits? 2 2 (← after? ':' r)
  let (sec, r) ← digits? 2 2 (← after? ':' r)
  let (f, r) :=
    match r with
    | '.' :: r => (r.takeWhile Char.isDigit, r.dropWhile Char.isDigit)
    | r => ([], r)
  let offset ← offset? r
  return { hour := number h, minute := number m, second := number sec, millionth := millionths f, offset }

/-- The moment that a text tells: a date, or a date and a time of day. -/
def moment? (s : List Char) : Option Moment := do
  let (year, r) ← digits? 4 4 s
  let (month, r) ← digits? 1 2 (← after? '-' r)
  let (day, r) ← digits? 1 2 (← after? '-' r)
  let clock ← if r.isEmpty then some none else (clock? r).map some
  return { year := number year, month := number month, day := number day, clock }

/-- A moment; a date alone must have all its digits. -/
def isMoment (s : List Char) : Bool :=
  match moment? s with
  | some t => t.clock.isSome || s.length = 10
  | none => false

end Form

/-- A text without a line feed at its end. -/
def withoutLastBreak (s : List Char) : List Char := if s.getLast? = some '\n' then s.dropLast else s

/-- The name of the standard type that the form of a plain scalar gives it. -/
def typeOfForm (s : List Char) : String :=
  let text := String.ofList s
  if Form.truthWords.contains text then "bool"
  else if Form.isFloat s then "float"
  else if Form.isInteger s then "int"
  else if text = "<<" then "merge"
  else if Form.nullWords.contains text then "null"
  else if Form.isMoment s then "timestamp"
  else if text = "=" then "value"
  else "str"

/-- The tag that the form of a plain scalar gives it. -/
def tagOfForm (text : String) : String :=
  standardTag (if text = "\n" then "str" else typeOfForm (withoutLastBreak text.toList))

end EntityModel.Yaml
