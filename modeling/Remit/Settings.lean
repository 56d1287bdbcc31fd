import Remit.Json.Read

/-!
# Settings

The settings of the service and how the environment overrides their defaults. Names of variables
may be spelled in letters of either case; of variables that name the same setting the last counts.
-/

namespace Remit

open Text

/-- The settings. -/
structure Settings where
  projectName : Text
  version : Text
  supportedCurrencies : List Text
  logLevel : Text
  host : Text
  port : Int
  debug : Bool
  deriving DecidableEq

/-- Why the environment gives no settings. -/
inductive SettingsError where
  /-- The list of currencies is not written as JSON. -/
  | unreadable
  /-- The list of currencies is nested too deep to be read. -/
  | tooDeep
  /-- A value is not of the kind that its setting has. -/
  | invalid
  deriving DecidableEq

namespace Settings

/-- The settings where the environment gives none. -/
def defaults : Settings where
  projectName := "payment-instructions".toList
  version := "1.0.0".toList
  supportedCurrencies := ["NGN".toList, "USD".toList, "GBP".toList, "GHS".toList]
  logLevel := "INFO".toList
  host := "0.0.0.0".toList
  port := 8000
  debug := false

/-! ## Values of single settings -/

/-- A text in lower-case ASCII letters. -/
def lowerCase (t : Text) : Text :=
  t.map Char.toLower

/-- The value of the last variable with a name. -/
def lookup? (environment : List (Text × Text)) (name : String) : Option Text :=
  (environment.reverse.find? fun entry => lowerCase entry.1 = lowerCase name.toList).map (·.2)

/-- A zero, or an underscore between zeros. -/
def isZeroPart (c : Char) : Bool :=
  c = '0' || c = '_'

/-- A number that starts with a digit, without the zeros before it. Underscores among these zeros go
with them, however many stand in a row. Before the end and before a point a zero has to stand, and
it stays. -/
def dropLeadingZeros? : Text → Option Text
  | [] => none
  | c :: rest =>
    if c = '0' then
      match rest.dropWhile isZeroPart with
      | [] | '.' :: _ =>
        if (rest.takeWhile isZeroPart).getLast? = some '_' then none
        else some ('0' :: rest.dropWhile isZeroPart)
      | number => some number
    else if c.isDigit then some (c :: rest)
    else none

/-- A number without a fraction of one or more zeros. -/
def dropZeroFraction (t : Text) : Text :=
  match t.dropWhile (· ≠ '.') with
  | '.' :: '0' :: zeros => if zeros.all (· = '0') then t.takeWhile (· ≠ '.') else t
  | _ => t

/-- The integer that is written as a numeral and nothing else. -/
def integerNumeral? (t : Text) : Option Int :=
  match Numeral.scan? t with
  | some (numeral, []) =>
    if numeral.isInteger && numeral.whole.length ≤ digitLimit then some numeral.integer else none
  | _ => none

/-- A port number: the integer whose numeral is left when white space around it, a plus sign, zeros
before it, a fraction of zeros and single underscores are taken away. Zeros may also stand before
its minus sign. -/
def readPort (t : Text) : Except SettingsError Int :=
  let (negative, body) := signAndRest (trimNumber t)
  let number? := do
    let digits ← ungrouped? (dropZeroFraction (← dropLeadingZeros? body))
    integerNumeral? (if negative then '-' :: digits else digits)
  match number? with
  | some port => .ok port
  | none => .error .invalid

/-- The words for yes. -/
def yesWords : List Text :=
  ["1".toList, "true".toList, "t".toList, "yes".toList, "y".toList, "on".toList]

/-- The words for no. -/
def noWords : List Text :=
  ["0".toList, "false".toList, "f".toList, "no".toList, "n".toList, "off".toList]

/-- A yes or a no, in letters of either case. -/
def readFlag (t : Text) : Except SettingsError Bool :=
  if yesWords.contains (lowerCase t) then .ok true
  else if noWords.contains (lowerCase t) then .ok false
  else .error .invalid

/-- A JSON value that is a list of texts. -/
def textsOf : Json → Except SettingsError (List Text)
  | .list items => items.mapM fun
    | .text value => .ok value
    | _ => .error .invalid
  | _ => .error .invalid

/-- The number of lists and objects that may be open at once in the value of a variable. -/
def nestingLimit : Nat := 980

/-- The JSON value of a variable; null is none. -/
def readJson (t : Text) : Except SettingsError (Option Json) :=
  match Json.read nestingLimit '\ufffd' t with
  | .ok .null => .ok none
  | .ok value => .ok (some value)
  | .error .tooDeep => .error .tooDeep
  | .error _ => .error .unreadable

/-! ## All settings -/

/-- A setting that is read from its variable, or its default. -/
def override {α : Type} (read : Text → Except SettingsError α) (value : Option Text) (default : α) :
    Except SettingsError α :=
  match value with
  | some t => read t
  | none => .ok default

/-- The settings that an environment gives. A list of currencies that cannot be read as JSON is
reported before any other fault; a null in its place leaves the default. -/
def ofEnvironment (environment : List (Text × Text)) : Except SettingsError Settings := do
  let value := lookup? environment
  let currencies ← match value "SUPPORTED_CURRENCIES" with
    | some t => readJson t
    | none => .ok none
  let supportedCurrencies ← match currencies with
    | some json => textsOf json
    | none => .ok defaults.supportedCurrencies
  let port ← override readPort (value "PORT") defaults.port
  let debug ← override readFlag (value "DEBUG") defaults.debug
  .ok {
    projectName := (value "PROJECT_NAME").getD defaults.projectName
    version := (value "VERSION").getD defaults.version
    supportedCurrencies
    logLevel := (value "LOG_LEVEL").getD defaults.logLevel
    host := (value "HOST").getD defaults.host
    port
    debug }

end Settings
end Remit
