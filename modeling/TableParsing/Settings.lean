import TableParsing.Notation.RuleLine
import TableParsing.Notation.Tokens
import TableParsing.OnConflict
import TableParsing.Text.Folded
import TableParsing.Text.Integer
import TableParsing.Text.Quoted

/-!
Settings from environment variables. A variable that is unset or empty leaves its setting at the
default. The text of the token limit is read first; the values of all settings are checked together
after that.
-/

namespace TableParsing

structure Settings where
  style : Notation.Style
  allConflicts : Bool
  maxTokens : Int
  corsOrigins : List String
  deriving DecidableEq, Repr

namespace Settings

abbrev Environment := List (String × String)

inductive Invalid where
  | style
  | maxTokens
  deriving DecidableEq, Repr

inductive Error where
  | unreadableLimit (text : String) (why : Text.Integer.Misread)
  | invalid (values : List Invalid)
  deriving DecidableEq, Repr

def quotedStart (text : String) : String := String.ofList ((Text.quoted text).toList.take 200)

def misreadMessage (text : String) : Text.Integer.Misread → String
  | .malformed => "invalid literal for int() with base 10: " ++ quotedStart text
  | .tooLong digits =>
    "Exceeds the limit (" ++ toString Text.Integer.maxDigits ++
      " digits) for integer string conversion: value has " ++ toString digits ++
      " digits; use sys.set_int_max_str_digits() to increase the limit"

def value? (env : Environment) (name : String) : Option String :=
  (env.lookup name).filter (· ≠ "")

def onWords : List String := ["1", "true", "yes", "on"]

def keyword (value : String) : String := String.ofList (Text.folded (Text.trim value.toList))

def commaList (value : String) : List String :=
  ((Notation.splitAtChar ',' value.toList).map Text.trim).filter (!·.isEmpty)
    |>.map String.ofList

def readLimit (text : String) : Except Error Int :=
  (Text.Integer.read text.toList).mapError (.unreadableLimit text)

def invalidValues (style : Option Notation.Style) (maxTokens : Int) : List Invalid :=
  (if style.isNone then [.style] else []) ++ if maxTokens ≤ 0 then [.maxTokens] else []

def ofEnvironment (env : Environment) : Except Error Settings := do
  let style := match value? env "PARSELAB_NOTATION" with
    | none => some .compact
    | some v => Notation.Style.ofLabel? (keyword v)
  let allConflicts := match value? env "PARSELAB_ALL_CONFLICTS" with
    | none => false
    | some v => onWords.contains (keyword v)
  let maxTokens ← match value? env "PARSELAB_MAX_TOKENS" with
    | none => .ok 10000
    | some v => readLimit v
  let corsOrigins := match value? env "PARSELAB_CORS_ORIGINS" with
    | none => ["*"]
    | some v => commaList v
  match style, invalidValues style maxTokens with
  | some style, [] => return { style, allConflicts, maxTokens, corsOrigins }
  | _, values => throw (.invalid values)

def onConflict (allConflicts : Bool) : OnConflict := if allConflicts then .collect else .stop

end Settings
end TableParsing
