/-
Settings, and how they are read from variables. A variable that is not set leaves its setting at the
usual value, and every variable that does not fit is told.
-/
import Workflows.Number.Lenient
import Workflows.Settings.Address
import Workflows.Text.Case

namespace Workflows

open Workflows.Text

/-- What the program is set to. -/
structure Settings where
  appName : String := "Stepflow Workflow API"
  environment : String := "development"
  debug : Bool := false
  apiPrefix : String := "/api/v1"
  logLevel : String := "INFO"
  origins : List String := ["http://localhost:3000"]
  database : String := "sqlite:///./stepflow.db"
  poolSize : Int := 10
  maxOverflow : Int := 20
  chatKey : String := ""
  chatModel : String := "claude-3-5-haiku-latest"
  maxTokens : Int := 4096
  temperature : Binary64 := Binary64.ofDecimal false 6 (-1)
  imageKey : String := ""
  imageAddress : String := "https://gen.pollinations.ai/image/"
  imageModel : String := "flux"
  imageSize : Int := 1024
  timeout : Binary64 := Binary64.ofDecimal false 30 0
  usualDelay : Int := 5
deriving DecidableEq, Repr

namespace Settings

/-! ## Reading single values -/

/-- The words for true. -/
def trueWords : List String := ["1", "on", "t", "true", "y", "yes"]

/-- The words for false. -/
def falseWords : List String := ["0", "off", "f", "false", "n", "no"]

/-- A truth value by its word, in any case of its letters. -/
def truth? (text : String) : Option Bool :=
  let word := String.ofList (text.toList.map Char.toLower)
  if trueWords.contains word then some true
  else if falseWords.contains word then some false
  else none

/-- An integer between bounds. -/
def boundedInt (low : Int) (high : Option Int) (text : String) : Except Misfit Int :=
  match Lenient.integer? text with
  | .error .malformed => .error .integer
  | .error (.tooLong _) => .error .longInteger
  | .ok n =>
    if high.any (· < n) then .error .above
    else if n < low then .error .below
    else .ok n

/-- A number up to a bound, and at least zero or more than zero. A NaN is not up to any bound. -/
def boundedFloat (high : Binary64) (zeroAllowed : Bool) (text : String) :
    Except Misfit Binary64 :=
  match Lenient.decimal? text with
  | none => .error .number
  | some x =>
    let zero := Binary64.zero false
    if x.isNaN || high.less x then .error .above
    else if x.less zero then .error (if zeroAllowed then .below else .tooLow)
    else if !zeroAllowed && x.same zero then .error .tooLow
    else .ok x

/-- One of some words. -/
def oneOf (words : List String) (text : String) : Except Misfit String :=
  if words.contains text then .ok text else .error .literal

/-- The part of a path before all routes: one slash in front of it and none behind it. -/
def routePrefix (text : String) : String :=
  let isSlash (c : Char) : Bool := c == '/'
  let cs := trimChars text.toList
  let inner := ((cs.dropWhile isSlash).reverse.dropWhile isSlash).reverse
  if inner.isEmpty then "" else String.ofList ('/' :: inner)

/-- The pieces of a list with commas that are not blank. -/
def commaList (text : String) : List String :=
  ((text.toList.splitOn ',').map trimChars).filterMap fun cs =>
    if cs.isEmpty then none else some (String.ofList cs)

/-- The beginnings of the database addresses that are served. -/
def databaseSchemes : List String := ["sqlite://", "postgresql://", "postgresql+psycopg2://"]

/-- The address of a database of a kind that is served. -/
def databaseAddress (text : String) : Except Misfit String :=
  if databaseSchemes.any (beginsWith (lower text)) then .ok text else .error .other

/-! ## Reading all settings -/

/-- A setting by its variable, and the misfits so far. -/
def setting {α : Type} (given : String → Option String) (name : String) (usual : α)
    (parse : String → Except Misfit α) : StateM (List (String × Misfit)) α := do
  match (given name).map parse with
  | none => return usual
  | some (.ok value) => return value
  | some (.error misfit) =>
    modify (· ++ [(name, misfit)])
    return usual

/-- The settings that variables give, and the misfits. -/
def ofVariables (given : String → Option String) : StateM (List (String × Misfit)) Settings := do
  let usual : Settings := {}
  let text (name default : String) := setting given name default .ok
  let truth (text : String) : Except Misfit Bool := match truth? text with
    | some b => .ok b
    | none => .error .truth
  let environments := ["development", "staging", "production", "test"]
  let levels := ["DEBUG", "INFO", "WARNING", "ERROR"]
  return {
    appName := ← text "APP_NAME" usual.appName
    environment := ← setting given "APP_ENV" usual.environment (oneOf environments)
    debug := ← setting given "APP_DEBUG" usual.debug truth
    apiPrefix := ← setting given "API_V1_PREFIX" usual.apiPrefix fun s => .ok (routePrefix s)
    logLevel := ← setting given "LOG_LEVEL" usual.logLevel fun s =>
      oneOf levels (upper (trim s))
    origins := ← setting given "CORS_ORIGINS" usual.origins fun s => .ok (commaList s)
    database := ← setting given "DATABASE_URL" usual.database databaseAddress
    poolSize := ← setting given "DB_POOL_SIZE" usual.poolSize (boundedInt 1 (some 100))
    maxOverflow := ←
      setting given "DB_MAX_OVERFLOW" usual.maxOverflow (boundedInt 0 (some 200))
    chatKey := ← text "ANTHROPIC_API_KEY" usual.chatKey
    chatModel := ← text "ANTHROPIC_MODEL" usual.chatModel
    maxTokens := ← setting given "LLM_MAX_TOKENS" usual.maxTokens (boundedInt 1 (some 64000))
    temperature := ← setting given "LLM_TEMPERATURE" usual.temperature
      (boundedFloat (Binary64.ofDecimal false 1 0) true)
    imageKey := ← text "POLLINATIONS_API_KEY" usual.imageKey
    imageAddress := ← setting given "IMAGE_BASE_URL" usual.imageAddress Address.canonical
    imageModel := ← text "IMAGE_MODEL" usual.imageModel
    imageSize := ← setting given "IMAGE_SIZE" usual.imageSize (boundedInt 64 (some 2048))
    timeout := ← setting given "HTTP_TIMEOUT_SECONDS" usual.timeout
      (boundedFloat (Binary64.ofDecimal false 600 0) false)
    usualDelay := ← setting given "DEFAULT_DELAY_SECONDS" usual.usualDelay (boundedInt 0 none) }

/-- The settings that variables give, or every variable that does not fit, with the reason. -/
def read (given : String → Option String) : Except (List (String × Misfit)) Settings :=
  let (settings, misfits) := (ofVariables given).run []
  if misfits.isEmpty then .ok settings else .error misfits

/-- The workflows are kept in a file or in memory, not by a server. -/
def isFileDatabase (settings : Settings) : Bool := beginsWith (lower settings.database) "sqlite"

end Settings

end Workflows
