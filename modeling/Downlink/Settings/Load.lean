import Downlink.Json.Reader
import Downlink.Settings.Basic
import Downlink.Text.Blank

/-! # Loading settings

Each setting comes from its environment variable if that is set and not empty,
else from the settings file, else from its default. A file that cannot be read
or holds no JSON object counts as empty, but one that is nested too deep is not
forgiven.
-/

namespace Downlink.Settings

inductive File where
  | missing
  | directory
  | content (bytes : ByteArray)

/-- The environment variables and the files that loading may look at, the levels of nesting that a
file may have, and the height that the base block may have. -/
structure Surroundings where
  environment : String → Option String
  file : String → File
  levels : Nat
  height : Nat

namespace Surroundings

/-- A variable that is set and not empty. -/
def set? (s : Surroundings) (name : String) : Option String :=
  (s.environment name).filter (!·.isEmpty)

def pathVariable : String := "TETHER_COORD_CONFIG"

def baseVariable : String := "TETHER_COORD_BASE_PREFIX"

def dedicatedVariable : String := "TETHER_COORD_P2P_DEDICATED_IP"

def attemptsVariable : String := "TETHER_COORD_MAX_ATTEMPTS"

/-- The file named by `path`, or by the environment if `path` is absent or empty. -/
def settingsFile (s : Surroundings) (path : Option String) : File :=
  match path.filter (!·.isEmpty) <|> s.set? pathVariable with
  | some p => s.file p
  | none => .missing

end Surroundings

def File.fields? (levels : Nat) : File → Except Fault (List (String × Json))
  | content bytes =>
    match Json.readUtf8? levels bytes with
    | .ok (.obj fields) => .ok (fields.filter fun f => isKnown f.1)
    | .error (.tooDeep fault) => .error (.tooDeep fault)
    | _ => .ok []
  | _ => .ok []

def isYes (s : String) : Bool :=
  ["1", "true", "yes", "on"].contains (Text.lower (Text.strip s))

/-- A flag written as text is read as yes or no; any other value is kept. -/
def flag : Json → Json
  | .str s => .bool (isYes s)
  | v => v

def overrideField (name : String) (value : Option Json) (fields : List (String × Json)) :
    List (String × Json) :=
  match value with
  | some v => putEntry name v fields
  | none => fields

/-- The attempts given by the environment, which have to be a numeral whatever else is given. -/
def attemptsSet? (s : Surroundings) : Except Fault (Option Json) :=
  match s.set? Surroundings.attemptsVariable with
  | none => .ok none
  | some given =>
    match (Json.str given).toInteger? with
    | .ok n => .ok (some (.int n))
    | .error e => .error (.attempts e)

def load (s : Surroundings) (path : Option String) : Except Fault Settings := do
  let fields ← (s.settingsFile path).fields? s.levels
  let fields := overrideField baseKey ((s.set? Surroundings.baseVariable).map .str) fields
  let fields := overrideField dedicatedKey ((s.set? Surroundings.dedicatedVariable).map .str) fields
  let attempts ← attemptsSet? s
  let fields := overrideField attemptsKey attempts fields
  let fields := overrideField dedicatedKey ((valueAt? dedicatedKey fields).map flag) fields
  ofFields? s.height fields

end Downlink.Settings
