import AssetCache.Error
import AssetCache.Text.Blank
import AssetCache.Text.Decimal
import AssetCache.Text.Utf8

/-!
# Settings

How long a fetch may take, how large a body may be that has to be held in memory, and by what name
fetches present themselves.  `ofEnvironment` reads them from three variables; `validate` refuses
settings under which every fetch would fail.
-/

namespace AssetCache

/-- A span of time: whole seconds, and nanoseconds below one second. -/
structure Duration where
  seconds : Nat
  nanoseconds : Nat
  deriving DecidableEq, Repr

namespace Duration

def zero : Duration := ⟨0, 0⟩

/-- Seconds and any number of nanoseconds. -/
def ofParts (seconds nanoseconds : Nat) : Duration :=
  ⟨seconds + nanoseconds / 1000000000, nanoseconds % 1000000000⟩

def ofSeconds (n : Nat) : Duration := ⟨n, 0⟩

end Duration

/-- The settings of a resolver and its fetches. -/
structure Config where
  /-- The time that a fetch may take in all; without it a fetch may take forever. -/
  fetchTimeout : Option Duration := none
  /-- Octets of a body that may be held in memory; without it there is no limit. -/
  maxBufferedBytes : Option Nat := none
  /-- The name by which fetches present themselves. -/
  userAgent : String := "stowage/0.4.0"
  deriving DecidableEq, Repr

namespace Config

/-- Whether a text has nothing but blanks. -/
def isBlankText (s : String) : Bool := (Blank.trim s.toList).isEmpty

/-- Refuse a timeout of zero, a limit of zero, and a blank name. -/
def validate (c : Config) : Except ConfigError Unit :=
  if c.fetchTimeout = some .zero then
    .error (.invalidValue "fetch_timeout" "0" "must be positive")
  else if c.maxBufferedBytes = some 0 then
    .error (.invalidValue "max_buffered_bytes" "0" "must be positive")
  else if isBlankText c.userAgent then
    .error (.invalidValue "user_agent" c.userAgent "must not be empty")
  else .ok ()

/-- The variables of an environment; what is not there is not set. -/
abbrev Environment := String → Option Bytes

/-- The text of a variable; none where it is not set or is no text. -/
def Environment.text? (env : Environment) (name : String) : Option String :=
  (env name).bind fun bytes => (Utf8.decode? bytes).map String.ofList

/-- The number in a variable; none where it is not set or blank. -/
def readNumber (env : Environment) (name : String) : Except ConfigError (Option Nat) :=
  match env.text? name with
  | none => .ok none
  | some raw =>
    if isBlankText raw then .ok none
    else
      match Decimal.read (Blank.trim raw.toList) with
      | .ok n => .ok (some n)
      | .error e => .error (.invalidValue name raw e.message)

/-- The variable of the timeout, in seconds. -/
def timeoutVariable : String := "STOWAGE_FETCH_TIMEOUT_SECS"

/-- The variable of the limit, in octets. -/
def limitVariable : String := "STOWAGE_MAX_BUFFERED_BYTES"

def agentVariable : String := "STOWAGE_USER_AGENT"

/-- The name that an environment sets: what is blank sets nothing. -/
def readAgent (env : Environment) : Option String :=
  (env.text? agentVariable).filter fun s => !isBlankText s

/-- Read the settings from an environment, and validate them. -/
def ofEnvironment (env : Environment) : Except ConfigError Config :=
  match readNumber env timeoutVariable with
  | .error e => .error e
  | .ok timeout =>
    match readNumber env limitVariable with
    | .error e => .error e
    | .ok limit =>
      let c : Config :=
        { fetchTimeout := timeout.map .ofSeconds, maxBufferedBytes := limit,
          userAgent := (readAgent env).getD ({} : Config).userAgent }
      match c.validate with
      | .ok () => .ok c
      | .error e => .error e

/-- Whether a header may hold an octet: controls other than the tab may not stand in it. -/
def isHeaderOctet (b : UInt8) : Bool := (0x20 ≤ b || b = 0x09) && b ≠ 0x7f

/-- Whether an HTTP client can be built with these settings: its name has to fit into a header. -/
def canFetch (c : Config) : Bool := (Utf8.ofString c.userAgent).all isHeaderOctet

end Config

end AssetCache
