import TrafficDigest.FileSystem
import TrafficDigest.Text
import TrafficDigest.Toml.Reader

/-!
# Connection to a policy engine

What is needed to talk to one policy engine, and the addresses that follow from it.

The connection is configured in a file, and variables of the environment may replace what the file
says.  `Config.locate` finds the file, `Config.read` reads it, and `Config.load` also looks at the
environment and refuses a configuration without a domain name or without credentials.
-/

namespace TrafficDigest.Pce

/-- Connection details. -/
structure Config where
  /-- A name to show. -/
  name : Option String := none
  fqdn : String
  port : UInt16 := 8443
  org : UInt32 := 1
  user : String
  key : String
  disableTlsVerification : Bool := false
  deriving DecidableEq, Repr

namespace Config

/-- The address that the hrefs of jobs and their results are relative to. -/
def apiRoot (c : Config) : String :=
  "https://" ++ c.fqdn ++ ":" ++ toString c.port.toNat ++ "/api/v2"

/-- The address of the organisation. -/
def baseUrl (c : Config) : String := c.apiRoot ++ "/orgs/" ++ toString c.org.toNat

/-- The name to show; without one, the domain name. -/
def displayName (c : Config) : String := c.name.getD c.fqdn

end Config

/-! ## Variables of the environment -/

/-- The variables of the environment with their values. -/
abbrev Environment := List (String × String)

/-- The variables that bear on the configuration. -/
def variableNames : List String :=
  ["HOME", "FLOWSCOPE_CONFIG", "FLOWSCOPE_PCE_FQDN", "FLOWSCOPE_PCE_PORT", "FLOWSCOPE_PCE_ORG",
    "FLOWSCOPE_PCE_USER", "FLOWSCOPE_PCE_KEY"]

/-! ## Errors -/

/-- Why there is no usable configuration. -/
inductive ConfigError where
  | unreadable (path : String) (fault : FileFault)
  | invalid (path : String)
  | emptyFqdn
  | missingCredentials
  deriving DecidableEq, Repr

/-- What is reported about an error.  `<toml>` stands for the complaint about the document. -/
def ConfigError.message : ConfigError → String
  | unreadable path fault => "cannot read PCE config at " ++ path ++ ": " ++ fault.message
  | invalid path => "invalid PCE config " ++ path ++ ": <toml>"
  | emptyFqdn => "PCE fqdn is empty"
  | missingCredentials => "PCE API user and key are required"

/-! ## Decoding -/

/-- The text under a name that must be there. -/
def text? (t : Toml.Table) (name : String) : Option String :=
  match t.lookup name with
  | some (.string s) => some s
  | _ => none

/-- The number under a name, up to `max`; another one if the name is not there. -/
def number? (t : Toml.Table) (name : String) (max default : Nat) : Option Nat :=
  match t.lookup name with
  | none => some default
  | some (.integer n) => if 0 ≤ n ∧ n ≤ max then some n.toNat else none
  | some _ => none

/-- **The configuration in a table.**  Other names are passed over. -/
def Config.ofTable? (t : Toml.Table) : Option Config := do
  let name ← match t.lookup "name" with
    | none => some none
    | some (.string s) => some (some s)
    | some _ => none
  let fqdn ← text? t "fqdn"
  let port ← number? t "port" (UInt16.size - 1) 8443
  let org ← number? t "org" (UInt32.size - 1) 1
  let user ← text? t "user"
  let key ← text? t "key"
  let disableTlsVerification ← match t.lookup "disable_tls_verification" with
    | none => some false
    | some (.boolean b) => some b
    | some _ => none
  return { name, fqdn, port := port.toUInt16, org := org.toUInt32, user, key,
           disableTlsVerification }

namespace Config

/-! ## Finding and reading the file -/

/-- A path with another one after it. -/
def joinPath (base path : String) : String :=
  if base.endsWith "/" then base ++ path else base ++ "/" ++ path

/-- Where the file is unless something else is asked for: below the home directory. -/
def defaultPath (env : Environment) : String :=
  joinPath (((env.lookup "HOME").filter (· ≠ "")).getD ".") ".flowscope/pce.toml"

/-- **Where the file is:** where the caller says, else where a variable says, else below the home
directory. -/
def locate (env : Environment) (explicit : Option String) : String :=
  explicit.getD (((env.lookup "FLOWSCOPE_CONFIG").filter (· ≠ "")).getD (defaultPath env))

/-- The configuration in a file. -/
def read (fs : FileSystem) (path : String) : Except ConfigError Config :=
  match fs.read path with
  | .error fault => .error (.unreadable path fault)
  | .ok text =>
    match (Toml.read? text).bind ofTable? with
    | some c => .ok c
    | none => .error (.invalid path)

/-! ## The environment -/

/-- The number in a variable; nothing if it is no number up to `max`. -/
def numberIn? (env : Environment) (name : String) (max : Nat) : Option Nat :=
  (env.lookup name).bind fun value => Text.readUnsigned max value.toList

/-- The configuration with what the environment says in place of what the file says. -/
def override (env : Environment) (c : Config) : Config :=
  { c with
    fqdn := (env.lookup "FLOWSCOPE_PCE_FQDN").getD c.fqdn
    port := ((numberIn? env "FLOWSCOPE_PCE_PORT" (UInt16.size - 1)).map Nat.toUInt16).getD c.port
    org := ((numberIn? env "FLOWSCOPE_PCE_ORG" (UInt32.size - 1)).map Nat.toUInt32).getD c.org
    user := (env.lookup "FLOWSCOPE_PCE_USER").getD c.user
    key := (env.lookup "FLOWSCOPE_PCE_KEY").getD c.key }

/-- A configuration needs a domain name and credentials. -/
def check (c : Config) : Except ConfigError Unit :=
  if c.fqdn = "" then .error .emptyFqdn
  else if c.user = "" ∨ c.key = "" then .error .missingCredentials
  else .ok ()

/-- **The configuration to work with.** -/
def load (fs : FileSystem) (env : Environment) (explicit : Option String) :
    Except ConfigError Config := do
  let c ← read fs (locate env explicit)
  let c := c.override env
  c.check
  return c

end Config

end TrafficDigest.Pce
