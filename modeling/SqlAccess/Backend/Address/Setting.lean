import SqlAccess.Backend.Address.Numeric

/-
  This file defines the settings that an address of a
  PostgreSQL server is made of: which keys there are, what
  each of them takes, and when the settings together say
  where servers are.

  Key definitions include:
    * `Setting`
    * `Setting.each`
    * `Setting.isAdmitted`
    * `Setting.nameServers`
-/

namespace SqlAccess

/- A key and its value. -/
structure Setting where
  key : String
  value : String
deriving DecidableEq, Repr

namespace Setting

/- The keys that may have several values between commas. -/
def listKeys : List String :=
  ["host", "hostaddr", "port"]

/-
  The settings of one value each that a setting stands for.
-/
def each (setting : Setting) : List Setting :=
  if setting.key ∈ listKeys then
    (setting.value.splitOn ",").map (⟨setting.key, ·⟩)
  else
    [setting]

------------------------------------------------------------
-- Admission
------------------------------------------------------------

/- What a key takes as its value. -/
inductive Domain
  | anyText
  | signed (bits : Nat)
  | unsigned (bits : Nat)
  | port
  | numericAddress
  | word (words : List String)

/- The keys that an address may have. -/
def keys : List (String × Domain) :=
  [ ("user", .anyText), ("password", .anyText),
    ("dbname", .anyText), ("options", .anyText),
    ("application_name", .anyText),
    ("host", .anyText), ("hostaddr", .numericAddress),
    ("port", .port),
    ("sslmode", .word ["disable", "prefer", "require"]),
    ("sslnegotiation", .word ["postgres", "direct"]),
    ("connect_timeout", .signed 64),
    ("tcp_user_timeout", .signed 64),
    ("keepalives", .unsigned 64),
    ("keepalives_idle", .signed 64),
    ("keepalives_interval", .signed 64),
    ("keepalives_retries", .unsigned 32),
    ("target_session_attrs",
      .word ["any", "read-write", "read-only"]),
    ("channel_binding",
      .word ["disable", "prefer", "require"]),
    ("load_balance_hosts", .word ["disable", "random"]) ]

/-
  Whether a text is a number without a sign below a bound.
-/
def isBelow
    (bound : Nat)
    (text : String) : Bool :=
  (Reading.naturalNumber? text.toList).any (· < bound)

/-
  Whether a key takes a value.  An empty port stands for the
  usual one.
-/
def Domain.admits
    (domain : Domain)
    (value : String) : Bool :=
  match domain with
  | anyText => true
  | signed bits =>
      (Reading.wholeNumber? value.toList).any fun n =>
        -Int.pow 2 (bits - 1) ≤ n &&
          n < Int.pow 2 (bits - 1)
  | unsigned bits => isBelow (Nat.pow 2 bits) value
  | port => value.isEmpty || isBelow (Nat.pow 2 16) value
  | numericAddress => Numeric.isAddress value
  | word words => value ∈ words

/-
  Whether a setting has a known key that takes its value.
-/
def isAdmitted (setting : Setting) : Bool :=
  (keys.lookup setting.key).any fun domain =>
    domain.admits setting.value

------------------------------------------------------------
-- Servers
------------------------------------------------------------

/- The number of settings with a key. -/
def count
    (key : String)
    (settings : List Setting) : Nat :=
  settings.countP (·.key = key)

/-
  Whether settings of one value each name servers.  Servers
  have names or numeric addresses; where they have both,
  there are as many of the one as of the other.  There is a
  port for each of them, or one for all, or none.
-/
def nameServers (settings : List Setting) : Bool :=
  let names := count "host" settings
  let addresses := count "hostaddr" settings
  let ports := count "port" settings
  let servers := max names addresses
  0 < servers &&
    (names = 0 || addresses = 0 || names = addresses) &&
    (ports ≤ 1 || ports = servers)

end Setting

end SqlAccess
