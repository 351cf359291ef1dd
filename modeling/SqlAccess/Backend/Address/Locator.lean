import SqlAccess.Backend.Address.Setting

/-
  This file reads addresses that are written as locators: a
  scheme, then credentials up to an at sign, servers between
  commas, a database after a slash, and further settings
  after a question mark.  Every part but the scheme may be
  missing, and every part may be percent-encoded.

  Key definitions include:
    * `Locator.body?`
    * `Locator.servers?`
    * `Locator.parameters?`
    * `Locator.settings?`
-/

namespace SqlAccess

namespace Locator

/- What begins a locator. -/
def schemes : List String :=
  ["postgres://", "postgresql://"]

/- What follows the scheme, if there is one. -/
def body? (address : List Char) : Option (List Char) :=
  schemes.findSome? fun scheme =>
    scheme.toList.isPrefixOf? address

/- A setting whose value is percent-encoded. -/
def setting?
    (key : String)
    (value : List Char) : Option Setting :=
  (Percent.text? value).map fun value =>
    ⟨key, String.ofList value⟩

------------------------------------------------------------
-- Credentials
------------------------------------------------------------

/-
  The credentials that text begins with, and what follows
  the at sign after them.
-/
def splitCredentials
    (text : List Char) : Option (List Char) × List Char :=
  match text.dropWhile (· ≠ '@') with
  | [] => (none, text)
  | _ :: rest => (some (text.takeWhile (· ≠ '@')), rest)

/-
  The user that credentials name.  What follows a colon is
  the password, which may be any bytes and so is not read.
-/
def user? (credentials : List Char) : Option Setting :=
  setting? "user" (credentials.takeWhile (· ≠ ':'))

------------------------------------------------------------
-- Servers
------------------------------------------------------------

/- The port of a server that names none. -/
def usualPort : List Char :=
  "5432".toList

/-
  The name and the port of a server.  A name in square
  brackets may have colons.
-/
def splitServer? :
    List Char → Option (List Char × List Char)
  | '[' :: text =>
      let name := text.takeWhile (· ≠ ']')
      match text.dropWhile (· ≠ ']') with
      | [_] => some (name, usualPort)
      | _ :: ':' :: port => some (name, port)
      | _ => none
  | text =>
      let name := text.takeWhile (· ≠ ':')
      match text.dropWhile (· ≠ ':') with
      | [] => some (name, usualPort)
      | _ :: port => some (name, port)

/-
  A server by its name.  A name that begins with a slash is
  a path, which may be any bytes and is kept as it is
  written.
-/
def host? (name : List Char) : Option Setting :=
  if (Percent.decode name).head? = some '/'.toUInt8 then
    some ⟨"host", String.ofList name⟩
  else
    setting? "host" name

/- The settings that a server stands for. -/
def server? (text : List Char) : Option (List Setting) := do
  let (name, port) ← splitServer? text
  return (← host? name) :: (← setting? "port" port).each

/- The settings that servers between commas stand for. -/
def servers? (text : List Char) : Option (List Setting) :=
  if text.isEmpty then some []
  else ((text.splitOn ',').mapM server?).map List.flatten

------------------------------------------------------------
-- Database and Further Settings
------------------------------------------------------------

/- The database that a path names, if it names one. -/
def database? (path : List Char) : Option (List Setting) :=
  match path.drop 1 with
  | [] => some []
  | name => (setting? "dbname" name).map ([·])

/-
  The keys and values of further settings.  A key goes up to
  an equals sign, and a value up to an ampersand.
-/
def parameters?
    (text : List Char) :
    Option (List (List Char × List Char)) :=
  if text.isEmpty then some []
  else
    let key := text.takeWhile (· ≠ '=')
    match _h : text.dropWhile (· ≠ '=') with
    | [] => none
    | _ :: rest =>
        let value := rest.takeWhile (· ≠ '&')
        let others := (rest.dropWhile (· ≠ '&')).drop 1
        (parameters? others).map ((key, value) :: ·)
termination_by text.length
decreasing_by
  have hKey :=
    (List.dropWhile_suffix (l := text)
      (· ≠ '=')).length_le
  have hValue :=
    (List.dropWhile_suffix (l := rest)
      (· ≠ '&')).length_le
  simp only [_h, List.length_cons] at hKey
  simp only [List.length_drop]
  omega

/-
  The settings that a key and a value stand for.  A name of
  a server is one name even if it has commas.
-/
def parameter?
    (key value : List Char) : Option (List Setting) := do
  let key := String.ofList (← Percent.text? key)
  if key = "host" then
    return [← host? value]
  else
    return (← setting? key value).each

------------------------------------------------------------
-- Locators
------------------------------------------------------------

/- The settings of a locator, of one value each. -/
def settings?
    (body : List Char) :
    Option (List Setting) := do
  let (credentials, rest) := splitCredentials body
  let user ← credentials.toList.mapM user?
  let isEnd := fun c => c = '/' || c = '?'
  let servers ← servers? (rest.takeWhile (!isEnd ·))
  let rest := rest.dropWhile (!isEnd ·)
  let database ← database? (rest.takeWhile (· ≠ '?'))
  let parameters ←
    parameters? ((rest.dropWhile (· ≠ '?')).drop 1)
  let further ← parameters.mapM fun (key, value) =>
    parameter? key value
  return user ++ servers ++ database ++ further.flatten

end Locator

end SqlAccess
