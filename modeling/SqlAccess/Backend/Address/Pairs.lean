import SqlAccess.Backend.Address.Setting
import SqlAccess.Text.Blank

/-
  This file reads addresses that are written as a sequence
  of settings, each a key, an equals sign and a value.
  Values may stand in quotes.

  Key definitions include:
    * `Pairs.value?`
    * `Pairs.settings?`
-/

namespace SqlAccess

namespace Pairs

/- Whether a character can be part of a key. -/
def isKeyChar (c : Char) : Bool :=
  !Blank.isBlank c && c ≠ '='

/-
  A value that ends at white space.  A backslash takes the
  next character as it is.
-/
def plainValue : List Char → List Char × List Char
  | [] => ([], [])
  | ['\\'] => ([], [])
  | '\\' :: c :: rest =>
      let (value, after) := plainValue rest
      (c :: value, after)
  | c :: rest =>
      if Blank.isBlank c then ([], c :: rest)
      else
        let (value, after) := plainValue rest
        (c :: value, after)

/- A value up to its closing quote. -/
def quotedValue? :
    List Char → Option (List Char × List Char)
  | [] => none
  | ['\\'] => none
  | '\\' :: c :: rest =>
      (quotedValue? rest).map fun (value, after) =>
        (c :: value, after)
  | c :: rest =>
      if c = '\x27' then some ([], rest)
      else
        (quotedValue? rest).map fun (value, after) =>
          (c :: value, after)

/- A value, which is not empty unless it is quoted. -/
def value? : List Char → Option (List Char × List Char)
  | '\x27' :: rest => quotedValue? rest
  | text =>
      let (value, after) := plainValue text
      if value.isEmpty then none else some (value, after)

/-
  The settings of an address, up to a place where no key
  stands.  The first argument bounds their number; each one
  takes at least one character.
-/
def settingsWithin? :
    Nat → List Char → Option (List Setting)
  | 0, _ => some []
  | bound + 1, text =>
      let text := Blank.trimStart text
      let key := text.takeWhile isKeyChar
      if key.isEmpty then some []
      else
        match Blank.trimStart
          (text.dropWhile isKeyChar) with
        | '=' :: rest => do
            let (value, after) ←
              value? (Blank.trimStart rest)
            let others ← settingsWithin? bound after
            let setting :=
              ⟨String.ofList key, String.ofList value⟩
            return setting :: others
        | _ => none

/- The settings of an address, of one value each. -/
def settings?
    (address : List Char) :
    Option (List Setting) :=
  (settingsWithin? (address.length + 1) address).map
    (·.flatMap Setting.each)

end Pairs

end SqlAccess
