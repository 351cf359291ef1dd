import SqlAccess.Backend.Address.Locator
import SqlAccess.Backend.Address.Pairs

/-
  This file reads the addresses of PostgreSQL servers as far
  as it takes to refuse those that cannot be tried at all.
  An address is a locator or a sequence of settings.

  Key definitions include:
    * `Address.Fault`
    * `Address.settings?`
    * `Address.fault?`
-/

namespace SqlAccess

namespace Address

/- Why an address is refused. -/
inductive Fault
  | badText
  | badSettings
deriving DecidableEq, Repr

/- The text of an address fault. -/
def Fault.message : Fault → String
  | badText => "invalid connection string"
  | badSettings => "invalid configuration"

/- The settings of an address, of one value each. -/
def settings? (address : String) : Option (List Setting) :=
  match Locator.body? address.toList with
  | some body => Locator.settings? body
  | none => Pairs.settings? address.toList

/-
  Why an address is refused before it is tried, if it is.
-/
def fault? (address : String) : Option Fault :=
  match settings? address with
  | none => some .badText
  | some settings =>
      if !settings.all Setting.isAdmitted then some .badText
      else if !Setting.nameServers settings then
        some .badSettings
      else none

end Address

end SqlAccess
