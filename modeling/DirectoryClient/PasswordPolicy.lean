import DirectoryClient.Control

/-! What the password policy control of a server says about a password. -/
namespace DirectoryClient.PasswordPolicy

def oid : String := "1.3.6.1.4.1.42.2.27.8.5.1"

/-- The request control: it has no value. -/
def request : Control := { oid }

inductive Warning where
  /-- Seconds until the password expires. -/
  | timeBeforeExpiration (seconds : UInt32)
  /-- Logins that remain although the password has expired. -/
  | graceLogins (count : UInt32)
  deriving DecidableEq, Repr

inductive Rejection where
  | passwordExpired
  | accountLocked
  | changeAfterReset
  | passwordModNotAllowed
  | mustSupplyOldPassword
  | insufficientPasswordQuality
  | passwordTooShort
  | passwordTooYoung
  | passwordInHistory
  deriving DecidableEq, Repr

namespace Rejection

def all : List Rejection :=
  [.passwordExpired, .accountLocked, .changeAfterReset, .passwordModNotAllowed,
    .mustSupplyOldPassword, .insufficientPasswordQuality, .passwordTooShort, .passwordTooYoung,
    .passwordInHistory]

def code : Rejection → Nat
  | passwordExpired => 0
  | accountLocked => 1
  | changeAfterReset => 2
  | passwordModNotAllowed => 3
  | mustSupplyOldPassword => 4
  | insufficientPasswordQuality => 5
  | passwordTooShort => 6
  | passwordTooYoung => 7
  | passwordInHistory => 8

def ofCode? (n : Nat) : Option Rejection := all[n]?

theorem ofCode?_code (r : Rejection) : ofCode? r.code = some r := by
  cases r <;> rfl

def text : Rejection → String
  | passwordExpired => "password expired"
  | accountLocked => "account locked"
  | changeAfterReset => "password must be changed after reset"
  | passwordModNotAllowed => "password modification not allowed"
  | mustSupplyOldPassword => "old password must be supplied"
  | insufficientPasswordQuality => "insufficient password quality"
  | passwordTooShort => "password too short"
  | passwordTooYoung => "password too young"
  | passwordInHistory => "password in history"

end Rejection

structure Response where
  warning : Option Warning := none
  rejection : Option Rejection := none
  deriving DecidableEq, Repr

end DirectoryClient.PasswordPolicy
