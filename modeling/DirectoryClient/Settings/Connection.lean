import DirectoryClient.Credentials
import DirectoryClient.Search.BinaryAttributes
import DirectoryClient.Settings.Value

/-! Where connections lead, how long their operations may take and whom they authenticate as. -/
namespace DirectoryClient.Settings

structure Transport where
  connectTimeout : Option Millis := none
  startTls : Bool := false
  skipVerification : Bool := false
  certificateFiles : List String := []
  certificates : List Octets := []
  deriving DecidableEq, Repr

namespace Transport

private def names : List String := ["connect_timeout_ms", "starttls", "no_tls_verify", "ca_cert_files"]

def ofValue? (v : Value) : Option Transport := do
  let fields ← v.fields? names
  return {
    connectTimeout := ← field? fields "connect_timeout_ms" (Value.optional? Value.nat?) none
    startTls := ← field? fields "starttls" Value.bool? false
    skipVerification := ← field? fields "no_tls_verify" Value.bool? false
    certificateFiles := ← field? fields "ca_cert_files" Value.texts? [] }

def addCertificate (certificate : Octets) (t : Transport) : Transport :=
  { t with certificates := t.certificates ++ [certificate] }

def addCertificateFile (path : String) (t : Transport) : Transport :=
  { t with certificateFiles := t.certificateFiles ++ [path] }

/-- Whether the transport is to be protected on request. Without support for that it never is. -/
def usesStartTls (_ : Transport) : Bool := false

end Transport

def defaultTimeout : Millis := 30000

structure Connection where
  address : String := "ldap://localhost"
  bindName : Option String := none
  bindPassword : Option String := none
  timeout : Option Millis := some defaultTimeout
  binaryAttributes : List String := []
  transport : Transport := {}
  /-- Credentials that replace the name and the password. -/
  explicitCredentials : Option Credentials := none
  /-- A detector that replaces the standard one. -/
  explicitDetector : Option Search.BinaryDetector := none

namespace Connection

private def names : List String :=
  ["url", "bind_dn", "bind_password", "timeout_ms", "binary_attributes", "connection"]

def ofValue? (v : Value) : Option Connection := do
  let fields ← v.fields? names
  let defaults : Connection := {}
  return { defaults with
    address := ← field? fields "url" Value.text? defaults.address
    bindName := ← field? fields "bind_dn" (Value.optional? Value.text?) none
    bindPassword := ← field? fields "bind_password" (Value.optional? Value.text?) none
    timeout := ← field? fields "timeout_ms" (Value.optional? Value.nat?) defaults.timeout
    binaryAttributes := ← field? fields "binary_attributes" Value.texts? []
    transport := ← field? fields "connection" Transport.ofValue? {} }

def addBinaryAttributes (names : List String) (c : Connection) : Connection :=
  { c with binaryAttributes := c.binaryAttributes ++ names }

/-- The credentials in force. A password counts for nothing without a name. -/
def credentials (c : Connection) : Credentials :=
  match c.explicitCredentials with
  | some credentials => credentials
  | none =>
    match c.bindName with
    | some name => .simple name (c.bindPassword.getD "")
    | none => .anonymous

def detector (c : Connection) : Search.BinaryDetector :=
  c.explicitDetector.getD (.standard c.binaryAttributes)

end Connection

end DirectoryClient.Settings
