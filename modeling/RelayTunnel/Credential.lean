import RelayTunnel.Error
import RelayTunnel.Text.Blank

/-!
# Credentials

A bearer token authorises every request to the relay. It is fixed, or it is read
from an environment variable at every request, so that it can be replaced while
a tunnel runs.
-/

namespace RelayTunnel

/-- A place that tokens come from (`StaticCredential`, `EnvCredential`). -/
inductive Credential where
  | fixed (token : String)
  | fromEnvironment (name : String)
  deriving DecidableEq, Repr

/-- The value of an environment variable, which need not be text. -/
abbrev Environment := String → Option Bytes

/-- The text that a variable is set to; one that is not text counts as not set. -/
def Environment.text? (environment : Environment) (name : String) : Option String :=
  (environment name).bind Utf8.decode?

/-- Whether a variable of the environment can have the name. -/
def isVariableName (name : String) : Bool :=
  !name.isEmpty && !name.contains '=' && !name.contains '\x00'

namespace Credential

/-- The token for the next request (`CredentialProvider.access_token`). Blanks around
    the value of a variable do not belong to it. -/
def token (credential : Credential) (environment : Environment) : Except RelayError String :=
  match credential with
  | fixed token => .ok token
  | fromEnvironment name =>
    match environment.text? name with
    | none => .error (.credential s!"{name} is not set")
    | some value =>
      let token := trimBlank value
      if token.isEmpty then .error (.credential s!"{name} is empty") else .ok token

/-- The credential as a value, without the secret. -/
def describe : Credential → String
  | fixed _ => "StaticCredential \x7b token: " ++ Quoted.encode "<redacted>" ++ " \x7d"
  | fromEnvironment name => "EnvCredential \x7b var: " ++ Quoted.encode name ++ " \x7d"

end Credential

end RelayTunnel
