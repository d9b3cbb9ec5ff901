import RelayTunnel.Net.Reading

/-!
# Admission of local clients

Which clients may use a tunnel, decided by the address they come from before
anything is asked of the relay. An IPv4 client of a socket that serves both
families counts as the IPv4 client it is.
-/

namespace RelayTunnel

/-- How clients are admitted, as it stands in settings (`PolicyMode`). -/
inductive AdmissionMode where
  | loopback
  | allowAll
  | allowList
  deriving DecidableEq, Repr

namespace AdmissionMode

/-- All modes. -/
def all : List AdmissionMode := [loopback, allowAll, allowList]

/-- The name of a mode in settings. -/
def name : AdmissionMode → String
  | loopback => "loopback"
  | allowAll => "allow_all"
  | allowList => "allow_list"

/-- The mode as a value. -/
def describe : AdmissionMode → String
  | loopback => "Loopback"
  | allowAll => "AllowAll"
  | allowList => "AllowList"

/-- The mode of a name. -/
def ofName? (name : String) : Option AdmissionMode := all.find? (·.name = name)

end AdmissionMode

/-- Which clients are admitted (`ConnectionPolicy`). -/
inductive Admission where
  | allowAll
  | loopbackOnly
  | allowList (networks : List Network)
  /-- What a function of the embedding program accepts, as it stands; it may go by more than the
      address and so come to accept others. -/
  | custom (accepts : SocketAddress → Bool)

namespace Admission

/-- The policy of a mode; the networks count for an allow list only
    (`ConnectionPolicy.from_config`). -/
def ofMode (mode : AdmissionMode) (networks : List Network) : Admission :=
  match mode with
  | .loopback => loopbackOnly
  | .allowAll => allowAll
  | .allowList => allowList networks

/-- The policy where none is given. -/
def standard : Admission := loopbackOnly

/-- Whether a client is admitted (`ConnectionPolicy.is_client_allowed`). -/
def admits (admission : Admission) (client : SocketAddress) : Bool :=
  let ip := client.ip.unmapped
  match admission with
  | allowAll => true
  | loopbackOnly => ip.isLoopback
  | allowList networks => networks.any (·.contains ip)
  | custom accepts => accepts client

/-- Whether the policy can decide so about a client that comes. A custom one can decide either
    way each time, the others go by the address. -/
def mayDecide (admission : Admission) (client : SocketAddress) (admitted : Bool) : Bool :=
  match admission with
  | custom _ => true
  | allowAll | loopbackOnly | allowList _ => admission.admits client = admitted

/-- The policy as a value. -/
def describe : Admission → String
  | allowAll => "AllowAll"
  | loopbackOnly => "LoopbackOnly"
  | allowList networks => "AllowList([" ++ ", ".intercalate (networks.map Network.text) ++ "])"
  | custom _ => "Custom(..)"

end Admission

end RelayTunnel
