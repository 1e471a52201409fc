import Mathlib

/-!
# Errors of the receiver core

`McrxError` carries every variant of the source enumeration.  An operating
system error is its raw code.  A call that may panic returns an `Outcome`.
-/

namespace McrxCore

/-- `std::io::Error`, by its raw operating-system code. -/
structure IoError where
  rawOsError : Int
  deriving DecidableEq, Repr

inductive McrxError where
  | invalidDestinationPort
  | invalidMulticastGroup
  | ssmGroupRequiresSource
  | invalidSourceAddress
  | invalidIpv6SsmGroup
  | invalidIpv4SsmGroup
  | sourceAddressFamilyMismatch
  | interfaceAddressFamilyMismatch
  | invalidInterfaceIndex
  | interfaceIndexRequiresIpv6
  | duplicateSubscription
  | subscriptionNotFound
  | subscriptionNotJoined
  | subscriptionAlreadyJoined
  | socketCreateFailed (error : IoError)
  | socketOptionFailed (error : IoError)
  | socketBindFailed (error : IoError)
  | rawSocketCreateFailed (error : IoError)
  | rawSocketBindFailed (error : IoError)
  | rawPacketReceiveUnsupported (reason : String)
  | invalidSharedRawCaptureLimits
  | sharedRawCaptureSubscriptionLimitExceeded (limit : Nat)
  | ipv6NotYetImplemented
  | invalidSubscriptionAddressFamily
  | receiveSocketSetupFailed (reason : String)
  | receiveMetadataUnavailable
  | socketLocalAddrFailed (error : IoError)
  | socketIoctlFailed (error : IoError)
  | existingSocketAddressFamilyMismatch
  | existingSocketPortMismatch (expected actual : UInt16)
  | multicastJoinFailed (error : IoError)
  | multicastLeaveFailed (error : IoError)
  | sourceSpecificMulticastUnsupported
  | ipv6SourceSpecificMulticastRequiresInterface
  | ipv6SourceSpecificMulticastNotYetImplemented
  | interfaceProbeBindFailed (error : IoError)
  | interfaceProbeConnectFailed (error : IoError)
  | interfaceProbeLocalAddrFailed (error : IoError)
  | interfaceDiscoveryFailed (reason : String)
  | nonIpSocketAddress
  | receiveFailed (error : IoError)
  deriving DecidableEq, Repr

/-- `Display`, given the messages of the operating system's errors. -/
def McrxError.display (ioMessage : IoError → String) : McrxError → String
  | .invalidDestinationPort => "MCRX: invalid destination port"
  | .invalidMulticastGroup => "MCRX: group must be a multicast IP address"
  | .ssmGroupRequiresSource => "MCRX: SSM-range multicast groups require a source address"
  | .invalidSourceAddress => "MCRX: invalid source address"
  | .invalidIpv6SsmGroup => "MCRX: IPv6 SSM groups must use the ff3x:: prefix"
  | .invalidIpv4SsmGroup => "MCRX: IPv4 SSM groups must use the 232.0.0.0/8 range"
  | .sourceAddressFamilyMismatch => "MCRX: source address family must match group address family"
  | .interfaceAddressFamilyMismatch =>
    "MCRX: interface address family must match group address family"
  | .invalidInterfaceIndex => "MCRX: interface index must be greater than 0"
  | .interfaceIndexRequiresIpv6 =>
    "MCRX: interface index is only supported for IPv6 subscriptions"
  | .duplicateSubscription => "MCRX: subscription already exists"
  | .subscriptionNotFound => "MCRX: subscription not found"
  | .subscriptionNotJoined => "MCRX: subscription not joined"
  | .subscriptionAlreadyJoined => "MCRX: subscription already joined"
  | .socketCreateFailed error => "MCRX: failed to create UDP socket: " ++ ioMessage error
  | .socketOptionFailed error => "MCRX: failed to set socket option: " ++ ioMessage error
  | .socketBindFailed error => "MCRX: failed to bind UDP socket: " ++ ioMessage error
  | .rawSocketCreateFailed error =>
    "MCRX: failed to create raw receive socket: " ++ ioMessage error
  | .rawSocketBindFailed error => "MCRX: failed to bind raw receive socket: " ++ ioMessage error
  | .rawPacketReceiveUnsupported reason =>
    "MCRX: raw multicast receive is not supported on this platform: " ++ reason
  | .invalidSharedRawCaptureLimits =>
    "MCRX: shared raw capture limits must be greater than zero"
  | .sharedRawCaptureSubscriptionLimitExceeded limit =>
    "MCRX: shared raw capture subscription limit of " ++ toString limit ++ " reached"
  | .ipv6NotYetImplemented => "MCRX: requested IPv6 functionality is not implemented yet"
  | .invalidSubscriptionAddressFamily =>
    "MCRX: invalid subscription address-family combination"
  | .receiveSocketSetupFailed reason => "MCRX: receive socket setup failed: " ++ reason
  | .receiveMetadataUnavailable =>
    "MCRX: receive packet did not include destination address metadata"
  | .socketLocalAddrFailed error =>
    "MCRX: failed to read local address from existing socket: " ++ ioMessage error
  | .socketIoctlFailed error =>
    "MCRX: failed to look up socket extension function: " ++ ioMessage error
  | .existingSocketAddressFamilyMismatch =>
    "MCRX: existing socket address family does not match the subscription configuration"
  | .existingSocketPortMismatch expected actual =>
    "MCRX: existing socket is bound to UDP port " ++ toString actual ++ ", expected " ++
      toString expected
  | .multicastJoinFailed error => "MCRX: failed to join multicast group: " ++ ioMessage error
  | .multicastLeaveFailed error => "MCRX: failed to leave multicast group: " ++ ioMessage error
  | .sourceSpecificMulticastUnsupported =>
    "MCRX: source-specific multicast is not supported on this platform"
  | .ipv6SourceSpecificMulticastRequiresInterface =>
    "MCRX: IPv6 source-specific multicast requires an explicit interface address or interface index"
  | .ipv6SourceSpecificMulticastNotYetImplemented =>
    "MCRX: IPv6 source-specific multicast is not implemented yet"
  | .interfaceProbeBindFailed error =>
    "MCRX: failed to bind interface probe socket: " ++ ioMessage error
  | .interfaceProbeConnectFailed error =>
    "MCRX: failed to connect interface probe socket: " ++ ioMessage error
  | .interfaceProbeLocalAddrFailed error =>
    "MCRX: failed to read local address from interface probe socket: " ++ ioMessage error
  | .interfaceDiscoveryFailed reason => "MCRX: failed to discover local interface: " ++ reason
  | .nonIpSocketAddress => "MCRX: received packet from non-IP socket address"
  | .receiveFailed error => "MCRX: receive failed: " ++ ioMessage error

/-- What a call returns, where it may panic. -/
inductive Outcome (α : Type) where
  | ok (value : α)
  | err (error : McrxError)
  | panic
  deriving DecidableEq, Repr

def Outcome.isOk {α : Type} : Outcome α → Bool
  | .ok _ => true
  | _ => false

def Outcome.map {α β : Type} (f : α → β) : Outcome α → Outcome β
  | .ok value => .ok (f value)
  | .err error => .err error
  | .panic => .panic

@[simp] theorem Outcome.map_map {α β γ : Type} (f : α → β) (g : β → γ) (outcome : Outcome α) :
    (outcome.map f).map g = outcome.map fun value => g (f value) := by
  cases outcome <;> rfl

end McrxCore
