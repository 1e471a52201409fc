import McrxCore.AddrText
import McrxCore.Platform.FilterCorrect
import McrxCore.Platform.Udp

/-!
# Multicast membership

`join_multicast_group` and `leave_multicast_group` of `platform/mod.rs` on every platform,
with the conversions of `config.rs` they rely on.  A configuration that passes validation
converts to a membership of its own family.
-/

namespace McrxCore

structure Ipv4Membership where
  group : Ipv4Addr
  source : Option Ipv4Addr
  interface : Option Ipv4Addr
  deriving DecidableEq, Repr

structure Ipv6Membership where
  group : Ipv6Addr
  source : Option Ipv6Addr
  interface : Option Ipv6Addr
  interfaceIndex : Option UInt32
  deriving DecidableEq, Repr

namespace SubscriptionConfig

def sourceAddr (config : SubscriptionConfig) : Option IpAddr :=
  match config.source with
  | .any => none
  | .source source => some source

def ipv4Membership (config : SubscriptionConfig) : Option Ipv4Membership := do
  let group ← match config.group with
    | .v4 group => some group
    | .v6 _ => none
  let source ← match config.source with
    | .any => some none
    | .source (.v4 source) => some (some source)
    | .source (.v6 _) => none
  let interface ← match config.interface with
    | none => some none
    | some (.v4 interface) => some (some interface)
    | some (.v6 _) => none
  some { group := group, source := source, interface := interface }

def ipv6Membership (config : SubscriptionConfig) : Option Ipv6Membership := do
  let group ← match config.group with
    | .v6 group => some group
    | .v4 _ => none
  let source ← match config.source with
    | .any => some none
    | .source (.v6 source) => some (some source)
    | .source (.v4 _) => none
  let interface ← match config.interface with
    | none => some none
    | some (.v6 interface) => some (some interface)
    | some (.v4 _) => none
  some
    { group := group
      source := source
      interface := interface
      interfaceIndex := config.interfaceIndex }

end SubscriptionConfig

namespace Membership

open ClassicBpf

/-- The builds whose membership calls differ. -/
inductive Platform where
  | linux
  | apple
  | otherUnix
  | windows
  | other
  deriving DecidableEq, Repr

inductive MembershipOp where
  | join
  | leave
  deriving DecidableEq, Repr

/-- A request to the kernel: of any source, or of one. -/
inductive Request where
  | anySourceV4 (op : MembershipOp) (group interface : Ipv4Addr)
  | sourceV4 (op : MembershipOp) (group source interface : Ipv4Addr)
  | anySourceV6 (op : MembershipOp) (group : Ipv6Addr) (interface : UInt32)
  | sourceV6 (op : MembershipOp) (group source : Ipv6Addr) (interface : UInt32)
  deriving DecidableEq, Repr

def Request.group : Request → IpAddr
  | .anySourceV4 _ group _ | .sourceV4 _ group _ _ => .v4 group
  | .anySourceV6 _ group _ | .sourceV6 _ group _ _ => .v6 group

def Request.source : Request → Option IpAddr
  | .anySourceV4 .. | .anySourceV6 .. => none
  | .sourceV4 _ _ source _ => some (.v4 source)
  | .sourceV6 _ _ source _ => some (.v6 source)

def Request.sourceSpecific (request : Request) : Bool := request.source.isSome

inductive ErrorKind where
  | unsupported
  | other
  deriving DecidableEq, Repr

/-- An IPv6 address of a local interface, with the index of the interface. -/
structure InterfaceAddress where
  addr : Ipv6Addr
  index : UInt32
  deriving DecidableEq, Repr

/-- The system calls of membership, on worlds of type `W`.  Listing the interface addresses
fails with a text. -/
structure MembershipSystem (W : Type) where
  platform : Platform
  errorKind : IoError → ErrorKind
  interfaceAddresses : W → Except String (List InterfaceAddress) × W
  probeBind : SocketAddr → W → Except IoError Fd × W
  probeConnect : Fd → SocketAddr → W → Except IoError Unit × W
  probeLocalAddr : Fd → W → Except IoError SocketAddr × W
  request : Fd → Request → W → Except IoError Unit × W

variable {W : Type} (os : MembershipSystem W)

/-! ## Interfaces -/

def ipv4Membership (config : SubscriptionConfig) : Except McrxError Ipv4Membership :=
  match config.ipv4Membership with
  | some membership => .ok membership
  | none => .error .invalidSubscriptionAddressFamily

def ipv6Membership (config : SubscriptionConfig) : Except McrxError Ipv6Membership :=
  match config.ipv6Membership with
  | some membership => .ok membership
  | none => .error .invalidSubscriptionAddressFamily

def resolveIpv4Interface (config : SubscriptionConfig) : Except McrxError Ipv4Addr := do
  let membership ← ipv4Membership config
  .ok (membership.interface.getD (.new 0 0 0 0))

/-- On Unix an address whose interface has no index is passed over. -/
def matchesInterface (platform : Platform) (interface : Ipv6Addr) (candidate : InterfaceAddress) :
    Bool :=
  candidate.addr == interface && (platform == .windows || candidate.index != 0)

def unresolvedInterface (interface : Ipv6Addr) : McrxError :=
  .interfaceDiscoveryFailed ("failed to resolve IPv6 interface address " ++ interface.display ++
    " to an interface index")

def resolveIpv6InterfaceIndex (interface : Ipv6Addr) (w : W) : Except McrxError UInt32 × W :=
  if os.platform = .other then
    (.error (.interfaceDiscoveryFailed
      ("IPv6 interface resolution is not implemented on this platform for " ++
        interface.display)), w)
  else
    match os.interfaceAddresses w with
    | (.error reason, w) => (.error (.interfaceDiscoveryFailed reason), w)
    | (.ok candidates, w) =>
      match candidates.find? (matchesInterface os.platform interface) with
      | some candidate => (.ok candidate.index, w)
      | none => (.error (unresolvedInterface interface), w)

def resolveIpv6Interface (config : SubscriptionConfig) (w : W) : Except McrxError UInt32 × W :=
  andThen (ipv6Membership config, w) fun membership w =>
  if os.platform = .apple ∧ membership.source ≠ none ∧ membership.interface = none ∧
      membership.interfaceIndex = none then
    (.error .ipv6SourceSpecificMulticastRequiresInterface, w)
  else
    match membership.interfaceIndex, membership.interface with
    | some interfaceIndex, _ => (.ok interfaceIndex, w)
    | none, none => (.ok 0, w)
    | none, some interface =>
      if interface.isUnspecified then (.ok 0, w) else resolveIpv6InterfaceIndex os interface w

/-- The local address of a socket that is connected to the source. -/
def resolveDefaultIpv4Interface (source : Ipv4Addr) (w : W) : Except McrxError Ipv4Addr × W :=
  match os.probeBind { ip := .v4 (.new 0 0 0 0), port := 0 } w with
  | (.error e, w) => (.error (.interfaceProbeBindFailed e), w)
  | (.ok probe, w) =>
    match os.probeConnect probe { ip := .v4 source, port := 9 } w with
    | (.error e, w) => (.error (.interfaceProbeConnectFailed e), w)
    | (.ok (), w) =>
      match os.probeLocalAddr probe w with
      | (.error e, w) => (.error (.interfaceProbeLocalAddrFailed e), w)
      | (.ok addr, w) =>
        let failed : McrxError := .interfaceDiscoveryFailed
          ("failed to infer default IPv4 interface for source " ++ source.display ++
            ": probe bound to " ++ addr.display)
        match addr.ip with
        | .v4 ip => if !ip.isUnspecified then (.ok ip, w) else (.error failed, w)
        | .v6 _ => (.error failed, w)

def resolveIpv4SourceInterfaceAddress (interface source : Ipv4Addr) (w : W) :
    Except McrxError Ipv4Addr × W :=
  if interface.isUnspecified then resolveDefaultIpv4Interface os source w else (.ok interface, w)

/-! ## Requests -/

def MembershipOp.failed : MembershipOp → IoError → McrxError
  | .join => .multicastJoinFailed
  | .leave => .multicastLeaveFailed

/-- A request whose failure is that of the operation. -/
def requestMembership (op : MembershipOp) (socket : Fd) (request : Request) (w : W) :
    Except McrxError Unit × W :=
  let (result, w) := os.request socket request w
  (result.mapError op.failed, w)

/-- `join_source_multicast_v4` and `leave_source_multicast_v4`. -/
def sourceMulticastV4 (op : MembershipOp) (socket : Fd) (group source interface : Ipv4Addr)
    (w : W) : Except McrxError Unit × W :=
  match os.platform with
  | .apple =>
    andThen (resolveIpv4SourceInterfaceAddress os interface source w) fun interface w =>
    requestMembership os op socket (.sourceV4 op group source interface) w
  | .linux | .otherUnix | .windows | .other =>
    requestMembership os op socket (.sourceV4 op group source interface) w

/-- An error with its kind. -/
def setIpv6SourceMembershipOption (op : MembershipOp) (socket : Fd) (group source : Ipv6Addr)
    (interface : UInt32) (w : W) : Except (ErrorKind × IoError) Unit × W :=
  match os.platform with
  | .linux | .apple | .windows =>
    let (result, w) := os.request socket (.sourceV6 op group source interface) w
    (result.mapError fun error => (os.errorKind error, error), w)
  | .otherUnix | .other => (.error (.unsupported, .other), w)

def sourceMulticastV6 (op : MembershipOp) (socket : Fd) (group source : Ipv6Addr)
    (interface : UInt32) (w : W) : Except McrxError Unit × W :=
  match setIpv6SourceMembershipOption os op socket group source interface w with
  | (.ok (), w) => (.ok (), w)
  | (.error (.unsupported, _), w) => (.error .sourceSpecificMulticastUnsupported, w)
  | (.error (.other, error), w) => (.error (op.failed error), w)

/-- `join_multicast_group` and `leave_multicast_group`. -/
def changeMembership (op : MembershipOp) (socket : Fd) (config : SubscriptionConfig) (w : W) :
    Except McrxError Unit × W :=
  match config.family with
  | .ipv4 =>
    andThen (ipv4Membership config, w) fun membership w =>
    andThen (resolveIpv4Interface config, w) fun interface w =>
    match membership.source with
    | none => requestMembership os op socket (.anySourceV4 op membership.group interface) w
    | some source => sourceMulticastV4 os op socket membership.group source interface w
  | .ipv6 =>
    andThen (ipv6Membership config, w) fun membership w =>
    andThen (resolveIpv6Interface os config w) fun interface w =>
    match membership.source with
    | none => requestMembership os op socket (.anySourceV6 op membership.group interface) w
    | some source => sourceMulticastV6 os op socket membership.group source interface w

def joinMulticastGroup (socket : Fd) (config : SubscriptionConfig) (w : W) :
    Except McrxError Unit × W :=
  changeMembership os .join socket config w

def leaveMulticastGroup (socket : Fd) (config : SubscriptionConfig) (w : W) :
    Except McrxError Unit × W :=
  changeMembership os .leave socket config w

/-- The same system, which keeps a list of the requests made of it. -/
def MembershipSystem.logged : MembershipSystem (W × List Request) :=
  { platform := os.platform
    errorKind := os.errorKind
    interfaceAddresses := fun (w, log) =>
      let (result, w) := os.interfaceAddresses w
      (result, w, log)
    probeBind := fun addr (w, log) =>
      let (result, w) := os.probeBind addr w
      (result, w, log)
    probeConnect := fun socket addr (w, log) =>
      let (result, w) := os.probeConnect socket addr w
      (result, w, log)
    probeLocalAddr := fun socket (w, log) =>
      let (result, w) := os.probeLocalAddr socket w
      (result, w, log)
    request := fun socket request (w, log) =>
      let (result, w) := os.request socket request w
      (result, w, log ++ [request]) }

/-! ## Conversions -/

/-- `232.0.0.0/8` and `ff3x::/32`. -/
def InSsmRange : IpAddr → Prop
  | .v4 group => group.octets.toList.take 1 = [232]
  | .v6 group => ∃ x < 16, group.octets.toList.take 4 = [0xff, .ofNat (0x30 + x), 0, 0]

/-- The configuration converts to a membership of its own family, which carries it. -/
structure Converts (config : SubscriptionConfig) : Prop where
  ipv4_iff : config.ipv4Membership.isSome = true ↔ config.family = .ipv4
  ipv6_iff : config.ipv6Membership.isSome = true ↔ config.family = .ipv6
  ipv4 : ∀ membership, config.ipv4Membership = some membership →
    .v4 membership.group = config.group ∧ membership.source.map .v4 = config.sourceAddr ∧
      membership.interface.map .v4 = config.interface ∧ config.interfaceIndex = none
  ipv6 : ∀ membership, config.ipv6Membership = some membership →
    .v6 membership.group = config.group ∧ membership.source.map .v6 = config.sourceAddr ∧
      membership.interface.map .v6 = config.interface ∧
      membership.interfaceIndex = config.interfaceIndex

/-- No interface was found for a request, or the platform has none of its kind. -/
def SelectionFailed : McrxError → Prop
  | .ipv6SourceSpecificMulticastRequiresInterface | .sourceSpecificMulticastUnsupported
  | .interfaceDiscoveryFailed _ | .interfaceProbeBindFailed _ | .interfaceProbeConnectFailed _
  | .interfaceProbeLocalAddrFailed _ => True
  | _ => False

inductive Answer (config : SubscriptionConfig) :
    Except McrxError Unit → List Request → Prop
  | issued (request : Request) (result : Except McrxError Unit)
      (hgroup : request.group = config.group) (hsource : request.source = config.sourceAddr)
      (hresult : result ≠ .error .invalidSubscriptionAddressFamily) :
      Answer config result [request]
  | refused (error : McrxError) (h : SelectionFailed error) : Answer config (.error error) []

theorem Answer.ne_invalid {config : SubscriptionConfig} {result : Except McrxError Unit}
    {log : List Request} (h : Answer config result log) :
    result ≠ .error .invalidSubscriptionAddressFamily := by
  cases h with
  | issued request result hgroup hsource hresult => exact hresult
  | refused e hfailed =>
    intro heq
    cases heq
    exact hfailed

theorem Answer.of_mem {config : SubscriptionConfig} {result : Except McrxError Unit}
    {log : List Request} (h : Answer config result log) {request : Request} (hmem : request ∈ log) :
    request.group = config.group ∧ request.source = config.sourceAddr := by
  cases h with
  | issued request' result hgroup hsource hresult =>
    rw [List.mem_singleton.mp hmem]
    exact ⟨hgroup, hsource⟩
  | refused => exact absurd hmem List.not_mem_nil

theorem Answer.issued_or_failed {config : SubscriptionConfig} {result : Except McrxError Unit}
    {log : List Request} (h : Answer config result log) :
    log.length = 1 ∨ ∃ e, result = .error e ∧ SelectionFailed e := by
  cases h with
  | issued => exact .inl rfl
  | refused e hfailed => exact .inr ⟨e, rfl, hfailed⟩

theorem validateMulticastSelection_interface {group : IpAddr} {source : SourceFilter}
    {interface : Option IpAddr} {interfaceIndex : Option UInt32}
    (h : validateMulticastSelection group source interface interfaceIndex = .ok ()) :
    validateInterface group interface interfaceIndex = .ok () := by
  unfold validateMulticastSelection at h
  split at h
  · cases h
  · split at h
    · cases h
    · split at h
      · cases h
      · exact h

theorem validateInterface_eq_ok {group : IpAddr} {interface : Option IpAddr}
    {interfaceIndex : Option UInt32}
    (h : validateInterface group interface interfaceIndex = .ok ()) :
    (∀ addr, interface = some addr → addr.family = group.family) ∧
      (group.family = .ipv4 → interfaceIndex = none) := by
  unfold validateInterface at h
  split at h
  · cases h
  · rename_i hfamily
    refine ⟨?_, fun hipv4 => ?_⟩
    · rintro addr rfl
      have hsame : group.family = addr.family := by simpa [sameFamily_eq] using hfamily
      exact hsame.symm
    · split at h
      · rfl
      · split at h
        · cases h
        · cases group with
          | v4 => cases h
          | v6 => cases hipv4

/-- A validated source stands for a group of the source-specific ranges. -/
theorem validateMulticastSelection_isSsm {group : IpAddr} {source : SourceFilter}
    {interface : Option IpAddr} {interfaceIndex : Option UInt32}
    (h : validateMulticastSelection group source interface interfaceIndex = .ok ()) :
    source ≠ .any ↔ groupIsSsm group = true := by
  have hsource := validateMulticastSelection_source h
  unfold validateMulticastSelection at h
  split at h
  · cases h
  · split at h
    · cases h
    · rename_i hany
      cases source with
      | any => simpa using hany
      | source source =>
        refine iff_of_true (by simp) ?_
        simp only [validateSource] at hsource
        split at hsource
        · cases hsource
        · split at hsource
          · cases hsource
          · rename_i hfamily
            cases group with
            | v4 group =>
              cases source with
              | v4 source =>
                dsimp only at hsource
                split at hsource
                · cases hsource
                · rename_i hssm
                  simpa [groupIsSsm] using hssm
              | v6 source => exact absurd rfl hfamily
            | v6 group =>
              cases source with
              | v4 source => exact absurd rfl hfamily
              | v6 source =>
                dsimp only at hsource
                split at hsource
                · cases hsource
                · rename_i hssm
                  simpa [groupIsSsm] using hssm

section Octets

theorem toList_take_eq {n : Nat} (octets : Vector UInt8 n) (hn : 4 ≤ n) :
    octets.toList.take 4 = [octets[0], octets[1], octets[2], octets[3]] := by
  refine List.ext_getElem (by simpa using hn) fun i hi _ => ?_
  have hlt : i < 4 := by simpa using Nat.lt_of_lt_of_le hi (List.length_take_le _ _)
  rw [List.getElem_take, Vector.getElem_toList]
  match i, hlt with
  | 0, _ | 1, _ | 2, _ | 3, _ => rfl

theorem high_nibble_eq_three (octet : UInt8) :
    octet >>> 4 = 3 ↔ ∃ x < 16, octet = .ofNat (0x30 + x) := by
  have hshift : (octet >>> 4).toNat = octet.toNat / 16 := by
    rw [UInt8.toNat_shiftRight]
    exact Nat.shiftRight_eq_div_pow _ 4
  rw [← UInt8.toNat_inj, hshift]
  constructor
  · intro h
    have hthree : octet.toNat / 16 = 3 := h
    refine ⟨octet.toNat - 48, by omega, UInt8.toNat_inj.mp ?_⟩
    rw [UInt8.toNat_ofNat']
    omega
  · rintro ⟨x, hx, rfl⟩
    rw [UInt8.toNat_ofNat']
    show _ = 3
    omega

theorem groupIsSsm_iff (group : IpAddr) : groupIsSsm group = true ↔ InSsmRange group := by
  cases group with
  | v4 group =>
    have htake : group.octets.toList.take 1 = [group.octets[0]] := by
      have hfour := congrArg (List.take 1) (toList_take_eq group.octets (Nat.le_refl 4))
      rwa [List.take_take] at hfour
    simp [groupIsSsm, isIpv4SsmGroup, InSsmRange, htake]
  | v6 group =>
    simp only [groupIsSsm, isIpv6SsmGroup, InSsmRange, toList_take_eq _ (show 4 ≤ 16 by decide),
      Bool.and_eq_true, beq_iff_eq, high_nibble_eq_three, List.cons.injEq, and_true]
    constructor
    · rintro ⟨⟨⟨hfirst, x, hx, hsecond⟩, hthird⟩, hfourth⟩
      exact ⟨x, hx, hfirst, hsecond, hthird, hfourth⟩
    · rintro ⟨x, hx, hfirst, hsecond, hthird, hfourth⟩
      exact ⟨⟨⟨hfirst, x, hx, hsecond⟩, hthird⟩, hfourth⟩

end Octets

/-! ## Validated configurations -/

def ofIpv4 (membership : Ipv4Membership) (dstPort : UInt16) : SubscriptionConfig :=
  { group := .v4 membership.group
    source := membership.source.elim .any fun source => .source (.v4 source)
    dstPort := dstPort
    interface := membership.interface.map .v4
    interfaceIndex := none }

def ofIpv6 (membership : Ipv6Membership) (dstPort : UInt16) : SubscriptionConfig :=
  { group := .v6 membership.group
    source := membership.source.elim .any fun source => .source (.v6 source)
    dstPort := dstPort
    interface := membership.interface.map .v6
    interfaceIndex := membership.interfaceIndex }

theorem ofIpv4_ipv4Membership (membership : Ipv4Membership) (dstPort : UInt16) :
    (ofIpv4 membership dstPort).ipv4Membership = some membership := by
  rcases membership with ⟨group, _ | source, _ | interface⟩ <;> rfl

theorem ofIpv6_ipv6Membership (membership : Ipv6Membership) (dstPort : UInt16) :
    (ofIpv6 membership dstPort).ipv6Membership = some membership := by
  rcases membership with ⟨group, _ | source, _ | interface, interfaceIndex⟩ <;> rfl

theorem ofIpv4_sourceAddr (membership : Ipv4Membership) (dstPort : UInt16) :
    (ofIpv4 membership dstPort).sourceAddr = membership.source.map .v4 := by
  rcases membership with ⟨group, _ | source, interface⟩ <;> rfl

theorem ofIpv6_sourceAddr (membership : Ipv6Membership) (dstPort : UInt16) :
    (ofIpv6 membership dstPort).sourceAddr = membership.source.map .v6 := by
  rcases membership with ⟨group, _ | source, interface, interfaceIndex⟩ <;> rfl

theorem selection_of_validate {config : SubscriptionConfig} (h : config.validate = .ok ()) :
    validateMulticastSelection config.group config.source config.interface config.interfaceIndex =
      .ok () := by
  rw [SubscriptionConfig.validate] at h
  split at h
  · cases h
  · exact h

theorem exists_v4_of_family {addr : Option IpAddr}
    (h : ∀ ip, addr = some ip → ip.family = .ipv4) : ∃ ip : Option Ipv4Addr, addr = ip.map .v4 := by
  cases addr with
  | none => exact ⟨none, rfl⟩
  | some ip =>
    cases ip with
    | v4 ip => exact ⟨some ip, rfl⟩
    | v6 ip => cases h _ rfl

theorem exists_v6_of_family {addr : Option IpAddr}
    (h : ∀ ip, addr = some ip → ip.family = .ipv6) : ∃ ip : Option Ipv6Addr, addr = ip.map .v6 := by
  cases addr with
  | none => exact ⟨none, rfl⟩
  | some ip =>
    cases ip with
    | v4 ip => cases h _ rfl
    | v6 ip => exact ⟨some ip, rfl⟩

theorem source_eq_elim (config : SubscriptionConfig) :
    config.source = config.sourceAddr.elim .any .source := by
  rw [SubscriptionConfig.sourceAddr]
  cases config.source <;> rfl

/-- A validated configuration is that of a membership. -/
theorem exists_membership_of_validate {config : SubscriptionConfig}
    (h : config.validate = .ok ()) :
    (∃ membership, config = ofIpv4 membership config.dstPort) ∨
      ∃ membership, config = ofIpv6 membership config.dstPort := by
  have hselection := selection_of_validate h
  have hsource : ∀ ip, config.sourceAddr = some ip → ip.family = config.group.family := by
    intro ip hip
    have hchecked := validateMulticastSelection_source hselection
    rw [source_eq_elim config, hip] at hchecked
    exact validateSource_family hchecked
  obtain ⟨hinterface, hindex⟩ := validateInterface_eq_ok
    (validateMulticastSelection_interface hselection)
  have heq := source_eq_elim config
  obtain ⟨group, source, dstPort, interface, interfaceIndex⟩ := config
  dsimp only at heq hinterface hindex hsource ⊢
  cases group with
  | v4 group =>
    obtain ⟨sourceIp, hsourceIp⟩ := exists_v4_of_family hsource
    obtain ⟨interfaceIp, rfl⟩ := exists_v4_of_family hinterface
    refine .inl ⟨{ group := group, source := sourceIp, interface := interfaceIp }, ?_⟩
    rw [hindex rfl, heq, hsourceIp, ofIpv4]
    cases sourceIp <;> rfl
  | v6 group =>
    obtain ⟨sourceIp, hsourceIp⟩ := exists_v6_of_family hsource
    obtain ⟨interfaceIp, rfl⟩ := exists_v6_of_family hinterface
    refine .inr ⟨
      { group := group
        source := sourceIp
        interface := interfaceIp
        interfaceIndex := interfaceIndex }, ?_⟩
    rw [heq, hsourceIp, ofIpv6]
    cases sourceIp <;> rfl

theorem converts_of_validate {config : SubscriptionConfig} (h : config.validate = .ok ()) :
    Converts config := by
  rcases exists_membership_of_validate h with ⟨membership, heq⟩ | ⟨membership, heq⟩
  · rw [heq]
    have hmembership := ofIpv4_ipv4Membership membership config.dstPort
    refine ⟨?_, ?_, fun other hother => ?_, fun other hother => ?_⟩
    · rw [hmembership]
      exact iff_of_true rfl rfl
    · exact iff_of_false (fun h => by cases h) (fun h => by cases h)
    · rw [hmembership] at hother
      cases hother
      exact ⟨rfl, (ofIpv4_sourceAddr ..).symm, rfl, rfl⟩
    · cases hother
  · rw [heq]
    have hmembership := ofIpv6_ipv6Membership membership config.dstPort
    refine ⟨?_, ?_, fun other hother => ?_, fun other hother => ?_⟩
    · exact iff_of_false (fun h => by cases h) (fun h => by cases h)
    · rw [hmembership]
      exact iff_of_true rfl rfl
    · cases hother
    · rw [hmembership] at hother
      cases hother
      exact ⟨rfl, (ofIpv6_sourceAddr ..).symm, rfl, rfl⟩

/-! ## Membership calls -/

section Calls

variable {os : MembershipSystem W} {op : MembershipOp} {socket : Fd} {config : SubscriptionConfig}

theorem logged_platform : os.logged.platform = os.platform := rfl

theorem logged_errorKind : os.logged.errorKind = os.errorKind := rfl

theorem logged_interfaceAddresses (w : W) (log : List Request) :
    os.logged.interfaceAddresses (w, log) =
      ((os.interfaceAddresses w).1, (os.interfaceAddresses w).2, log) := rfl

theorem logged_request (request : Request) (w : W) (log : List Request) :
    os.logged.request socket request (w, log) =
      ((os.request socket request w).1, (os.request socket request w).2, log ++ [request]) := rfl

theorem logged_probeBind (addr : SocketAddr) (w : W) (log : List Request) :
    os.logged.probeBind addr (w, log) = ((os.probeBind addr w).1, (os.probeBind addr w).2, log) :=
  rfl

theorem logged_probeConnect (probe : Fd) (addr : SocketAddr) (w : W) (log : List Request) :
    os.logged.probeConnect probe addr (w, log) =
      ((os.probeConnect probe addr w).1, (os.probeConnect probe addr w).2, log) := rfl

theorem logged_probeLocalAddr (probe : Fd) (w : W) (log : List Request) :
    os.logged.probeLocalAddr probe (w, log) =
      ((os.probeLocalAddr probe w).1, (os.probeLocalAddr probe w).2, log) := rfl

/-- The call on the logged system does what the plain one does, and answers the
configuration. -/
def Answers (config : SubscriptionConfig) (call : Except McrxError Unit × W × List Request)
    (plain : Except McrxError Unit × W) : Prop :=
  ∃ log, call = (plain.1, plain.2, log) ∧ Answer config plain.1 log

/-- The same for a call that makes no request and fails only as an interface selection. -/
structure Selects {α : Type} (call : Except McrxError α × W × List Request)
    (plain : Except McrxError α × W) : Prop where
  eq : call = (plain.1, plain.2, [])
  failed : ∀ e, plain.1 = .error e → SelectionFailed e

theorem Selects.andThen {α : Type} {call : Except McrxError α × W × List Request}
    {plain : Except McrxError α × W}
    {next : α → W × List Request → Except McrxError Unit × W × List Request}
    {plainNext : α → W → Except McrxError Unit × W} (h : Selects call plain)
    (hnext : ∀ a w, plain.1 = .ok a → Answers config (next a (w, [])) (plainNext a w)) :
    Answers config (McrxCore.andThen call next) (McrxCore.andThen plain plainNext) := by
  obtain ⟨result, w⟩ := plain
  rw [h.eq]
  cases result with
  | error e => exact ⟨[], rfl, .refused e (h.failed e rfl)⟩
  | ok a => exact hnext a w rfl

theorem selects_ok {α : Type} (a : α) (w : W) :
    Selects ((.ok a : Except McrxError α), w, []) (.ok a, w) :=
  ⟨rfl, fun _ h => by cases h⟩

theorem selects_error {α : Type} {e : McrxError} (h : SelectionFailed e) (w : W) :
    Selects ((.error e : Except McrxError α), w, []) (.error e, w) :=
  ⟨rfl, fun e' he => by cases he; exact h⟩

theorem resolveIpv6InterfaceIndex_selects (interface : Ipv6Addr) (w : W) :
    Selects (resolveIpv6InterfaceIndex os.logged interface (w, []))
      (resolveIpv6InterfaceIndex os interface w) := by
  unfold resolveIpv6InterfaceIndex
  rw [logged_platform, logged_interfaceAddresses]
  by_cases hplatform : os.platform = .other
  · rw [if_pos hplatform, if_pos hplatform]
    exact selects_error (by trivial) w
  · rw [if_neg hplatform, if_neg hplatform]
    generalize os.interfaceAddresses w = answer
    obtain ⟨_ | candidates, w⟩ := answer
    · exact selects_error (by trivial) w
    · dsimp only
      cases candidates.find? (matchesInterface os.platform interface) with
      | none => exact selects_error (by trivial) w
      | some candidate => exact selects_ok candidate.index w

theorem resolveIpv6Interface_selects {membership : Ipv6Membership}
    (h : config.ipv6Membership = some membership) (w : W) :
    Selects (resolveIpv6Interface os.logged config (w, []))
      (resolveIpv6Interface os config w) := by
  unfold resolveIpv6Interface
  rw [ipv6Membership, h]
  dsimp only [andThen]
  rw [logged_platform]
  split
  · exact selects_error (by trivial) w
  · cases membership.interfaceIndex with
    | some index => exact selects_ok index w
    | none =>
      cases membership.interface with
      | none => exact selects_ok 0 w
      | some interface =>
        dsimp only
        split
        · exact selects_ok 0 w
        · exact resolveIpv6InterfaceIndex_selects interface w

theorem resolveIpv4SourceInterfaceAddress_selects (interface source : Ipv4Addr) (w : W) :
    Selects (resolveIpv4SourceInterfaceAddress os.logged interface source (w, []))
      (resolveIpv4SourceInterfaceAddress os interface source w) := by
  unfold resolveIpv4SourceInterfaceAddress
  split
  · unfold resolveDefaultIpv4Interface
    rw [logged_probeBind]
    generalize os.probeBind _ w = answer
    obtain ⟨_ | probe, w⟩ := answer
    · exact selects_error (by trivial) w
    · dsimp only
      rw [logged_probeConnect]
      generalize os.probeConnect probe _ w = answer
      obtain ⟨_ | _, w⟩ := answer
      · exact selects_error (by trivial) w
      · dsimp only
        rw [logged_probeLocalAddr]
        generalize os.probeLocalAddr probe w = answer
        obtain ⟨_ | ⟨ip | ip, port, flowinfo, scopeId⟩, w⟩ := answer
        · exact selects_error (by trivial) w
        · dsimp only
          split
          · exact selects_ok ip w
          · exact selects_error (by trivial) w
        · exact selects_error (by trivial) w
  · exact selects_ok interface w

theorem requestMembership_answers (request : Request) (hgroup : request.group = config.group)
    (hsource : request.source = config.sourceAddr) (w : W) :
    Answers config (requestMembership os.logged op socket request (w, []))
      (requestMembership os op socket request w) := by
  refine ⟨[request], rfl, .issued request _ hgroup hsource ?_⟩
  show (os.request socket request w).1.mapError op.failed ≠ _
  cases (os.request socket request w).1 with
  | ok => exact fun h => by cases h
  | error e => cases op <;> exact fun h => by cases h

theorem sourceMulticastV4_answers {group source : Ipv4Addr} (interface : Ipv4Addr)
    (hgroup : .v4 group = config.group) (hsource : some (.v4 source) = config.sourceAddr) (w : W) :
    Answers config (sourceMulticastV4 os.logged op socket group source interface (w, []))
      (sourceMulticastV4 os op socket group source interface w) := by
  unfold sourceMulticastV4
  rw [logged_platform]
  cases os.platform with
  | apple =>
    exact (resolveIpv4SourceInterfaceAddress_selects interface source w).andThen
      fun interface w _ =>
        requestMembership_answers (.sourceV4 op group source interface) hgroup hsource w
  | linux | otherUnix | windows | other =>
    exact requestMembership_answers (.sourceV4 op group source interface) hgroup hsource w

/-- The source-specific request of IPv6, or the error of a platform without it. -/
theorem sourceMulticastV6_answers {group source : Ipv6Addr} (interface : UInt32)
    (hgroup : .v6 group = config.group) (hsource : some (.v6 source) = config.sourceAddr) (w : W) :
    Answers config
      (sourceMulticastV6 os.logged op socket group source interface (w, []))
      (sourceMulticastV6 os op socket group source interface w) := by
  unfold sourceMulticastV6 setIpv6SourceMembershipOption
  rw [logged_platform, logged_request]
  obtain ⟨⟨result, w'⟩, hanswer⟩ : ∃ answer,
    os.request socket (.sourceV6 op group source interface) w = answer := ⟨_, rfl⟩
  rw [hanswer]
  cases os.platform with
  | otherUnix | other => exact ⟨[], rfl, .refused _ (by trivial)⟩
  | linux | apple | windows =>
    refine ⟨[.sourceV6 op group source interface], ?_, .issued _ _ hgroup hsource ?_⟩
    all_goals
      cases result with
      | ok => first | rfl | exact fun h => by cases h
      | error e =>
        simp only [Except.mapError, logged_errorKind]
        cases os.errorKind e <;> cases op <;> first | rfl | exact fun h => by cases h

variable (os op) in
theorem changeMembership_answers (h : config.validate = .ok ()) (w : W) :
    Answers config (changeMembership os.logged op socket config (w, []))
      (changeMembership os op socket config w) := by
  rcases exists_membership_of_validate h with ⟨membership, heq⟩ | ⟨membership, heq⟩
  · generalize config.dstPort = dstPort at heq
    subst heq
    have hmembership := ofIpv4_ipv4Membership membership dstPort
    have hsource := ofIpv4_sourceAddr membership dstPort
    unfold changeMembership
    show Answers _ (andThen (ipv4Membership (ofIpv4 membership dstPort), w, []) _)
      (andThen (ipv4Membership (ofIpv4 membership dstPort), w) _)
    simp only [andThen, ipv4Membership, resolveIpv4Interface, hmembership]
    cases hany : membership.source with
    | none =>
      rw [hany] at hsource
      exact requestMembership_answers (.anySourceV4 op _ _) rfl hsource.symm w
    | some source =>
      rw [hany] at hsource
      exact sourceMulticastV4_answers _ rfl hsource.symm w
  · generalize config.dstPort = dstPort at heq
    subst heq
    have hmembership := ofIpv6_ipv6Membership membership dstPort
    have hsource := ofIpv6_sourceAddr membership dstPort
    unfold changeMembership
    show Answers _ (andThen (ipv6Membership (ofIpv6 membership dstPort), w, []) _)
      (andThen (ipv6Membership (ofIpv6 membership dstPort), w) _)
    rw [ipv6Membership, hmembership]
    refine (resolveIpv6Interface_selects hmembership w).andThen fun interface w _ => ?_
    cases hany : membership.source with
    | none =>
      rw [hany] at hsource
      exact requestMembership_answers (.anySourceV6 op _ _) rfl hsource.symm w
    | some source =>
      rw [hany] at hsource
      exact sourceMulticastV6_answers _ rfl hsource.symm w

end Calls

/-- A configuration for which no membership call fails in the conversion, and every
request of one is for its group and source. -/
structure Serves (os : MembershipSystem W) (config : SubscriptionConfig) : Prop where
  converts : Converts config
  neverInvalid : ∀ op socket w,
    (changeMembership os op socket config w).1 ≠ .error .invalidSubscriptionAddressFamily
  sourceSpecific : ∀ op socket w,
    ∀ request ∈ (changeMembership os.logged op socket config (w, [])).2.2,
      request.group = config.group ∧ request.source = config.sourceAddr ∧
        (request.sourceSpecific = true ↔ InSsmRange config.group)
  issued : ∀ op socket w,
    (changeMembership os.logged op socket config (w, [])).2.2.length = 1 ∨
      ∃ e, (changeMembership os op socket config w).1 = .error e ∧ SelectionFailed e

theorem serves_of_validate (os : MembershipSystem W) {config : SubscriptionConfig}
    (h : config.validate = .ok ()) : Serves os config where
  converts := converts_of_validate h
  neverInvalid := by
    intro op socket w
    obtain ⟨log, -, hanswer⟩ := changeMembership_answers os op h w
    exact hanswer.ne_invalid
  sourceSpecific := by
    intro op socket w request hrequest
    obtain ⟨log, hcall, hanswer⟩ := changeMembership_answers os op h w
    rw [hcall] at hrequest
    obtain ⟨hgroup, hsource⟩ := hanswer.of_mem hrequest
    refine ⟨hgroup, hsource, ?_⟩
    rw [← groupIsSsm_iff, ← validateMulticastSelection_isSsm (selection_of_validate h),
      Request.sourceSpecific, hsource, SubscriptionConfig.sourceAddr]
    cases config.source <;> simp
  issued := by
    intro op socket w
    obtain ⟨log, hcall, hanswer⟩ := changeMembership_answers os op h w
    rw [hcall]
    exact hanswer.issued_or_failed

/-- A source is compared in the source field of the header of the group's family. -/
structure FilterAligned (config : RawSubscriptionConfig) : Prop where
  width : ∀ source, config.source = .source source →
    source.octets.length = config.group.octets.length ∧
      sourceStart config.family + source.octets.length = destinationStart config.family
  program : ∀ source, config.source = .source source → ∀ ipOffset,
    bpfIpFilter config ipOffset = compile 0xffffffff
      (versionTest ipOffset (familyVersion config.family) ::
        (wordTests (ipOffset + UInt32.ofNat (destinationStart config.family)) 0
            config.group.octets ++
          wordTests (ipOffset + UInt32.ofNat (sourceStart config.family)) 0 source.octets))

theorem filterAligned_of_validate {config : RawSubscriptionConfig} (h : config.validate = .ok ()) :
    FilterAligned config where
  width := by
    intro source hsource
    have hfamily := RawSubscriptionConfig.source_family_of_validate h hsource
    have hgroup : config.group.family = config.family := rfl
    rw [IpAddr.octets_length, IpAddr.octets_length, hfamily, hgroup]
    cases config.family <;> exact ⟨rfl, rfl⟩
  program := by
    intro source hsource ipOffset
    rw [bpfIpFilter_eq_compile, ipFilterTests, sourceTests, hsource]

theorem validate_membershipCompatConfig (config : RawSubscriptionConfig) :
    config.membershipCompatConfig.validate = config.validate := rfl

/-- What validation promises to the code behind it, for both configuration types. -/
theorem validated_configs_convert (os : MembershipSystem W) (config : SubscriptionConfig)
    (raw : RawSubscriptionConfig) :
    (config.validate = .ok () → Serves os config) ∧
    (raw.validate = .ok () ↔ raw.membershipCompatConfig.validate = .ok ()) ∧
    (raw.validate = .ok () → Serves os raw.membershipCompatConfig ∧ FilterAligned raw) := by
  refine ⟨serves_of_validate os, ?_, fun h => ⟨serves_of_validate os ?_,
    filterAligned_of_validate h⟩⟩
  · rw [validate_membershipCompatConfig]
  · rw [validate_membershipCompatConfig, h]

/-- A system that grants every request and has no interface addresses. -/
def MembershipSystem.granting (platform : Platform) : MembershipSystem Unit :=
  { platform := platform
    errorKind := fun _ => .other
    interfaceAddresses := fun w => (.ok [], w)
    probeBind := fun _ w => (.ok 3, w)
    probeConnect := fun _ _ w => (.ok (), w)
    probeLocalAddr := fun _ w => (.ok { ip := .v4 (.new 192 0 2 1), port := 9 }, w)
    request := fun _ _ w => (.ok (), w) }

/-- `2001:db8::10` to `ff3e::8000:1234`, on any interface. -/
def ssmIpv6 : RawSubscriptionConfig :=
  .ssm (.v6 (.ofSegments [0xff3e, 0, 0, 0, 0, 0, 0x8000, 0x1234]))
    (.v6 (.ofSegments [0x2001, 0xdb8, 0, 0, 0, 0, 0, 0x10]))

theorem validated_configs_convert_ssm :
    Serves (.granting .linux) ssmIpv6.membershipCompatConfig ∧ FilterAligned ssmIpv6 :=
  (validated_configs_convert (.granting .linux) ssmIpv6.membershipCompatConfig ssmIpv6).2.2
    (by decide)

/-- On Apple systems such a configuration is validated, and the join makes no request. -/
theorem valid_ssm_makes_no_request :
    ssmIpv6.membershipCompatConfig.validate = .ok () ∧
      InSsmRange ssmIpv6.membershipCompatConfig.group ∧
      changeMembership (MembershipSystem.granting .apple).logged .join 3
          ssmIpv6.membershipCompatConfig ((), []) =
        (.error .ipv6SourceSpecificMulticastRequiresInterface, (), []) :=
  ⟨by decide, ⟨14, by decide, by decide⟩, by rfl⟩

end Membership

end McrxCore
