import McrxCore.Platform.FilterCorrect
import McrxCore.Raw.Shared.Representation

/-!
# The shared path and the per-subscription path

A shared capture filters coarsely in the kernel and looks the datagram up in its
index; a subscription of its own filters exactly in the kernel and again in
userspace.  On every open capture both deliver the same datagrams to the same
subscriptions, whatever joins and leaves led to the state.
-/

namespace McrxCore

open ClassicBpf (accepts)
open SortedList (Increasing)
open SharedRawContext

/-- The per-subscription path: the kernel filter of the configuration, then the
parse and the userspace filter. -/
def perSubscriptionPath (config : RawSubscriptionConfig) (bytes : List UInt8) : Bool :=
  accepts (bpfIpFilter config 0) bytes && userspaceDelivers config bytes

/-- The shared path: the kernel filter of the family, then the parse, the family
check and the lookup. -/
def sharedPath (capture : SharedCaptureSocket) (key : RawSharedCaptureKey) (bytes : List UInt8)
    (sllIfindex : Int32) : Option (RawCapturedDatagram × MatchingSubscriptionIds) :=
  if accepts (bpfIpMulticastFamilyFilter key.family 0) bytes then
    match sharedRawDatagram key bytes sllIfindex with
    | none => none
    | some captured =>
      (capture.demultiplexer.matching captured.group captured.sourceIp).map (captured, ·)
  else none

/-- Subscription `id` is joined on `key`, and its own path would deliver the bytes. -/
def DeliveredTo (subscriptions : Subscriptions) (key : RawSharedCaptureKey) (bytes : List UInt8)
    (id : SubscriptionId) : Prop :=
  ∃ subscription, subscriptions.lookup id = some subscription ∧
    subscription.joinedCapture = some key ∧ perSubscriptionPath subscription.config bytes = true

/-- The same subscriptions are joined on `key`. -/
def JoinedAlike (key : RawSharedCaptureKey) (subscriptions subscriptions' : Subscriptions) : Prop :=
  ∀ id config,
    (∃ subscription, subscriptions.lookup id = some subscription ∧
      subscription.joinedCapture = some key ∧ subscription.config = config) ↔
    ∃ subscription, subscriptions'.lookup id = some subscription ∧
      subscription.joinedCapture = some key ∧ subscription.config = config

def SameContent (a b : RawPacket) : Prop :=
  a.datagram = b.datagram ∧ a.sourceIp = b.sourceIp ∧ a.group = b.group ∧
    a.ipProtocol = b.ipProtocol

theorem perSubscriptionPath_iff {config : RawSubscriptionConfig}
    (hvalid : config.validate = .ok ()) (bytes : List UInt8) :
    perSubscriptionPath config bytes = true ↔
      ∃ parsed, parseIpDatagram bytes = some parsed ∧ packetMatchesConfig parsed config = true := by
  rw [perSubscriptionPath, Bool.and_eq_true, userspaceDelivers, Option.any_eq_true]
  constructor
  · intro h
    exact h.2
  · intro h
    obtain ⟨parsed, hparse, hmatches⟩ := h
    have hprefix : ([] : List UInt8).length = (0 : UInt32).toNat := rfl
    refine ⟨?_, parsed, hparse, hmatches⟩
    rw [accepts_bpfIpFilter]
    exact (ipFilterTests_hold hvalid hprefix (by decide) hparse).mpr hmatches

theorem sharedRawDatagram_eq_some {key : RawSharedCaptureKey} {bytes : List UInt8}
    {sllIfindex : Int32} {captured : RawCapturedDatagram}
    (h : sharedRawDatagram key bytes sllIfindex = some captured) :
    ∃ parsed, parseIpDatagram bytes = some parsed ∧ parsed.destinationIp.family = key.family ∧
      captured.datagram = bytes.take parsed.datagramLen ∧ captured.sourceIp = parsed.sourceIp ∧
      captured.group = parsed.destinationIp ∧ captured.ipProtocol = parsed.protocol := by
  simp only [sharedRawDatagram] at h
  split at h
  · exact nomatch h
  · rename_i parsed hparse
    split at h
    · exact nomatch h
    · rename_i hfamily
      cases h
      exact ⟨parsed, hparse, (Decidable.not_not.mp hfamily).symm, rfl, rfl, rfl, rfl⟩

theorem sharedRawDatagram_isSome {key : RawSharedCaptureKey} {bytes : List UInt8}
    (sllIfindex : Int32) {parsed : ParsedIpDatagram} (hparse : parseIpDatagram bytes = some parsed)
    (hfamily : parsed.destinationIp.family = key.family) :
    ∃ captured, sharedRawDatagram key bytes sllIfindex = some captured := by
  simp only [sharedRawDatagram, hparse]
  rw [if_neg (by simp [hfamily])]
  exact ⟨_, rfl⟩

/-- The matching ids depend on the joined subscriptions only. -/
theorem JoinedAlike.matchingIds_eq {key : RawSharedCaptureKey}
    {subscriptions subscriptions' : Subscriptions}
    (h : JoinedAlike key subscriptions subscriptions') (captured : RawCapturedDatagram) :
    matchingIds subscriptions key captured = matchingIds subscriptions' key captured := by
  have hside : ∀ subscriptions : Subscriptions, ∀ id,
      id ∈ matchingIds subscriptions key captured ↔
        ∃ config : RawSubscriptionConfig,
          (config.group = captured.group ∧
            (config.sourceAddr = none ∨ config.sourceAddr = some captured.sourceIp)) ∧
          ∃ subscription, subscriptions.lookup id = some subscription ∧
            subscription.joinedCapture = some key ∧ subscription.config = config := by
    intro subscriptions id
    rw [mem_matchingIds]
    simp only [SharedRawSubscription.admits, Bool.and_eq_true, Bool.or_eq_true, decide_eq_true_eq,
      beq_iff_eq, and_assoc]
    constructor
    · intro hex
      obtain ⟨subscription, hl, hjoined, hgroup, hsource⟩ := hex
      exact ⟨subscription.config, hgroup, hsource, subscription, hl, hjoined, rfl⟩
    · intro hex
      obtain ⟨config, hgroup, hsource, subscription, hl, hjoined, rfl⟩ := hex
      exact ⟨subscription, hl, hjoined, hgroup, hsource⟩
  refine matchingIds_increasing.eq_of_mem_iff matchingIds_increasing fun id => ?_
  rw [hside, hside]
  exact exists_congr fun config => and_congr_right fun _ => h id config

namespace SharedRawContext

/-- A stored subscription's capture is of its own family. -/
theorem Invariant.captureKey_family {c : SharedRawContext} (h : c.Invariant)
    {id : SubscriptionId} {subscription : SharedRawSubscription}
    (hl : c.subscriptions.lookup id = some subscription) :
    subscription.captureKey.family = subscription.config.family := by
  obtain ⟨resolved, hresolved, -⟩ := h.resolved_of_lookup hl
  rw [h.resolvedKey id subscription resolved hl hresolved, h.resolved _ resolved hresolved]
  rfl

section Paths

variable {c : SharedRawContext} {key : RawSharedCaptureKey} {bytes : List UInt8}
  {sllIfindex : Int32} {captured : RawCapturedDatagram}

/-- On a captured datagram the index admits what the subscription's own path
delivers. -/
theorem mem_matchingIds_iff_delivered (h : c.Invariant)
    (hcaptured : sharedRawDatagram key bytes sllIfindex = some captured) (id : SubscriptionId) :
    id ∈ matchingIds c.subscriptions key captured ↔ DeliveredTo c.subscriptions key bytes id := by
  obtain ⟨parsed, hparse, -, -, hsource, hgroup, -⟩ := sharedRawDatagram_eq_some hcaptured
  rw [mem_matchingIds]
  refine exists_congr fun subscription => and_congr_right fun hl => ?_
  rw [perSubscriptionPath_iff (h.validated id subscription hl)]
  simp only [SharedRawSubscription.admits, Bool.and_eq_true, Bool.or_eq_true, decide_eq_true_eq,
    beq_iff_eq, and_assoc]
  refine and_congr_right fun hjoined => ?_
  have hmatches : packetMatchesConfig parsed subscription.config = true ↔ _ :=
    packetMatchesConfig_iff
  constructor
  · intro hadmits
    refine ⟨parsed, hparse, hmatches.mpr ⟨?_, fun source hs => ?_⟩⟩
    · rw [← hgroup, hadmits.1]
    · rcases hadmits.2 with hnone | hsome
      · rw [hnone] at hs
        cases hs
      · rw [hsome] at hs
        rw [← hsource, Option.some.inj hs]
  · intro hex
    obtain ⟨parsed', hparse', hpacket⟩ := hex
    obtain rfl : parsed = parsed' := Option.some.inj (hparse.symm.trans hparse')
    obtain ⟨hdestination, hany⟩ := hmatches.mp hpacket
    refine ⟨by rw [hgroup, hdestination], ?_⟩
    cases hs : subscription.config.sourceAddr with
    | none => exact Or.inl rfl
    | some source => exact Or.inr (by rw [hsource, hany source hs])

/-- What some subscription would be delivered passes the family filter and the
family check. -/
theorem sharedRawDatagram_of_delivered (h : c.Invariant) {id : SubscriptionId}
    (hdelivered : DeliveredTo c.subscriptions key bytes id) (sllIfindex : Int32) :
    accepts (bpfIpMulticastFamilyFilter key.family 0) bytes = true ∧
      ∃ captured, sharedRawDatagram key bytes sllIfindex = some captured := by
  obtain ⟨subscription, hl, hjoined, hpath⟩ := hdelivered
  have hvalid := h.validated id subscription hl
  obtain ⟨parsed, hparse, hpacket⟩ := (perSubscriptionPath_iff hvalid bytes).mp hpath
  obtain ⟨hdestination, -⟩ := packetMatchesConfig_iff.mp hpacket
  have hfamily : parsed.destinationIp.family = key.family := by
    rw [hdestination, ← (SharedRawSubscription.joinedCapture_eq_some.mp hjoined).2,
      h.captureKey_family hl]
    rfl
  refine ⟨?_, sharedRawDatagram_isSome sllIfindex hparse hfamily⟩
  rw [← hfamily]
  exact familyFilter_keeps hparse
    (hdestination ▸ RawSubscriptionConfig.isMulticast_of_validate hvalid)

/-- The shared path, as a function of the subscriptions. -/
theorem sharedPath_eq (h : c.Invariant) {capture : SharedCaptureSocket}
    (hcapture : c.captures.lookup key = some capture) (bytes : List UInt8) (sllIfindex : Int32) :
    sharedPath capture key bytes sllIfindex =
      (sharedRawDatagram key bytes sllIfindex).bind fun captured =>
        (MatchingSubscriptionIds.ofIds (matchingIds c.subscriptions key captured)).map
          (captured, ·) := by
  rw [sharedPath]
  cases hcaptured : sharedRawDatagram key bytes sllIfindex with
  | none =>
    split
    · rfl
    · rfl
  | some captured =>
    simp only [(h.consistent key capture hcapture).matching_eq, Option.bind_some]
    split
    · rfl
    · rename_i hrejects
      -- The family filter rejects only what no subscription is delivered.
      have hnil : matchingIds c.subscriptions key captured = [] := by
        refine List.eq_nil_iff_forall_not_mem.mpr fun id hid => ?_
        have hdelivered := (mem_matchingIds_iff_delivered h hcaptured id).mp hid
        exact hrejects (sharedRawDatagram_of_delivered h hdelivered sllIfindex).1
      rw [hnil]
      rfl

section SharedPath

variable {capture : SharedCaptureSocket}

theorem sharedPath_isSome_iff (h : c.Invariant) (hcapture : c.captures.lookup key = some capture)
    (bytes : List UInt8) (sllIfindex : Int32) :
    (sharedPath capture key bytes sllIfindex).isSome = true ↔
      ∃ id, DeliveredTo c.subscriptions key bytes id := by
  rw [sharedPath_eq h hcapture]
  constructor
  · intro hsome
    obtain ⟨⟨captured, ids⟩, hbind⟩ := Option.isSome_iff_exists.mp hsome
    obtain ⟨captured', hcaptured, hmap⟩ := Option.bind_eq_some_iff.mp hbind
    have hne : matchingIds c.subscriptions key captured' ≠ [] := by
      intro hnil
      rw [hnil] at hmap
      exact nomatch hmap
    obtain ⟨id, hid⟩ := List.exists_mem_of_ne_nil _ hne
    exact ⟨id, (mem_matchingIds_iff_delivered h hcaptured id).mp hid⟩
  · intro hex
    obtain ⟨id, hdelivered⟩ := hex
    obtain ⟨-, captured, hcaptured⟩ := sharedRawDatagram_of_delivered h hdelivered sllIfindex
    have hid := (mem_matchingIds_iff_delivered h hcaptured id).mpr hdelivered
    rw [hcaptured, Option.bind_some, Option.isSome_map]
    cases hids : MatchingSubscriptionIds.ofIds (matchingIds c.subscriptions key captured) with
    | none =>
      rw [MatchingSubscriptionIds.ofIds_eq_none.mp hids] at hid
      exact nomatch hid
    | some ids => rfl

/-- The packet of the shared path: its ids, and the content the per-subscription
path gives. -/
theorem sharedPath_packet (h : c.Invariant) (hcapture : c.captures.lookup key = some capture)
    {ids : MatchingSubscriptionIds}
    (hsome : sharedPath capture key bytes sllIfindex = some (captured, ids)) :
    Increasing ids.asSlice ∧ (∀ id, id ∈ ids.asSlice ↔ DeliveredTo c.subscriptions key bytes id) ∧
      ∃ parsed, parseIpDatagram bytes = some parsed ∧ ∀ id config metadata,
        SameContent (rawPacketFromCaptured id config captured)
          (rawPacketFromParts id bytes parsed metadata) := by
  rw [sharedPath_eq h hcapture] at hsome
  obtain ⟨captured', hcaptured, hmap⟩ := Option.bind_eq_some_iff.mp hsome
  obtain ⟨ids', hids, heq⟩ := Option.map_eq_some_iff.mp hmap
  cases heq
  rw [MatchingSubscriptionIds.asSlice_of_ofIds hids]
  obtain ⟨parsed, hparse, -, hdatagram, hsource, hgroup, hprotocol⟩ :=
    sharedRawDatagram_eq_some hcaptured
  refine ⟨matchingIds_increasing, mem_matchingIds_iff_delivered h hcaptured, parsed, hparse,
    fun id config metadata => ?_⟩
  exact ⟨hdatagram, congrArg some hsource, congrArg some hgroup, congrArg some hprotocol⟩

/-- The joined subscriptions determine the shared path. -/
theorem sharedPath_congr {c' : SharedRawContext} (h : c.Invariant) (h' : c'.Invariant)
    (hcapture : c.captures.lookup key = some capture) {capture' : SharedCaptureSocket}
    (hcapture' : c'.captures.lookup key = some capture')
    (halike : JoinedAlike key c.subscriptions c'.subscriptions) :
    sharedPath capture' key bytes sllIfindex = sharedPath capture key bytes sllIfindex := by
  rw [sharedPath_eq h hcapture, sharedPath_eq h' hcapture']
  cases sharedRawDatagram key bytes sllIfindex with
  | none => rfl
  | some captured =>
    rw [Option.bind_some, Option.bind_some, JoinedAlike.matchingIds_eq halike captured]

end SharedPath

end Paths

end SharedRawContext

namespace System

variable {W : Type} {os : OperatingSystem W}

/-- On every open capture the shared path yields a packet exactly when some joined
subscription's own path would, for exactly those subscriptions and with the same
content.  The result is a function of the joined subscriptions. -/
theorem shared_path_agrees {s : System W} (h : Reachable os s) {key : RawSharedCaptureKey}
    {capture : SharedCaptureSocket} (hcapture : s.context.captures.lookup key = some capture)
    (bytes : List UInt8) (sllIfindex : Int32) :
    ((sharedPath capture key bytes sllIfindex).isSome = true ↔
      ∃ id, DeliveredTo s.context.subscriptions key bytes id) ∧
    (∀ captured ids, sharedPath capture key bytes sllIfindex = some (captured, ids) →
      Increasing ids.asSlice ∧
      (∀ id, id ∈ ids.asSlice ↔ DeliveredTo s.context.subscriptions key bytes id) ∧
      ∃ parsed, parseIpDatagram bytes = some parsed ∧ ∀ id config metadata,
        SameContent (rawPacketFromCaptured id config captured)
          (rawPacketFromParts id bytes parsed metadata)) ∧
    (∀ (W' : Type) (os' : OperatingSystem W') (s' : System W'), Reachable os' s' → ∀ capture',
      s'.context.captures.lookup key = some capture' →
      JoinedAlike key s.context.subscriptions s'.context.subscriptions →
      sharedPath capture' key bytes sllIfindex = sharedPath capture key bytes sllIfindex) :=
  ⟨sharedPath_isSome_iff h.invariant hcapture bytes sllIfindex,
    fun _ _ hsome => sharedPath_packet h.invariant hcapture hsome,
    fun _ _ _ h' _ hcapture' halike =>
      sharedPath_congr h.invariant h'.invariant hcapture hcapture' halike⟩

theorem shared_path_agrees_twoCaptures :
    ∃ capture, twoCaptures.context.captures.lookup (captureOn 1) = some capture ∧
      ((sharedPath capture (captureOn 1) emptyDatagram 0).isSome = true ↔
        ∃ id, DeliveredTo twoCaptures.context.subscriptions (captureOn 1) emptyDatagram id) := by
  obtain ⟨capture, hcapture⟩ : ∃ capture, twoCaptures.context.captures.lookup (captureOn 1) =
      some capture := Option.isSome_iff_exists.mp (by decide +kernel)
  exact ⟨capture, hcapture, (shared_path_agrees twoCaptures_reachable hcapture emptyDatagram 0).1⟩

end System

end McrxCore
