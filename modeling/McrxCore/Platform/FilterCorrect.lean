import McrxCore.Platform.Filter

/-!
# The filter programs against the userspace filter

On a datagram that parses, `bpfIpFilter` run behind a link-layer prefix answers
what `packetMatchesConfig` answers on the parsed fields.  The multicast family
filter keeps every datagram of its family with a multicast destination.
-/

namespace McrxCore

open BigEndian ClassicBpf

/-! ## Addresses by their bytes -/

theorem IpAddr.octets_length (addr : IpAddr) :
    addr.octets.length = match addr.family with | .ipv4 => 4 | .ipv6 => 16 := by
  cases addr <;> simp [IpAddr.octets, IpAddr.family]

theorem IpAddr.octets_inj {a b : IpAddr} (hf : a.family = b.family)
    (ho : a.octets = b.octets) : a = b := by
  cases a with
  | v4 a =>
    cases b with
    | v4 b =>
      have h : a.octets = b.octets := Vector.toList_inj.mp ho
      rw [show a = b from by cases a; cases b; exact congrArg _ h]
    | v6 b => cases hf
  | v6 a =>
    cases b with
    | v4 b => cases hf
    | v6 b =>
      have h : a.octets = b.octets := Vector.toList_inj.mp ho
      rw [show a = b from by cases a; cases b; exact congrArg _ h]

theorem BytesAt.iff_eq {datagram : List UInt8} {start : Nat} {a b : IpAddr}
    (ha : BytesAt datagram start a.octets) (hf : a.family = b.family) :
    BytesAt datagram start b.octets ↔ a = b := by
  have hlen : b.octets.length = a.octets.length := by
    rw [IpAddr.octets_length, IpAddr.octets_length, hf]
  constructor
  · intro hb
    refine IpAddr.octets_inj hf ?_
    rw [BytesAt] at ha hb
    rw [← ha, ← hb, hlen, ha]
  · rintro rfl
    exact ha

/-! ## Reading behind a prefix -/

theorem drop_prefix {linkPrefix : List UInt8} {ipOffset : UInt32}
    (hp : linkPrefix.length = ipOffset.toNat) (datagram : List UInt8) (start : Nat) :
    (linkPrefix ++ datagram).drop (ipOffset.toNat + start) = datagram.drop start := by
  rw [← hp, List.drop_append, List.drop_eq_nil_of_le (by omega), List.nil_append]
  congr 1
  omega

theorem loadB_prefix {linkPrefix : List UInt8} {ipOffset : UInt32}
    (hp : linkPrefix.length = ipOffset.toNat) (datagram : List UInt8) (start : Nat) :
    loadB (linkPrefix ++ datagram) (ipOffset.toNat + start) = datagram[start]?.map UInt8.toNat := by
  rw [loadB, ← hp, List.getElem?_append_right (by omega)]
  congr 2
  omega

theorem familyVersion_toNat (family : SubscriptionAddressFamily) :
    (familyVersion family).toNat = 16 * (ipVersion family).toNat := by
  cases family <;> rfl

theorem ipVersion_inj {a b : SubscriptionAddressFamily} (h : ipVersion a = ipVersion b) :
    a = b := by
  cases a <;> cases b <;> first | rfl | (exact absurd h (by decide))

/-- The version comparison tests the high nibble of the first byte. -/
theorem versionTest_holds {linkPrefix datagram : List UInt8} {ipOffset : UInt32}
    (hp : linkPrefix.length = ipOffset.toNat) {version : UInt8}
    (hv : datagram.head?.map (· >>> (4 : UInt8)) = some version)
    (family : SubscriptionAddressFamily) :
    (versionTest ipOffset (familyVersion family)).inRange (linkPrefix ++ datagram) ∧
      ((versionTest ipOffset (familyVersion family)).holds (linkPrefix ++ datagram) ↔
        version = ipVersion family) := by
  obtain ⟨first, hfirst, rfl⟩ := Option.map_eq_some_iff.mp hv
  have hload : load (linkPrefix ++ datagram) ldB ipOffset.toNat = some (some first.toNat) := by
    have h := loadB_prefix hp datagram 0
    rw [Nat.add_zero, ← List.head?_eq_getElem?, hfirst] at h
    exact congrArg some h
  have hmask : (versionTest ipOffset (familyVersion family)).applyMask first.toNat =
      16 * (first >>> (4 : UInt8)).toNat := and_f0 first
  have hexpected : (versionTest ipOffset (familyVersion family)).expected.toNat =
      16 * (ipVersion family).toNat := familyVersion_toNat family
  refine ⟨⟨_, hload⟩, ?_⟩
  rw [← UInt8.toNat_inj]
  constructor
  · rintro ⟨value, hvalue, he⟩
    have heq : value = first.toNat := by
      have h := hvalue.symm.trans hload
      simpa using h
    rw [heq, hmask, hexpected] at he
    omega
  · intro h
    exact ⟨first.toNat, hload, by rw [hmask, hexpected, h]⟩

/-! ## The subscription filter -/

theorem ipFilterTests_wellFormed (config : RawSubscriptionConfig) (ipOffset : UInt32) :
    ∀ t ∈ ipFilterTests config ipOffset, t.wellFormed := by
  rw [ipFilterTests, List.forall_mem_cons, List.forall_mem_append]
  refine ⟨Or.inl rfl, wordTests_wellFormed _ _ _, ?_⟩
  rw [sourceTests]
  cases config.source with
  | any => simp
  | source source => exact wordTests_wellFormed _ _ _

theorem ipFilter_length (config : RawSubscriptionConfig) (ipOffset : UInt32) :
    (emit (ipFilterTests config ipOffset)).length ≤ 19 := by
  have hoctets : ∀ addr : IpAddr, addr.octets.length ≤ 16 := by
    intro addr
    rw [IpAddr.octets_length]
    cases addr.family <;> simp
  have hgroup := hoctets config.group
  have hhead : (emit [versionTest ipOffset (familyVersion config.family)]).length = 3 := rfl
  rw [ipFilterTests, ← List.singleton_append, emit_append, emit_append, List.length_append,
    List.length_append, emit_wordTests_length, hhead, sourceTests]
  cases config.source with
  | any =>
    show 3 + (2 * (config.group.octets.length / 4) + 0) ≤ 19
    omega
  | source source =>
    have hsource := hoctets source
    rw [emit_wordTests_length]
    omega

/-- An address comparison placed `start` bytes into the datagram. -/
theorem addressTests_holds {linkPrefix : List UInt8} {ipOffset : UInt32} {start : Nat}
    (hp : linkPrefix.length = ipOffset.toNat) (datagram : List UInt8) (addr : IpAddr)
    (hoffset : ipOffset.toNat + start + addr.octets.length ≤ 2 ^ 32) :
    (∀ t ∈ wordTests (ipOffset + UInt32.ofNat start) 0 addr.octets,
        t.holds (linkPrefix ++ datagram)) ↔
      BytesAt datagram start addr.octets := by
  have hlen := addr.octets_length
  have hpos : 0 < addr.octets.length := by
    rw [hlen]
    cases addr.family <;> simp
  have hadd : (ipOffset + UInt32.ofNat start).toNat = ipOffset.toNat + start := by
    rw [UInt32.toNat_add, UInt32.toNat_ofNat']
    omega
  rw [wordTests_holds (by rw [hlen]; cases addr.family <;> decide) (by omega), hadd,
    Nat.mul_zero, Nat.add_zero, drop_prefix hp]
  rfl

theorem addressTests_inRange {linkPrefix : List UInt8} {ipOffset : UInt32} {start : Nat}
    (hp : linkPrefix.length = ipOffset.toNat) (datagram : List UInt8) (addr : IpAddr)
    (hoffset : ipOffset.toNat + start + addr.octets.length ≤ 2 ^ 32)
    (hd : start + addr.octets.length ≤ datagram.length) :
    ∀ t ∈ wordTests (ipOffset + UInt32.ofNat start) 0 addr.octets,
      t.inRange (linkPrefix ++ datagram) := by
  have hpos : 0 < addr.octets.length := by
    rw [addr.octets_length]
    cases addr.family <;> simp
  have hadd : (ipOffset + UInt32.ofNat start).toNat = ipOffset.toNat + start := by
    rw [UInt32.toNat_add, UInt32.toNat_ofNat']
    omega
  exact wordTests_inRange (by omega) (by rw [List.length_append]; omega)

theorem startOffsets (family : SubscriptionAddressFamily) :
    sourceStart family + (match family with | .ipv4 => 4 | .ipv6 => 16) =
        destinationStart family ∧
      destinationStart family + (match family with | .ipv4 => 4 | .ipv6 => 16) =
        ipHeaderLen family ∧ ipHeaderLen family ≤ 40 := by
  cases family <;> decide

/-- On an accepted datagram the comparisons of the filter program are the
conditions of the userspace filter. -/
theorem ipFilterTests_hold {config : RawSubscriptionConfig} (hvalid : config.validate = .ok ())
    {linkPrefix datagram : List UInt8} {ipOffset : UInt32} {parsed : ParsedIpDatagram}
    (hp : linkPrefix.length = ipOffset.toNat) (hoffset : ipOffset.toNat + 40 ≤ 2 ^ 32)
    (h : parseIpDatagram datagram = some parsed) :
    (∀ t ∈ ipFilterTests config ipOffset, t.holds (linkPrefix ++ datagram)) ↔
      packetMatchesConfig parsed config = true := by
  have hlayout := parseIpDatagram_layout h
  obtain ⟨hsourceEnd, hdestinationEnd, hheader⟩ := startOffsets config.family
  have hversion := (versionTest_holds hp hlayout.version config.family).2
  rw [packetMatchesConfig_iff, ipFilterTests, List.forall_mem_cons, List.forall_mem_append,
    hversion]
  by_cases hf : parsed.destinationIp.family = config.family
  · rw [hf] at hlayout hversion ⊢
    have hgroup : config.group.octets.length = _ := config.group.octets_length
    rw [show config.group.family = config.family from rfl] at hgroup
    rw [addressTests_holds hp datagram config.group (by rw [hgroup]; omega),
      hlayout.destination.iff_eq hf]
    constructor
    · rintro ⟨-, hd, hs⟩
      refine ⟨hd, fun source hsource => ?_⟩
      have hsf := RawSubscriptionConfig.sourceAddr_family_of_validate hvalid hsource
      have hlen := source.octets_length
      rw [hsf] at hlen
      rw [sourceTests, RawSubscriptionConfig.source_eq_of_sourceAddr hsource] at hs
      exact (hlayout.source.iff_eq (hlayout.sourceFamily.trans hsf.symm)).mp
        ((addressTests_holds hp datagram source (by rw [hlen]; omega)).mp hs)
    · rintro ⟨hd, hs⟩
      refine ⟨rfl, hd, ?_⟩
      rw [sourceTests]
      cases hsource : config.source with
      | any => simp
      | source source =>
        have hsf := RawSubscriptionConfig.source_family_of_validate hvalid hsource
        have hlen := source.octets_length
        rw [hsf] at hlen
        refine (addressTests_holds hp datagram source (by rw [hlen]; omega)).mpr ?_
        exact (hlayout.source.iff_eq (hlayout.sourceFamily.trans hsf.symm)).mpr
          (hs source (by rw [RawSubscriptionConfig.sourceAddr, hsource]))
  · refine ⟨fun htests => absurd (ipVersion_inj htests.1) hf, fun hmatches => absurd ?_ hf⟩
    rw [hmatches.1]
    rfl

/-- On an accepted datagram the program either reads inside the packet throughout
or fails at the version comparison. -/
theorem ipFilterTests_inRange {config : RawSubscriptionConfig} (hvalid : config.validate = .ok ())
    {linkPrefix datagram : List UInt8} {ipOffset : UInt32} {parsed : ParsedIpDatagram}
    (hp : linkPrefix.length = ipOffset.toNat) (hoffset : ipOffset.toNat + 40 ≤ 2 ^ 32)
    (h : parseIpDatagram datagram = some parsed) :
    (∀ t ∈ ipFilterTests config ipOffset, t.inRange (linkPrefix ++ datagram)) ∨
      ∃ t us, ipFilterTests config ipOffset = t :: us ∧ t.inRange (linkPrefix ++ datagram) ∧
        ¬ t.holds (linkPrefix ++ datagram) := by
  have hlayout := parseIpDatagram_layout h
  obtain ⟨hsourceEnd, hdestinationEnd, hheader⟩ := startOffsets config.family
  obtain ⟨hrange, hversion⟩ := versionTest_holds hp hlayout.version config.family
  by_cases hf : parsed.destinationIp.family = config.family
  · refine Or.inl ?_
    have hlen := Nat.le_trans hlayout.headerLen_le hlayout.datagramLen_le
    rw [hf] at hlen
    have hgroup : config.group.octets.length = _ := config.group.octets_length
    rw [show config.group.family = config.family from rfl] at hgroup
    rw [ipFilterTests, List.forall_mem_cons, List.forall_mem_append]
    refine ⟨hrange, addressTests_inRange hp datagram config.group (by rw [hgroup]; omega)
      (by rw [hgroup]; omega), ?_⟩
    rw [sourceTests]
    cases hsource : config.source with
    | any => simp
    | source source =>
      have hsf := RawSubscriptionConfig.source_family_of_validate hvalid hsource
      have hsl := source.octets_length
      rw [hsf] at hsl
      exact addressTests_inRange hp datagram source (by rw [hsl]; omega) (by rw [hsl]; omega)
  · exact Or.inr ⟨_, _, rfl, hrange, fun hh => hf (ipVersion_inj (hversion.mp hh))⟩

/-- The program always answers, and its answer is the verdict on its comparisons. -/
theorem run_bpfIpFilter (config : RawSubscriptionConfig) (ipOffset : UInt32)
    (packet : List UInt8) :
    run (bpfIpFilter config ipOffset) packet =
      some (verdict packet 0xffffffff (ipFilterTests config ipOffset)) := by
  have hlen := ipFilter_length config ipOffset
  rw [run, bpfIpFilter_eq_compile]
  exact exec_compile (ipFilterTests_wellFormed config ipOffset)
    (by rw [compile_length]; omega) 0

theorem accepts_bpfIpFilter (config : RawSubscriptionConfig) (ipOffset : UInt32)
    (packet : List UInt8) :
    accepts (bpfIpFilter config ipOffset) packet = true ↔
      ∀ t ∈ ipFilterTests config ipOffset, t.holds packet := by
  rw [accepts, run_bpfIpFilter, Option.any_some]
  exact verdict_accepts (by decide) _

/-- Every recorded jump reaches the reject instruction within a byte. -/
theorem ipFilter_rejects_fit (config : RawSubscriptionConfig) (ipOffset : UInt32) :
    ∀ index ∈ (ipFilterBuffer config ipOffset).rejects,
      index < (ipFilterBuffer config ipOffset).rejectIndex ∧
        (ipFilterBuffer config ipOffset).rejectIndex - index - 1 < 256 := by
  intro index hindex
  have hbuffer := ipFilterBuffer_holds config ipOffset
  have hlen := ipFilter_length config ipOffset
  rw [hbuffer.rejects] at hindex
  have hbounds := mem_rejectIndices hindex
  have hreject : (ipFilterBuffer config ipOffset).rejectIndex =
      (emit (ipFilterTests config ipOffset)).length + 1 := by
    rw [FilterBuffer.rejectIndex, FilterBuffer.push, hbuffer.instructions, List.length_append]
    rfl
  omega

/-- The userspace path of one subscription: parse, then match. -/
def userspaceDelivers (config : RawSubscriptionConfig) (datagram : List UInt8) : Bool :=
  (parseIpDatagram datagram).any (packetMatchesConfig · config)

/-- The kernel filter of a subscription agrees with its userspace filter behind
every link-layer prefix at which no load offset of the program wraps around.  The
callers use the prefix lengths 0, 4, and 14. -/
theorem bpfIpFilter_agrees {config : RawSubscriptionConfig} (hvalid : config.validate = .ok ())
    {linkPrefix : List UInt8} {ipOffset : UInt32}
    (hp : linkPrefix.length = ipOffset.toNat) (hoffset : ipOffset.toNat + 40 ≤ 2 ^ 32) :
    (∀ datagram parsed, parseIpDatagram datagram = some parsed →
      (∃ ret ∈ bpfIpFilter config ipOffset, ret.code = BPF_RET ||| BPF_K ∧
        run (bpfIpFilter config ipOffset) (linkPrefix ++ datagram) = some (.returned ret.k)) ∧
      (accepts (bpfIpFilter config ipOffset) (linkPrefix ++ datagram) = true ↔
        packetMatchesConfig parsed config = true)) ∧
    (∀ datagram, userspaceDelivers config datagram = true →
      accepts (bpfIpFilter config ipOffset) (linkPrefix ++ datagram) = true) ∧
    (∀ index ∈ (ipFilterBuffer config ipOffset).rejects,
      index < (ipFilterBuffer config ipOffset).rejectIndex ∧
        (ipFilterBuffer config ipOffset).rejectIndex - index - 1 < 256) := by
  have hmatches : ∀ datagram parsed, parseIpDatagram datagram = some parsed →
      (accepts (bpfIpFilter config ipOffset) (linkPrefix ++ datagram) = true ↔
        packetMatchesConfig parsed config = true) := by
    intro datagram parsed h
    rw [accepts_bpfIpFilter]
    exact ipFilterTests_hold hvalid hp hoffset h
  refine ⟨fun datagram parsed h => ⟨?_, hmatches datagram parsed h⟩, ?_,
    ipFilter_rejects_fit config ipOffset⟩
  · have hrun := run_bpfIpFilter config ipOffset (linkPrefix ++ datagram)
    obtain ⟨value, hvalue⟩ := verdict_returned 0xffffffff
      (ipFilterTests_inRange hvalid hp hoffset h)
    rw [hvalue] at hrun
    obtain ⟨ret, hret, hcode, rfl⟩ := exec_returned hrun
    exact ⟨ret, hret, hcode, hrun⟩
  · intro datagram hdelivers
    cases hparse : parseIpDatagram datagram with
    | none =>
      rw [userspaceDelivers, hparse] at hdelivers
      cases hdelivers
    | some parsed =>
      rw [userspaceDelivers, hparse] at hdelivers
      exact (hmatches datagram parsed hparse).mpr hdelivers

/-- The source-specific configuration of the test in `platform/raw.rs`, behind an
Ethernet header. -/
theorem bpfIpFilter_agrees_ssm :
    accepts (bpfIpFilter (.ssm (.v4 (.new 232 1 2 3)) (.v4 (.new 10 1 2 3))) 14)
      (List.replicate 14 0 ++
        [0x45, 0, 0, 20, 0, 0, 0, 0, 0, 17, 0, 0, 10, 1, 2, 3, 232, 1, 2, 3]) = true :=
  (bpfIpFilter_agrees (by decide) (by decide) (by decide)).2.1 _ (by decide)

/-! ## The family filter of a shared capture -/

theorem multicast_high_nibble (b : UInt8) :
    (224 : UInt8) ≤ b ∧ b ≤ (239 : UInt8) ↔ b.toNat &&& 0xf0 = 0xe0 := by
  revert b
  apply forall_byte
  decide +kernel

theorem accepts_familyFilter (family : SubscriptionAddressFamily) (packet : List UInt8) :
    accepts (bpfIpMulticastFamilyFilter family 0) packet = true ↔
      ∀ t ∈ familyTests family 0, t.holds packet := by
  have hrun : run (bpfIpMulticastFamilyFilter family 0) packet =
      some (verdict packet 0xffffffff (familyTests family 0)) := by
    rw [run, bpfIpMulticastFamilyFilter_eq_compile]
    refine exec_compile ?_ (by cases family <;> decide) 0
    rw [familyTests, List.forall_mem_cons, List.forall_mem_singleton]
    exact ⟨Or.inl rfl, by cases family <;> exact Or.inl rfl⟩
  rw [accepts, hrun, Option.any_some]
  exact verdict_accepts (by decide) _

/-- The multicast comparison reads the first destination byte. -/
theorem multicastTest_holds {datagram : List UInt8} {addr : IpAddr}
    (hbytes : BytesAt datagram (destinationStart addr.family) addr.octets)
    (hmulticast : addr.isMulticast = true) :
    (multicastTest 0 addr.family).holds datagram := by
  have hload : loadB datagram (destinationStart addr.family) =
      addr.octets[0]?.map UInt8.toNat := by
    have hpos : 0 < addr.octets.length := by
      rw [addr.octets_length]
      cases addr.family <;> simp
    have hfirst := hbytes.getElem? hpos
    rw [Nat.add_zero] at hfirst
    rw [loadB, hfirst]
  cases addr with
  | v4 addr =>
    have hnibble : addr.octets[0].toNat &&& 0xf0 = 0xe0 := by
      rw [← multicast_high_nibble]
      simpa [IpAddr.isMulticast, Ipv4Addr.isMulticast] using hmulticast
    have hbyte : loadB datagram 16 = some addr.octets[0].toNat := by
      simpa [IpAddr.octets, destinationStart, IpAddr.family] using hload
    exact ⟨addr.octets[0].toNat, congrArg some hbyte, hnibble⟩
  | v6 addr =>
    have hfirst : addr.octets[0] = 0xff := by
      simpa [IpAddr.isMulticast, Ipv6Addr.isMulticast] using hmulticast
    have hbyte : loadB datagram 24 = some addr.octets[0].toNat := by
      simpa [IpAddr.octets, destinationStart, IpAddr.family] using hload
    exact ⟨addr.octets[0].toNat, congrArg some hbyte, by rw [hfirst]; rfl⟩

/-- The family filter drops no datagram of its family with a multicast
destination. -/
theorem familyFilter_keeps {datagram : List UInt8} {parsed : ParsedIpDatagram}
    (h : parseIpDatagram datagram = some parsed)
    (hmulticast : parsed.destinationIp.isMulticast = true) :
    accepts (bpfIpMulticastFamilyFilter parsed.destinationIp.family 0) datagram = true := by
  have hlayout := parseIpDatagram_layout h
  have hversion := (@versionTest_holds [] datagram 0 rfl _ hlayout.version
    parsed.destinationIp.family).2.mpr rfl
  rw [accepts_familyFilter, familyTests, List.forall_mem_cons, List.forall_mem_singleton]
  exact ⟨hversion, multicastTest_holds hlayout.destination hmulticast⟩

end McrxCore
