import McrxCore.Context
import McrxCore.Raw.Context

/-!
# Both contexts are rosters

Every call of `Context` and of `RawContext` is a step of the roster of its subscriptions.
-/

namespace McrxCore

/-! ## Finding a subscription -/

section Find

variable {ι κ : Type} {member : ι → Member κ} {p : ι → Bool} {id : SubscriptionId}

/-- A removal drops the member it finds. -/
theorem findIdx?_swapRemove {l : List ι} {index : Nat}
    (hp : ∀ entry, p entry = true → (member entry).id = id) (h : l.findIdx? p = some index) :
    ∃ removed rest, Vec.swapRemove l index = some (removed, rest) ∧ (member removed).id = id ∧
      (l.map member).Perm (member removed :: rest.map member) := by
  obtain ⟨hlt, hfound, -⟩ := List.findIdx?_eq_some_iff_getElem.mp h
  obtain ⟨removed, rest, hremove, hget, hperm⟩ := Vec.swapRemove_perm hlt
  obtain ⟨_, rfl⟩ := List.getElem?_eq_some_iff.mp hget
  exact ⟨_, rest, hremove, hp _ hfound, hperm.map member⟩

theorem findIdx?_absent {l : List ι} (hp : ∀ entry, (member entry).id = id → p entry = true)
    (h : l.findIdx? p = none) : ∀ m ∈ l.map member, m.id ≠ id := by
  rintro m hm hid
  obtain ⟨entry, hentry, rfl⟩ := List.mem_map.mp hm
  have hfalse := List.findIdx?_eq_none_iff.mp h entry hentry
  exact Bool.false_ne_true (hfalse.symm.trans (hp entry hid))

/-- An update changes the member it finds. -/
theorem find?_map_replaceFirst {l : List ι} {entry : ι}
    (hp : ∀ entry, p entry = true → (member entry).id = id) (h : l.find? p = some entry) :
    ∃ before rest, l.map member = before ++ member entry :: rest ∧ (member entry).id = id ∧
      ∀ updated,
        (Vec.replaceFirst p updated l).map member = before ++ member updated :: rest := by
  obtain ⟨before, rest, rfl, hentry, hreplace⟩ := Vec.find?_replaceFirst h
  refine ⟨before.map member, rest.map member, ?_, hp entry hentry, fun updated => ?_⟩
  · rw [List.map_append, List.map_cons]
  · rw [hreplace, List.map_append, List.map_cons]

theorem scanResult_ne_panic {T : Type}
    {outcome : Option (Except McrxError (Option (Nat × T)))} (h : outcome ≠ none) :
    scanResult outcome ≠ .panic := by
  match outcome with
  | some (.ok _) => exact nofun
  | some (.error _) => exact nofun

end Find

/-! ## The context -/

def Subscription.member (subscription : Subscription) : Member SubscriptionConfig :=
  { id := subscription.id, config := subscription.config, state := subscription.state }

namespace Context

def roster (c : Context) : Roster SubscriptionConfig :=
  { members := c.subscriptions.map Subscription.member
    nextSubscriptionId := c.nextSubscriptionId
    nextRecvIndex := c.nextRecvIndex }

def Valid (config : SubscriptionConfig) : Prop := config.validate = .ok ()

def Operation.request : Operation → RosterRequest SubscriptionConfig
  | .addSubscription config => .add config
  | .addSubscriptionWithSocket config _ => .add config
  | .removeSubscription id => .remove id
  | .takeSubscription id => .remove id
  | .joinSubscription id => .join id
  | .leaveSubscription id => .leave id
  | .tryRecvAny => .receive
  | .tryRecvAnyWithMetadata => .receive
  | .tryRecvBatchInto _ => .receive
  | .tryRecvBatchWithMetadataInto _ => .receive
  | .tryRecvAllInto => .receive
  | .tryRecvAllWithMetadataInto => .receive

def Answer.reply : Answer → RosterReply
  | .added id => .added id
  | .removed existed => .removed existed
  | .taken subscription => .removed subscription.isSome
  | .joined => .joined
  | .left => .left
  | .packet _ => .received
  | .packetWithMetadata _ => .received
  | .received _ => .received

variable {W : Type} (os : UdpSystem W)

theorem ensureSubscriptionConfigIsUnique_ok {config : SubscriptionConfig} {c : Context}
    (h : ensureSubscriptionConfigIsUnique config c = .ok ()) :
    ∀ member ∈ c.roster.members, member.config ≠ config := by
  unfold ensureSubscriptionConfigIsUnique at h
  split at h
  · exact nomatch h
  · next hany =>
    rintro member hmember rfl
    obtain ⟨subscription, hmem, rfl⟩ := List.mem_map.mp hmember
    exact hany (List.any_eq_true.mpr ⟨subscription, hmem, beq_self_eq_true _⟩)

/-- A call that took `s` to `s'` is a step of the roster. -/
def Refines (s : System W) (request : RosterRequest SubscriptionConfig)
    (reply : Outcome RosterReply) (s' : System W) : Prop :=
  ∃ sweeps, s'.sweeps = s.sweeps ++ sweeps ∧
    Roster.Step Valid s.context.roster request reply sweeps s'.context.roster

variable {os}

theorem Refines.quiet {s s' : System W} {request : RosterRequest SubscriptionConfig}
    {reply : Outcome RosterReply} (hsweeps : s'.sweeps = s.sweeps)
    (h : Roster.Step Valid s.context.roster request reply [] s'.context.roster) :
    Refines s request reply s' :=
  ⟨[], hsweeps.trans (List.append_nil _).symm, h⟩

theorem roster_insertSubscription (config : SubscriptionConfig) (socket : ReceiveSocket)
    (c : Context) :
    (insertSubscription config socket c).2.roster =
      { c.roster with
        members := c.roster.members ++ [⟨⟨c.nextSubscriptionId⟩, config, .bound⟩]
        nextSubscriptionId := (c.nextSubscriptionId + 1) % 2 ^ 64 } := by
  simp only [roster, insertSubscription, List.map_append, List.map_cons, List.map_nil]
  rfl

theorem addWith_refines {config : SubscriptionConfig}
    {openSocket : W → Except McrxError ReceiveSocket × W} {s s' : System W}
    {outcome : Outcome SubscriptionId} (h : addWith config openSocket s = (outcome, s')) :
    Refines s (.add config) (outcome.map .added) s' := by
  unfold addWith at h
  split at h
  · cases h
    exact .quiet rfl .addFailed
  · next hvalid =>
    split at h
    · cases h
      exact .quiet rfl .addFailed
    · next hunique =>
      split at h
      · cases h
        exact .quiet rfl .addFailed
      · cases h
        refine .quiet rfl ?_
        show Roster.Step Valid _ _ _ _ (insertSubscription config _ s.context).2.roster
        rw [roster_insertSubscription]
        exact .added hvalid (ensureSubscriptionConfigIsUnique_ok hunique)

theorem takeSubscription_step {id : SubscriptionId} {c c' : Context}
    {outcome : Outcome (Option Subscription)} (h : takeSubscription id c = (outcome, c')) :
    Roster.Step Valid c.roster (.remove id) (outcome.map fun taken => .removed taken.isSome) []
      c'.roster := by
  have hp : ∀ subscription : Subscription, (subscription.id == id) = true ↔
      subscription.member.id = id := fun subscription => beq_iff_eq
  unfold takeSubscription at h
  split at h
  · next hnone =>
    cases h
    exact .absent (findIdx?_absent (fun entry => (hp entry).mpr) hnone)
  · next index hindex =>
    obtain ⟨removed, rest, hremove, hid, hperm⟩ :=
      findIdx?_swapRemove (fun entry => (hp entry).mp) hindex
    simp only [finishSubscriptionRemoval, hremove] at h
    cases h
    subst hid
    have hstep := @Roster.Step.removed _ Valid c.roster _ _ hperm
    rw [List.isEmpty_map, List.length_map] at hstep
    exact hstep

theorem removeSubscription_step {id : SubscriptionId} {c c' : Context} {outcome : Outcome Bool}
    (h : removeSubscription id c = (outcome, c')) :
    Roster.Step Valid c.roster (.remove id) (outcome.map .removed) [] c'.roster := by
  cases htake : takeSubscription id c with
  | mk taken c₁ =>
    have hstep := takeSubscription_step htake
    rw [removeSubscription, htake] at h
    cases h
    cases taken <;> exact hstep

/-- The subscription that a join or a leave changes keeps its place. -/
theorem roster_replaceFirst {id : SubscriptionId} {c : Context} {subscription : Subscription}
    (hfind : c.subscriptions.find? (fun other => other.id == id) = some subscription) :
    ∃ before rest, c.roster.members = before ++ subscription.member :: rest ∧
      subscription.member.id = id ∧
      ∀ updated metrics,
        roster
          { c with
            subscriptions := Vec.replaceFirst (fun other => other.id == id) updated c.subscriptions
            metrics := metrics } =
          { c.roster with members := before ++ updated.member :: rest } := by
  have hp : ∀ subscription : Subscription, (subscription.id == id) = true →
      subscription.member.id = id := fun _ => beq_iff_eq.mp
  obtain ⟨before, rest, hsplit, hid, hreplace⟩ := find?_map_replaceFirst hp hfind
  refine ⟨before, rest, hsplit, hid, fun updated metrics => ?_⟩
  simp only [roster, hreplace]

theorem joinSubscription_refines {id : SubscriptionId} {s s' : System W} {outcome : Outcome Unit}
    (h : joinSubscription os id s = (outcome, s')) :
    Refines s (.join id) (outcome.map fun _ => .joined) s' := by
  simp only [joinSubscription] at h
  split at h
  · cases h
    exact .quiet rfl .joinFailed
  · next subscription hfind =>
    split at h
    · cases h
      exact .quiet rfl .joinFailed
    · next hjoined =>
      rw [Subscription.markJoined_eq hjoined] at h
      split at h
      · cases h
        exact .quiet rfl .joinFailed
      · cases h
        obtain ⟨before, rest, hsplit, rfl, hroster⟩ := roster_replaceFirst hfind
        refine .quiet rfl ?_
        simp only [hroster]
        exact .joined hsplit

theorem leaveSubscription_refines {id : SubscriptionId} {s s' : System W} {outcome : Outcome Unit}
    (h : leaveSubscription os id s = (outcome, s')) :
    Refines s (.leave id) (outcome.map fun _ => .left) s' := by
  simp only [leaveSubscription] at h
  split at h
  · cases h
    exact .quiet rfl .leaveFailed
  · next subscription hfind =>
    split at h
    · cases h
      exact .quiet rfl .leaveFailed
    · next hjoined =>
      rw [Bool.not_eq_true, Bool.not_eq_false'] at hjoined
      rw [Subscription.markBound_eq hjoined] at h
      split at h
      · cases h
        exact .quiet rfl .leaveFailed
      · cases h
        obtain ⟨before, rest, hsplit, rfl, hroster⟩ := roster_replaceFirst hfind
        refine .quiet rfl ?_
        simp only [hroster]
        exact .left hsplit

/-! ### Receiving -/

/-- A receive call moved the cursor from `s` to `s'`. -/
def Receives (s s' : System W) : Prop :=
  ∃ sweeps, s'.sweeps = s.sweeps ++ sweeps ∧
    Roster.Receives s.context.roster sweeps s'.context.roster

theorem Receives.refl (s : System W) : Receives s s := ⟨[], (List.append_nil _).symm, .refl _⟩

theorem Receives.trans {s s₁ s₂ : System W} (h : Receives s s₁) (hsecond : Receives s₁ s₂) :
    Receives s s₂ := by
  obtain ⟨first, hfirst, hreceives⟩ := h
  obtain ⟨second, hsweeps, hreceives'⟩ := hsecond
  refine ⟨first ++ second, ?_, hreceives.trans hreceives'⟩
  rw [hsweeps, hfirst, List.append_assoc]

theorem receives_withMetrics (s : System W) (metrics : ContextMetricsInner) :
    Receives s (withMetrics s metrics) :=
  ⟨[], (List.append_nil _).symm, .refl _⟩

theorem Receives.members {s s' : System W} (h : Receives s s') :
    s'.context.roster.members = s.context.roster.members := by
  obtain ⟨_, -, hreceives⟩ := h
  rw [hreceives.kept]

theorem Receives.inRange {s s' : System W} (h : Receives s s')
    (hrange : s.context.roster.InRange) : s'.context.roster.InRange := by
  obtain ⟨_, -, hreceives⟩ := h
  exact hreceives.inRange hrange

theorem Receives.refines {s s' : System W} (h : Receives s s') {α : Type} {outcome : Outcome α}
    (hpanic : outcome ≠ .panic) : Refines s .receive (outcome.map fun _ => .received) s' := by
  obtain ⟨sweeps, hsweeps, hreceives⟩ := h
  exact ⟨sweeps, hsweeps, hreceives.step hpanic⟩

def KeepsMember {T : Type}
    (recv : Subscription → W → Except McrxError (Option T) × Subscription × W) : Prop :=
  ∀ subscription w, (recv subscription w).2.1.member = subscription.member

theorem keepsMember_receiveWith {T : Type}
    (recv : ReceiveSocket → SubscriptionId → SubscriptionConfig → W →
      Except McrxError (Option T) × W) (packetOf : T → Packet) :
    KeepsMember (Subscription.receiveWith recv packetOf) := by
  intro subscription w
  unfold Subscription.receiveWith
  split
  · rfl
  · split <;> rfl

theorem recvAndRecord_member {T : Type}
    {recv : Subscription → W → Except McrxError (Option T) × Subscription × W}
    (hrecv : KeepsMember recv) (packetLen : T → Nat) (subscription : Subscription)
    (state : ContextMetricsInner × W) :
    (recvAndRecord recv packetLen subscription state).2.1.member = subscription.member := by
  have hkept := hrecv subscription state.2
  simp only [recvAndRecord]
  split <;> next heq => rwa [heq] at hkept

theorem tryRecvFromJoined_receives {T : Type}
    {recv : Subscription → W → Except McrxError (Option T) × Subscription × W}
    (hrecv : KeepsMember recv) {packetLen : T → Nat} {s s' : System W}
    {outcome : Outcome (Option T)} (hrange : s.context.roster.InRange)
    (h : tryRecvFromJoined recv packetLen s = (outcome, s')) :
    outcome ≠ .panic ∧ Receives s s' := by
  have hcursor : s.context.nextRecvIndex < s.context.subscriptions.length ∨
      s.context.subscriptions = [] := by
    rcases hrange with hlt | ⟨hnil, -⟩
    · exact .inl (hlt.trans_eq (List.length_map _))
    · exact .inr (List.map_eq_nil_iff.mp hnil)
  obtain ⟨hmembers, houtcome, hsweeps⟩ := @scan_sweeps _ _ _ _ Subscription.isJoined
    (recvAndRecord recv packetLen) Subscription.member (fun _ => rfl)
    (recvAndRecord_member hrecv packetLen) _ _ hcursor (s.context.metrics, s.world)
  cases h
  refine ⟨scanResult_ne_panic houtcome, _, rfl, ?_, hsweeps⟩
  simp only [roster, hmembers]

theorem batchLoop_receives {T : Type} {recvAny : System W → Outcome (Option T) × System W}
    (hrecv : ∀ s s' outcome, s.context.roster.InRange → recvAny s = (outcome, s') →
      outcome ≠ .panic ∧ Receives s s')
    {maxPackets received : Nat} {out out' : List T} {s s' : System W} {outcome : Outcome Nat}
    (hrange : s.context.roster.InRange)
    (h : batchLoop recvAny maxPackets received out s = (outcome, out', s')) :
    outcome ≠ .panic ∧ Receives s s' := by
  induction maxPackets generalizing received out s with
  | zero =>
    cases h
    exact ⟨nofun, .refl _⟩
  | succ maxPackets ih =>
    rw [batchLoop] at h
    cases hone : recvAny s with
    | mk first s₁ =>
      obtain ⟨hpanic, hreceives⟩ := hrecv s s₁ first hrange hone
      rw [hone] at h
      match first with
      | .ok (some packet) =>
        obtain ⟨hnot, hrest⟩ := ih (hreceives.inRange hrange) h
        exact ⟨hnot, hreceives.trans hrest⟩
      | .ok none =>
        cases h
        exact ⟨nofun, hreceives⟩
      | .err e =>
        cases h
        exact ⟨nofun, hreceives⟩
      | .panic => exact absurd rfl hpanic

theorem batchInto_receives {T : Type} {recvAny : System W → Outcome (Option T) × System W}
    (hrecv : ∀ s s' outcome, s.context.roster.InRange → recvAny s = (outcome, s') →
      outcome ≠ .panic ∧ Receives s s')
    {maxPackets : Nat} {out out' : List T} {s s' : System W} {outcome : Outcome Nat}
    (hrange : s.context.roster.InRange)
    (h : batchInto recvAny maxPackets out s = (outcome, out', s')) :
    outcome ≠ .panic ∧ Receives s s' := by
  have hcount := receives_withMetrics s s.context.metrics.recordBatchCall
  rw [batchInto, batchIntoImpl] at h
  cases hloop : batchLoop recvAny maxPackets 0 out
      (withMetrics s s.context.metrics.recordBatchCall) with
  | mk result rest =>
    obtain ⟨out₁, s₁⟩ := rest
    obtain ⟨hpanic, hreceives⟩ := batchLoop_receives hrecv (hcount.inRange hrange) hloop
    rw [hloop] at h
    match result with
    | .ok received =>
      cases h
      exact ⟨nofun, (hcount.trans hreceives).trans (receives_withMetrics _ _)⟩
    | .err e =>
      cases h
      exact ⟨nofun, hcount.trans hreceives⟩
    | .panic => exact absurd rfl hpanic

theorem tryRecvAny_receives {s s' : System W} {outcome : Outcome (Option Packet)}
    (hrange : s.context.roster.InRange) (h : tryRecvAny os s = (outcome, s')) :
    outcome ≠ .panic ∧ Receives s s' :=
  tryRecvFromJoined_receives (keepsMember_receiveWith _ _) hrange h

theorem tryRecvAnyWithMetadata_receives {s s' : System W}
    {outcome : Outcome (Option PacketWithMetadata)} (hrange : s.context.roster.InRange)
    (h : tryRecvAnyWithMetadata os s = (outcome, s')) : outcome ≠ .panic ∧ Receives s s' :=
  tryRecvFromJoined_receives (keepsMember_receiveWith _ _) hrange h

/-! ### Every call -/

theorem Refines.step {s s' : System W} {request : RosterRequest SubscriptionConfig}
    {reply : Outcome RosterReply} (h : Refines { s with sweeps := [] } request reply s') :
    Roster.Step Valid s.context.roster request reply s'.sweeps s'.context.roster := by
  obtain ⟨sweeps, hsweeps, hstep⟩ := h
  rw [hsweeps]
  exact hstep

variable (os) in
/-- Every call is a step of the roster. -/
theorem step_roster (operation : Operation) {s : System W} (hrange : s.context.roster.InRange) :
    Roster.Step Valid s.context.roster operation.request
      ((step os operation s).1.outcome.map Answer.reply) (step os operation s).2.sweeps
      (step os operation s).2.context.roster := by
  have hreceive : ∀ {α : Type} {outcome : Outcome α} {s' : System W},
      outcome ≠ .panic ∧ Receives { s with sweeps := [] } s' →
      Roster.Step Valid s.context.roster .receive (outcome.map fun _ => .received) s'.sweeps
        s'.context.roster :=
    fun h => (h.2.refines h.1).step
  cases operation with
  | addSubscription config | addSubscriptionWithSocket config socket =>
    simp only [step, Response.of, Outcome.map_map]
    exact (addWith_refines rfl).step
  | removeSubscription id =>
    simp only [step, Response.of, Outcome.map_map]
    exact removeSubscription_step rfl
  | takeSubscription id =>
    simp only [step, Response.of, Outcome.map_map]
    exact takeSubscription_step rfl
  | joinSubscription id =>
    simp only [step, Response.of, Outcome.map_map]
    exact (joinSubscription_refines rfl).step
  | leaveSubscription id =>
    simp only [step, Response.of, Outcome.map_map]
    exact (leaveSubscription_refines rfl).step
  | tryRecvAny =>
    simp only [step, Response.of, Outcome.map_map]
    exact hreceive (tryRecvAny_receives (s := { s with sweeps := [] }) hrange rfl)
  | tryRecvAnyWithMetadata =>
    simp only [step, Response.of, Outcome.map_map]
    exact hreceive (tryRecvAnyWithMetadata_receives hrange rfl)
  | tryRecvBatchInto maxPackets =>
    simp only [step, Response.of, Outcome.map_map]
    exact hreceive (batchInto_receives (fun _ _ _ => tryRecvAny_receives) hrange rfl)
  | tryRecvBatchWithMetadataInto maxPackets =>
    simp only [step, Response.of, Outcome.map_map]
    exact hreceive (batchInto_receives (fun _ _ _ => tryRecvAnyWithMetadata_receives) hrange rfl)
  | tryRecvAllInto =>
    simp only [step, Response.of, Outcome.map_map]
    exact hreceive (batchInto_receives (fun _ _ _ => tryRecvAny_receives) hrange rfl)
  | tryRecvAllWithMetadataInto =>
    simp only [step, Response.of, Outcome.map_map]
    exact hreceive (batchInto_receives (fun _ _ _ => tryRecvAnyWithMetadata_receives) hrange rfl)

def Call.roster (call : Call W) : RosterCall SubscriptionConfig :=
  .of (fun s => s.context.roster) Operation.request
    (fun response => response.outcome.map Answer.reply) System.sweeps call

theorem runs_calls (operations : List Operation) {s : System W}
    (hrange : s.context.roster.InRange) :
    Roster.Runs Valid s.context.roster ((Journal.calls (step os) operations s).map Call.roster)
        (Journal.final (step os) operations s).context.roster ∧
      (Journal.final (step os) operations s).context.roster.InRange :=
  Roster.runs_calls (fun s : System W => s.context.roster) Operation.request
    (fun response : Response => response.outcome.map Answer.reply) System.sweeps
    (fun operation _ => step_roster os operation) operations hrange

end Context

/-! ## The raw context -/

def RawSubscription.member {S : Type} (subscription : RawSubscription S) :
    Member RawSubscriptionConfig :=
  { id := subscription.id, config := subscription.config, state := subscription.state }

namespace RawContext

variable {S W : Type}

def roster (c : RawContext S) : Roster RawSubscriptionConfig :=
  { members := c.subscriptions.map RawSubscription.member
    nextSubscriptionId := c.nextSubscriptionId
    nextRecvIndex := c.nextRecvIndex }

def Valid (config : RawSubscriptionConfig) : Prop := config.validate = .ok ()

def Operation.request : Operation → RosterRequest RawSubscriptionConfig
  | .addSubscription config => .add config
  | .removeSubscription id => .remove id
  | .joinSubscription id => .join id
  | .leaveSubscription id => .leave id
  | .tryRecvAny => .receive

def Answer.reply : Answer → RosterReply
  | .added id => .added id
  | .removed existed => .removed existed
  | .joined => .joined
  | .left => .left
  | .packet _ => .received

variable {backend : RawBackend S W}

theorem ensureSubscriptionConfigIsUnique_ok {config : RawSubscriptionConfig} {c : RawContext S}
    (h : ensureSubscriptionConfigIsUnique config c = .ok ()) :
    ∀ member ∈ c.roster.members, member.config ≠ config := by
  unfold ensureSubscriptionConfigIsUnique at h
  split at h
  · exact nomatch h
  · next hany =>
    rintro member hmember rfl
    obtain ⟨subscription, hmem, rfl⟩ := List.mem_map.mp hmember
    exact hany (List.any_eq_true.mpr ⟨subscription, hmem, beq_self_eq_true _⟩)

def Refines (s : System S W) (request : RosterRequest RawSubscriptionConfig)
    (reply : Outcome RosterReply) (s' : System S W) : Prop :=
  s'.sweeps = s.sweeps ∧ Roster.Step Valid s.context.roster request reply [] s'.context.roster

theorem addSubscription_refines {config : RawSubscriptionConfig} {s s' : System S W}
    {outcome : Outcome SubscriptionId} (h : addSubscription backend config s = (outcome, s')) :
    Refines s (.add config) (outcome.map .added) s' := by
  unfold addSubscription at h
  split at h
  · cases h
    exact ⟨rfl, .addFailed⟩
  · next hvalid =>
    split at h
    · cases h
      exact ⟨rfl, .addFailed⟩
    · next hunique =>
      split at h
      · cases h
        exact ⟨rfl, .addFailed⟩
      · cases h
        have hstep := @Roster.Step.added _ Valid _ _ hvalid
          (ensureSubscriptionConfigIsUnique_ok hunique)
        refine ⟨rfl, ?_⟩
        simp only [roster, List.map_append, List.map_cons, List.map_nil]
        exact hstep

theorem removeSubscription_step {id : SubscriptionId} {c c' : RawContext S}
    {outcome : Outcome Bool} (h : removeSubscription id c = (outcome, c')) :
    Roster.Step Valid c.roster (.remove id) (outcome.map .removed) [] c'.roster := by
  have hp : ∀ subscription : RawSubscription S, (subscription.id == id) = true ↔
      subscription.member.id = id := fun subscription => beq_iff_eq
  unfold removeSubscription at h
  split at h
  · next hnone =>
    cases h
    exact .absent (findIdx?_absent (fun entry => (hp entry).mpr) hnone)
  · next index hindex =>
    obtain ⟨removed, rest, hremove, hid, hperm⟩ :=
      findIdx?_swapRemove (fun entry => (hp entry).mp) hindex
    simp only [hremove] at h
    cases h
    subst hid
    have hstep := @Roster.Step.removed _ Valid c.roster _ _ hperm
    rw [List.isEmpty_map, List.length_map] at hstep
    exact hstep

/-- A join or a leave sets the state of the subscription when it succeeds, and keeps the
subscription when it fails. -/
theorem onSubscription_cases {id : SubscriptionId}
    {act : RawSubscription S → W → Except McrxError Unit × RawSubscription S × W}
    {state : SubscriptionState} {s s' : System S W} {outcome : Outcome Unit}
    (hact : ∀ subscription w,
      (act subscription w).2.1 = { subscription with state := state } ∧
        (act subscription w).1 = .ok () ∨
      (act subscription w).2.1 = subscription ∧ ∃ e, (act subscription w).1 = .error e)
    (h : onSubscription id act s = (outcome, s')) :
    s'.sweeps = s.sweeps ∧
      ((∃ e, outcome = .err e) ∧ s'.context.roster = s.context.roster ∨
      outcome = .ok () ∧ ∃ before rest member,
        s.context.roster.members = before ++ member :: rest ∧ member.id = id ∧
        s'.context.roster =
          { s.context.roster with
            members := before ++ { member with state := state } :: rest }) := by
  have hp : ∀ subscription : RawSubscription S, (subscription.id == id) = true →
      subscription.member.id = id := fun _ => beq_iff_eq.mp
  simp only [onSubscription] at h
  split at h
  · cases h
    exact ⟨rfl, .inl ⟨⟨_, rfl⟩, rfl⟩⟩
  · next subscription hfind =>
    obtain ⟨before, rest, hsplit, hid, hreplace⟩ := find?_map_replaceFirst hp hfind
    rcases hact subscription s.world with ⟨hstate, hok⟩ | ⟨hkept, e, herror⟩
    · simp only [hok, hstate] at h
      cases h
      refine ⟨rfl, .inr ⟨rfl, before, rest, _, hsplit, hid, ?_⟩⟩
      simp only [roster, hreplace]
      rfl
    · simp only [herror, hkept] at h
      cases h
      refine ⟨rfl, .inl ⟨⟨e, rfl⟩, ?_⟩⟩
      simp only [roster, hreplace, hsplit]

theorem joinSubscription_refines {id : SubscriptionId} {s s' : System S W} {outcome : Outcome Unit}
    (h : joinSubscription backend id s = (outcome, s')) :
    Refines s (.join id) (outcome.map fun _ => .joined) s' := by
  have hact : ∀ (subscription : RawSubscription S) (w : W),
      (subscription.join backend w).2.1 = { subscription with state := .joined } ∧
        (subscription.join backend w).1 = .ok () ∨
      (subscription.join backend w).2.1 = subscription ∧
        ∃ e, (subscription.join backend w).1 = .error e := by
    intro subscription w
    unfold RawSubscription.join
    split
    · exact .inr ⟨rfl, _, rfl⟩
    · split
      · exact .inr ⟨rfl, _, rfl⟩
      · exact .inl ⟨rfl, rfl⟩
  obtain ⟨hsweeps, ⟨⟨e, rfl⟩, hkept⟩ | ⟨rfl, before, rest, member, hsplit, rfl, hroster⟩⟩ :=
    onSubscription_cases hact h
  · refine ⟨hsweeps, ?_⟩
    rw [hkept]
    exact .joinFailed
  · refine ⟨hsweeps, ?_⟩
    rw [hroster]
    exact .joined hsplit

theorem leaveSubscription_refines {id : SubscriptionId} {s s' : System S W}
    {outcome : Outcome Unit} (h : leaveSubscription backend id s = (outcome, s')) :
    Refines s (.leave id) (outcome.map fun _ => .left) s' := by
  have hact : ∀ (subscription : RawSubscription S) (w : W),
      (subscription.leave backend w).2.1 = { subscription with state := .bound } ∧
        (subscription.leave backend w).1 = .ok () ∨
      (subscription.leave backend w).2.1 = subscription ∧
        ∃ e, (subscription.leave backend w).1 = .error e := by
    intro subscription w
    unfold RawSubscription.leave
    split
    · exact .inr ⟨rfl, _, rfl⟩
    · split
      · exact .inr ⟨rfl, _, rfl⟩
      · exact .inl ⟨rfl, rfl⟩
  obtain ⟨hsweeps, ⟨⟨e, rfl⟩, hkept⟩ | ⟨rfl, before, rest, member, hsplit, rfl, hroster⟩⟩ :=
    onSubscription_cases hact h
  · refine ⟨hsweeps, ?_⟩
    rw [hkept]
    exact .leaveFailed
  · refine ⟨hsweeps, ?_⟩
    rw [hroster]
    exact .left hsplit

theorem tryRecvAny_receives {s s' : System S W} {outcome : Outcome (Option RawPacket)}
    (hrange : s.context.roster.InRange) (h : tryRecvAny backend s = (outcome, s')) :
    outcome ≠ .panic ∧ ∃ sweeps, s'.sweeps = s.sweeps ++ sweeps ∧
      Roster.Receives s.context.roster sweeps s'.context.roster := by
  have hcursor : s.context.nextRecvIndex < s.context.subscriptions.length ∨
      s.context.subscriptions = [] := by
    rcases hrange with hlt | ⟨hnil, -⟩
    · exact .inl (hlt.trans_eq (List.length_map _))
    · exact .inr (List.map_eq_nil_iff.mp hnil)
  obtain ⟨hmembers, houtcome, hsweeps⟩ := @scan_sweeps _ _ _ _ RawSubscription.isJoined
    (recv backend) RawSubscription.member (fun _ => rfl) (fun _ _ => rfl) _ _ hcursor s.world
  cases h
  refine ⟨scanResult_ne_panic houtcome, _, rfl, ?_, hsweeps⟩
  simp only [roster, hmembers]

variable (backend) in
/-- Every call is a step of the roster. -/
theorem step_roster (operation : Operation) {s : System S W}
    (hrange : s.context.roster.InRange) :
    Roster.Step Valid s.context.roster operation.request
      ((step backend operation s).1.map Answer.reply) (step backend operation s).2.sweeps
      (step backend operation s).2.context.roster := by
  have hquiet : ∀ {request : RosterRequest RawSubscriptionConfig} {reply : Outcome RosterReply}
      {s' : System S W}, Refines { s with sweeps := [] } request reply s' →
      Roster.Step Valid s.context.roster request reply s'.sweeps s'.context.roster := by
    rintro request reply s' ⟨hsweeps, hstep⟩
    rw [hsweeps]
    exact hstep
  have hreceive : ∀ {outcome : Outcome (Option RawPacket)} {s' : System S W},
      (outcome ≠ .panic ∧ ∃ sweeps, s'.sweeps = [] ++ sweeps ∧
        Roster.Receives s.context.roster sweeps s'.context.roster) →
      Roster.Step Valid s.context.roster .receive (outcome.map fun _ => .received) s'.sweeps
        s'.context.roster := by
    rintro outcome s' ⟨hpanic, sweeps, hsweeps, hreceives⟩
    rw [hsweeps]
    exact hreceives.step hpanic
  cases operation with
  | addSubscription config =>
    simp only [step, Outcome.map_map]
    exact hquiet (addSubscription_refines rfl)
  | removeSubscription id =>
    simp only [step, Outcome.map_map]
    exact removeSubscription_step rfl
  | joinSubscription id =>
    simp only [step, Outcome.map_map]
    exact hquiet (joinSubscription_refines rfl)
  | leaveSubscription id =>
    simp only [step, Outcome.map_map]
    exact hquiet (leaveSubscription_refines rfl)
  | tryRecvAny =>
    simp only [step, Outcome.map_map]
    exact hreceive (tryRecvAny_receives (s := { s with sweeps := [] }) hrange rfl)

def Call.roster (call : Call S W) : RosterCall RawSubscriptionConfig :=
  .of (fun s => s.context.roster) Operation.request (fun outcome => outcome.map Answer.reply)
    System.sweeps call

theorem runs_calls (operations : List Operation) {s : System S W}
    (hrange : s.context.roster.InRange) :
    Roster.Runs Valid s.context.roster ((Journal.calls (step backend) operations s).map Call.roster)
        (Journal.final (step backend) operations s).context.roster ∧
      (Journal.final (step backend) operations s).context.roster.InRange :=
  Roster.runs_calls (fun s : System S W => s.context.roster) Operation.request
    (fun outcome : Outcome Answer => outcome.map Answer.reply) System.sweeps
    (fun operation _ => step_roster backend operation) operations hrange

end RawContext

end McrxCore
