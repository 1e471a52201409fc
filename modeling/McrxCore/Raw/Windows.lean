import McrxCore.Lib.Transition
import McrxCore.Platform.Raw
import McrxCore.Raw.Subscription

/-!
# Raw membership on Windows

A Windows receive socket is three sockets that are members of the group together.  A
join that fails at one of them takes the earlier ones back; a leave does not, so a leave
that fails at a capture socket has given up the membership of the first socket.
-/

namespace McrxCore

namespace Windows

/-- `RawReceiveSocket` of the Windows build. -/
structure RawReceiveSocket where
  receiveSocket : Fd
  membershipSocket : Option Fd
  windowsUdpReceiveSocket : Fd
  deriving DecidableEq, Repr

/-- The two membership functions of `platform/mod.rs`. -/
structure MulticastCalls (W : Type) where
  joinMulticastGroup : Fd → SubscriptionConfig → W → Except McrxError Unit × W
  leaveMulticastGroup : Fd → SubscriptionConfig → W → Except McrxError Unit × W

section Membership

variable {W : Type} (calls : MulticastCalls W)

def joinWindowsRawReceiveSockets (socket : RawReceiveSocket) (config : SubscriptionConfig)
    (w : W) : Except McrxError Unit × W :=
  if config.group.family ≠ .ipv4 then (.ok (), w)
  else
    match calls.joinMulticastGroup socket.receiveSocket config w with
    | (.error e, w) => (.error e, w)
    | (.ok (), w) =>
      match calls.joinMulticastGroup socket.windowsUdpReceiveSocket config w with
      | (.error e, w) => (.error e, (calls.leaveMulticastGroup socket.receiveSocket config w).2)
      | (.ok (), w) => (.ok (), w)

/-- Both sockets leave, whatever the first answers. -/
def leaveWindowsRawReceiveSockets (socket : RawReceiveSocket) (config : SubscriptionConfig)
    (w : W) : Except McrxError Unit × W :=
  if config.group.family ≠ .ipv4 then (.ok (), w)
  else
    let (primary, w) := calls.leaveMulticastGroup socket.receiveSocket config w
    let (udp, w) := calls.leaveMulticastGroup socket.windowsUdpReceiveSocket config w
    match primary, udp with
    | .error e, _ => (.error e, w)
    | .ok (), .error e => (.error e, w)
    | .ok (), .ok () => (.ok (), w)

def joinRawMulticastGroup (socket : RawReceiveSocket) (config : RawSubscriptionConfig) (w : W) :
    Except McrxError Unit × W :=
  match socket.membershipSocket with
  | none => (.error noMembershipSocket, w)
  | some membershipSocket =>
    let compatConfig := config.membershipCompatConfig
    match calls.joinMulticastGroup membershipSocket compatConfig w with
    | (.error e, w) => (.error e, w)
    | (.ok (), w) =>
      match joinWindowsRawReceiveSockets calls socket compatConfig w with
      | (.error e, w) => (.error e, (calls.leaveMulticastGroup membershipSocket compatConfig w).2)
      | (.ok (), w) => (.ok (), w)

def leaveRawMulticastGroup (socket : RawReceiveSocket) (config : RawSubscriptionConfig) (w : W) :
    Except McrxError Unit × W :=
  match socket.membershipSocket with
  | none => (.error noMembershipSocket, w)
  | some membershipSocket =>
    let compatConfig := config.membershipCompatConfig
    match calls.leaveMulticastGroup membershipSocket compatConfig w with
    | (.error e, w) => (.error e, w)
    | (.ok (), w) => leaveWindowsRawReceiveSockets calls socket compatConfig w

/-- The Windows backend, on the opening and receiving functions of another. -/
def backend (base : RawBackend RawReceiveSocket W) : RawBackend RawReceiveSocket W :=
  { base with
    joinRawMulticastGroup := joinRawMulticastGroup calls
    leaveRawMulticastGroup := leaveRawMulticastGroup calls }

end Membership

/-! ## A kernel that refuses -/

/-- Which sockets are members of the group, and what the kernel answers to a join of a
socket that is not and to a leave of one that is. -/
structure Kernel where
  holds : Fd → Bool
  refusesJoin : Fd → Option McrxError
  refusesLeave : Fd → Option McrxError

namespace Kernel

/-- `WSAEADDRINUSE` for a member. -/
def joinMulticastGroup (socket : Fd) (_config : SubscriptionConfig) (k : Kernel) :
    Except McrxError Unit × Kernel :=
  if k.holds socket then (.error (.multicastJoinFailed ⟨10048⟩), k)
  else
    match k.refusesJoin socket with
    | some e => (.error e, k)
    | none => (.ok (), { k with holds := Function.update k.holds socket true })

/-- `WSAEADDRNOTAVAIL` for a socket that is not a member. -/
def leaveMulticastGroup (socket : Fd) (_config : SubscriptionConfig) (k : Kernel) :
    Except McrxError Unit × Kernel :=
  if !k.holds socket then (.error (.multicastLeaveFailed ⟨10049⟩), k)
  else
    match k.refusesLeave socket with
    | some e => (.error e, k)
    | none => (.ok (), { k with holds := Function.update k.holds socket false })

def calls : MulticastCalls Kernel :=
  { joinMulticastGroup := joinMulticastGroup, leaveMulticastGroup := leaveMulticastGroup }

end Kernel

/-! ## Runs -/

structure State where
  subscription : RawSubscription RawReceiveSocket
  kernel : Kernel

/-- A call, with what the kernel refuses during it.  While a join is undone the kernel
refuses no leave. -/
inductive Action where
  | join (refuses : Fd → Option McrxError)
  | leave (refuses : Fd → Option McrxError)

section Runs

variable (base : RawBackend RawReceiveSocket Kernel)

def call : Action → State → Except McrxError Unit × State
  | .join refuses, s =>
    let k := { s.kernel with refusesJoin := refuses, refusesLeave := fun _ => none }
    let (result, subscription, k) := s.subscription.join (backend Kernel.calls base) k
    (result, { subscription := subscription, kernel := k })
  | .leave refuses, s =>
    let k := { s.kernel with refusesJoin := fun _ => none, refusesLeave := refuses }
    let (result, subscription, k) := s.subscription.leave (backend Kernel.calls base) k
    (result, { subscription := subscription, kernel := k })

def step (a : Action) (s : State) : Option State := some (call base a s).2

end Runs

namespace State

def sockets (s : State) : List Fd :=
  s.subscription.socket.membershipSocket.toList ++
    [s.subscription.socket.receiveSocket, s.subscription.socket.windowsUdpReceiveSocket]

/-- Joined with all three sockets in the group, and bound with none of them in it. -/
structure AllOrNothing (s : State) : Prop where
  joined : s.subscription.state = .joined ↔ ∀ fd ∈ s.sockets, s.kernel.holds fd = true
  bound : s.subscription.state = .bound ↔ ∀ fd ∈ s.sockets, s.kernel.holds fd = false

structure Opened (s : State) : Prop where
  ipv4 : s.subscription.config.family = .ipv4
  membership : s.subscription.socket.membershipSocket ≠ none
  distinct : s.sockets.Nodup

structure Same (s s' : State) : Prop where
  subscription : s'.subscription = s.subscription
  holds : s'.kernel.holds = s.kernel.holds

end State

/-- A leave that takes the first socket out of the group and fails at another one. -/
def SplitsMemberships (s : State) (a : Action) : Prop :=
  ∃ refuses membershipSocket, a = .leave refuses ∧ s.subscription.state = .joined ∧
    s.subscription.socket.membershipSocket = some membershipSocket ∧
    refuses membershipSocket = none ∧
    (refuses s.subscription.socket.receiveSocket ≠ none ∨
      refuses s.subscription.socket.windowsUdpReceiveSocket ≠ none)

def Action.granted : Action → Action
  | .join _ => .join fun _ => none
  | .leave _ => .leave fun _ => none

def Action.expects : Action → SubscriptionState
  | .join _ => .bound
  | .leave _ => .joined

/-! ## What a call does -/

/-- What a call of a subscription with all or none of its memberships does. -/
inductive CallStep (s : State) (a : Action) : Except McrxError Unit → State → Prop
  | failed {e : McrxError} {s' : State} (hkept : s.Same s') (hsplits : ¬ SplitsMemberships s a) :
      CallStep s a (.error e) s'
  | done {s' : State} (hkept : s'.AllOrNothing) (hsplits : ¬ SplitsMemberships s a) :
      CallStep s a (.ok ()) s'
  | split {e : McrxError} {s' : State} (hsplits : SplitsMemberships s a)
      (hbroken : ¬ s'.AllOrNothing) : CallStep s a (.error e) s'

variable {base : RawBackend RawReceiveSocket Kernel}

section Sockets

variable {id : SubscriptionId} {config : RawSubscriptionConfig} {m r u : Fd}
  {state : SubscriptionState} {holds : Fd → Bool} {refusesJoin refusesLeave : Fd → Option McrxError}

/-- A subscription with the sockets `m`, `r` and `u`. -/
abbrev withSockets (id : SubscriptionId) (config : RawSubscriptionConfig) (m r u : Fd)
    (state : SubscriptionState) (k : Kernel) : State :=
  { subscription :=
      { id := id
        config := config
        socket :=
          { receiveSocket := r, membershipSocket := some m, windowsUdpReceiveSocket := u }
        state := state }
    kernel := k }

theorem opened_iff {k : Kernel} : (withSockets id config m r u state k).Opened ↔
    config.family = .ipv4 ∧ m ≠ r ∧ m ≠ u ∧ r ≠ u := by
  constructor
  · intro h
    have hdistinct := h.distinct
    simp only [State.sockets, Option.toList_some, List.cons_append, List.nil_append,
      List.nodup_cons, List.mem_cons, List.not_mem_nil, or_false, not_or] at hdistinct
    exact ⟨h.ipv4, hdistinct.1.1, hdistinct.1.2, hdistinct.2.1⟩
  · rintro ⟨hipv4, hmr, hmu, hru⟩
    refine ⟨hipv4, nofun, ?_⟩
    simp [State.sockets, hmr, hmu, hru]

theorem allOrNothing_joined {k : Kernel} :
    (withSockets id config m r u .joined k).AllOrNothing ↔
      k.holds m = true ∧ k.holds r = true ∧ k.holds u = true := by
  constructor
  · intro h
    simpa [State.sockets] using h.joined
  · rintro ⟨hm, hr, hu⟩
    refine ⟨?_, ?_⟩ <;> simp [State.sockets, hm, hr, hu]

theorem allOrNothing_bound {k : Kernel} :
    (withSockets id config m r u .bound k).AllOrNothing ↔
      k.holds m = false ∧ k.holds r = false ∧ k.holds u = false := by
  constructor
  · intro h
    simpa [State.sockets] using h.bound
  · rintro ⟨hm, hr, hu⟩
    refine ⟨?_, ?_⟩ <;> simp [State.sockets, hm, hr, hu]

/-- Leaving a group just joined restores the memberships. -/
theorem update_rollback {fd : Fd} (h : holds fd = false) :
    Function.update (Function.update holds fd true) fd false = holds := by
  rw [Function.update_idem, ← h, Function.update_eq_self]

variable (hipv4 : config.family = .ipv4) (hmr : m ≠ r) (hmu : m ≠ u) (hru : r ≠ u)
include hipv4 hmr hmu hru

/-- The join of a bound subscription: the first refusal takes the earlier joins back. -/
theorem call_join_bound {refuses : Fd → Option McrxError} (hm : holds m = false)
    (hr : holds r = false) (hu : holds u = false) :
    call base (.join refuses) (withSockets id config m r u .bound
        ⟨holds, refusesJoin, refusesLeave⟩) =
      match refuses m, refuses r, refuses u with
      | none, none, none => (.ok (), withSockets id config m r u .joined
          ⟨Function.update (Function.update (Function.update holds m true) r true) u true, refuses,
            fun _ => none⟩)
      | some e, _, _ | none, some e, _ | none, none, some e =>
        (.error e, withSockets id config m r u .bound ⟨holds, refuses, fun _ => none⟩) := by
  have hfamily : config.membershipCompatConfig.group.family = .ipv4 := hipv4
  cases hrm : refuses m with
  | some e =>
    simp [call, RawSubscription.join, RawSubscription.isJoined, backend, joinRawMulticastGroup,
      Kernel.calls, Kernel.joinMulticastGroup, hm, hrm]
  | none =>
    cases hrr : refuses r with
    | some e =>
      simp [call, RawSubscription.join, RawSubscription.isJoined, backend, joinRawMulticastGroup,
        joinWindowsRawReceiveSockets, Kernel.calls, Kernel.joinMulticastGroup,
        Kernel.leaveMulticastGroup, hm, hr, hrm, hrr, hfamily, hmr.symm]
    | none =>
      cases hru' : refuses u with
      | some e =>
        have hrollback : Function.update (Function.update (Function.update
            (Function.update holds m true) r true) r false) m false = holds := by
          rw [update_rollback (by rw [Function.update_of_ne hmr.symm, hr]), update_rollback hm]
        simpa [call, RawSubscription.join, RawSubscription.isJoined, backend,
          joinRawMulticastGroup, joinWindowsRawReceiveSockets, Kernel.calls,
          Kernel.joinMulticastGroup, Kernel.leaveMulticastGroup, hm, hr, hu,
          hrm, hrr, hru', hfamily,
          hmr, hmr.symm, hmu.symm, hru.symm] using hrollback
      | none =>
        simp [call, RawSubscription.join, RawSubscription.isJoined, backend,
          joinRawMulticastGroup, joinWindowsRawReceiveSockets, Kernel.calls,
          Kernel.joinMulticastGroup, hm, hr, hu, hrm, hrr, hru', hfamily, hmr.symm, hmu.symm,
          hru.symm]

/-- The leave of a joined subscription: once the first socket is out of the group, each
of the others leaves unless the kernel refuses it. -/
theorem call_leave_joined {refuses : Fd → Option McrxError} (hm : holds m = true)
    (hr : holds r = true) (hu : holds u = true) :
    call base (.leave refuses)
        (withSockets id config m r u .joined ⟨holds, refusesJoin, refusesLeave⟩) =
      match refuses m with
      | some e =>
        (.error e, withSockets id config m r u .joined ⟨holds, fun _ => none, refuses⟩)
      | none =>
        let k : Kernel :=
          { holds := Function.update (Function.update (Function.update holds m false) r
              (refuses r).isSome) u (refuses u).isSome
            refusesJoin := fun _ => none
            refusesLeave := refuses }
        match refuses r, refuses u with
        | none, none => (.ok (), withSockets id config m r u .bound k)
        | some e, _ | none, some e => (.error e, withSockets id config m r u .joined k) := by
  have hfamily : config.membershipCompatConfig.group.family = .ipv4 := hipv4
  have hkept : ∀ (f : Fd → Bool) fd, f fd = true → Function.update f fd true = f := by
    intro f fd h
    rw [← h, Function.update_eq_self]
  cases hrm : refuses m with
  | some e =>
    simp [call, RawSubscription.leave, RawSubscription.isJoined, backend, leaveRawMulticastGroup,
      Kernel.calls, Kernel.leaveMulticastGroup, hm, hrm]
  | none =>
    cases hrr : refuses r <;> cases hru' : refuses u <;>
      simp [call, RawSubscription.leave, RawSubscription.isJoined, backend,
        leaveRawMulticastGroup, leaveWindowsRawReceiveSockets, Kernel.calls,
        Kernel.leaveMulticastGroup, hm, hr, hu, hrm, hrr, hru',
        hfamily, hmr.symm, hmu.symm, hru.symm,
        hkept]

omit hipv4 hmr hmu hru

end Sockets

theorem State.Opened.exists_sockets {s : State} (h : s.Opened) :
    ∃ id config m r u state k, s = withSockets id config m r u state k := by
  obtain ⟨⟨id, config, ⟨r, membershipSocket, u⟩, state⟩, k⟩ := s
  obtain ⟨m, hm⟩ := Option.ne_none_iff_exists'.mp h.membership
  obtain rfl : membershipSocket = some m := hm
  exact ⟨id, config, m, r, u, state, k, rfl⟩

variable (base) in
theorem call_cases {s : State} (hopened : s.Opened) (h : s.AllOrNothing) (a : Action) :
    CallStep s a (call base a s).1 (call base a s).2 := by
  obtain ⟨id, config, m, r, u, state, ⟨holds, rj, rl⟩, rfl⟩ := hopened.exists_sockets
  obtain ⟨hipv4, hmr, hmu, hru⟩ := opened_iff.mp hopened
  cases state with
  | bound =>
    obtain ⟨hm, hr, hu⟩ := allOrNothing_bound.mp h
    cases a with
    | leave refuses => exact .failed ⟨rfl, rfl⟩ fun ⟨_, _, _, hjoined, _⟩ => nomatch hjoined
    | join refuses =>
      have hnot : ∀ s, ¬ SplitsMemberships s (.join refuses) := fun _ ⟨_, _, heq, _⟩ => nomatch heq
      rw [call_join_bound hipv4 hmr hmu hru hm hr hu]
      split
      · refine .done (allOrNothing_joined.mpr ⟨?_, ?_, ?_⟩) (hnot _)
        · simp [hmr, hmu]
        · simp [hru]
        · simp
      all_goals exact .failed ⟨rfl, rfl⟩ (hnot _)
  | joined =>
    obtain ⟨hm, hr, hu⟩ := allOrNothing_joined.mp h
    cases a with
    | join refuses => exact .failed ⟨rfl, rfl⟩ fun ⟨_, _, heq, _⟩ => nomatch heq
    | leave refuses =>
      rw [call_leave_joined hipv4 hmr hmu hru hm hr hu]
      cases hrm : refuses m with
      | some e =>
        refine .failed ⟨rfl, rfl⟩ ?_
        rintro ⟨_, _, heq, -, hsocket, hnone, -⟩
        cases heq
        cases hsocket
        exact nomatch hrm.symm.trans hnone
      | none =>
        have hsplits : refuses r ≠ none ∨ refuses u ≠ none → SplitsMemberships
            (withSockets id config m r u .joined ⟨holds, rj, rl⟩) (.leave refuses) :=
          fun hrefused => ⟨refuses, m, rfl, rfl, rfl, hrm, hrefused⟩
        have hbroken : ∀ k', k'.holds m = false →
            ¬ (withSockets id config m r u .joined k').AllOrNothing := by
          intro k' hout hkept
          rw [(allOrNothing_joined.mp hkept).1] at hout
          exact nomatch hout
        have hout : ∀ x y, Function.update (Function.update (Function.update holds m false) r x)
            u y m = false := by
          intro x y
          simp [hmr, hmu]
        cases hrr : refuses r with
        | some e =>
          cases refuses u <;>
            exact .split (hsplits (Or.inl (by rw [hrr]; exact nofun)))
              (hbroken _ (hout _ _))
        | none =>
          cases hru' : refuses u with
          | some e =>
            exact .split (hsplits (Or.inr (by rw [hru']; exact nofun)))
              (hbroken _ (hout _ _))
          | none =>
            refine .done (allOrNothing_bound.mpr ⟨hout _ _, ?_, ?_⟩) ?_
            · simp [hru]
            · simp
            · rintro ⟨_, _, heq, -, -, -, hrefused⟩
              cases heq
              rcases hrefused with hne | hne
              · exact hne hrr
              · exact hne hru'

/-- A call that suits the lifecycle state succeeds when the kernel refuses nothing. -/
theorem call_granted {s : State} (hopened : s.Opened) (h : s.AllOrNothing) {a : Action}
    (hexpects : a.expects = s.subscription.state) : (call base a.granted s).1 = .ok () := by
  obtain ⟨id, config, m, r, u, state, ⟨holds, rj, rl⟩, rfl⟩ := hopened.exists_sockets
  obtain ⟨hipv4, hmr, hmu, hru⟩ := opened_iff.mp hopened
  cases a with
  | join refuses =>
    obtain rfl : .bound = state := hexpects
    obtain ⟨hm, hr, hu⟩ := allOrNothing_bound.mp h
    rw [Action.granted, call_join_bound hipv4 hmr hmu hru hm hr hu]
  | leave refuses =>
    obtain rfl : .joined = state := hexpects
    obtain ⟨hm, hr, hu⟩ := allOrNothing_joined.mp h
    rw [Action.granted, call_leave_joined hipv4 hmr hmu hru hm hr hu]

/-! ## The memberships over a run -/

open Transition (run Meets)

/-- A fresh subscription: bound, with sockets that are not in the group. -/
def State.new (id : SubscriptionId) (config : RawSubscriptionConfig) (socket : RawReceiveSocket) :
    State :=
  { subscription := .new id config socket
    kernel :=
      { holds := fun _ => false
        refusesJoin := fun _ => none
        refusesLeave := fun _ => none } }

theorem State.allOrNothing_new (id : SubscriptionId) (config : RawSubscriptionConfig)
    (socket : RawReceiveSocket) : (State.new id config socket).AllOrNothing := by
  refine ⟨⟨nofun, fun h => ?_⟩, ⟨fun _ _ _ => rfl, fun _ => rfl⟩⟩
  exact nomatch h socket.receiveSocket (by simp [State.sockets, State.new, RawSubscription.new])

/-- No call changes the sockets or the configuration of the subscription. -/
theorem call_opened {s : State} (hopened : s.Opened) (a : Action) :
    (call base a s).2.Opened := by
  have hkept : ∃ state, (call base a s).2.subscription =
      { s.subscription with state := state } := by
    cases a with
    | join refuses =>
      simp only [call, RawSubscription.join]
      split
      · exact ⟨_, rfl⟩
      · split <;> exact ⟨_, rfl⟩
    | leave refuses =>
      simp only [call, RawSubscription.leave]
      split
      · exact ⟨_, rfl⟩
      · split <;> exact ⟨_, rfl⟩
  obtain ⟨state, hstate⟩ := hkept
  refine ⟨?_, ?_, ?_⟩
  · rw [hstate]
    exact hopened.ipv4
  · rw [hstate]
    exact hopened.membership
  · rw [State.sockets, hstate]
    exact hopened.distinct

theorem State.Same.allOrNothing {s s' : State} (h : s.Same s') (hall : s.AllOrNothing) :
    s'.AllOrNothing := by
  have hsockets : s'.sockets = s.sockets := by rw [State.sockets, h.subscription, State.sockets]
  refine ⟨?_, ?_⟩
  · rw [h.subscription, h.holds, hsockets]
    exact hall.joined
  · rw [h.subscription, h.holds, hsockets]
    exact hall.bound

/-- A call keeps all or none of the memberships unless it splits them. -/
theorem CallStep.allOrNothing_iff {s s' : State} {a : Action} {r : Except McrxError Unit}
    (h : CallStep s a r s') (hall : s.AllOrNothing) :
    ¬ SplitsMemberships s a ↔ s'.AllOrNothing := by
  cases h with
  | failed hkept hsplits => exact iff_of_true hsplits (hkept.allOrNothing hall)
  | done hkept hsplits => exact iff_of_true hsplits hkept
  | split hsplits hbroken => exact iff_of_false (not_not_intro hsplits) hbroken

/-- A call that fails and keeps all or none of the memberships changed nothing. -/
theorem CallStep.same_of_error {s s' : State} {a : Action} {e : McrxError}
    (h : CallStep s a (.error e) s') (hall : s'.AllOrNothing) : s.Same s' := by
  cases h with
  | failed hkept => exact hkept
  | split _ hbroken => exact absurd hall hbroken

/-- A run keeps all or none of the memberships, and its failing calls change nothing and
can be retried, if and only if no leave of it splits the memberships. -/
theorem memberships_all_or_nothing {id : SubscriptionId} {config : RawSubscriptionConfig}
    {socket : RawReceiveSocket} (hopened : (State.new id config socket).Opened)
    (actions : List Action) :
    Meets (step base) (fun s a => ¬ SplitsMemberships s a) actions (.new id config socket) ↔
      ∀ n s, run (step base) (actions.take n) (.new id config socket) = some s →
        s.AllOrNothing ∧ ∀ a e, actions[n]? = some a → (call base a s).1 = .error e →
          s.Same (call base a s).2 ∧ (a.expects = s.subscription.state →
            (call base a.granted (call base a s).2).1 = .ok ()) := by
  have hstep : ∀ s a s', s.Opened ∧ s.AllOrNothing → step base a s = some s' →
      (¬ SplitsMemberships s a ↔ s'.Opened ∧ s'.AllOrNothing) := by
    rintro s a s' ⟨hopened, hall⟩ h
    obtain rfl : (call base a s).2 = s' := Option.some.inj h
    have hcall := call_cases base hopened hall a
    rw [hcall.allOrNothing_iff hall]
    exact (and_iff_right (call_opened hopened a)).symm
  have hiff := Transition.meets_iff_forall_take actions (fun s a => ⟨_, rfl⟩) hstep
    ⟨hopened, State.allOrNothing_new id config socket⟩
  constructor
  · intro hmeets n s hrun
    have hkept := hiff.mp hmeets
    obtain ⟨hopened', hall⟩ := hkept n s hrun
    refine ⟨hall, fun a e ha he => ?_⟩
    have hnext : run (step base) (actions.take (n + 1)) (.new id config socket) =
        some (call base a s).2 := by
      rw [List.take_add_one, ha, Option.toList_some]
      exact Transition.run_append_eq_some hrun rfl
    have hcall := call_cases base hopened' hall a
    rw [he] at hcall
    have hsame := hcall.same_of_error (hkept (n + 1) _ hnext).2
    refine ⟨hsame, fun hexpects => call_granted (call_opened hopened' a)
      (hsame.allOrNothing hall) ?_⟩
    rw [hsame.subscription, hexpects]
  · intro hkept
    refine hiff.mpr fun n s hrun => ⟨?_, (hkept n s hrun).1⟩
    refine Transition.invariant_of_meets (P := State.Opened) (fun s a s' _ hopened h => ?_)
      (Transition.meets_of_mem (fun _ _ _ => trivial) _) hopened hrun
    obtain rfl : (call base a s).2 = s' := Option.some.inj h
    exact call_opened hopened a

def idleBackend : RawBackend RawReceiveSocket Kernel :=
  { openRawSocket := fun _ k => (.error (.rawPacketReceiveUnsupported ""), k)
    joinRawMulticastGroup := fun _ _ k => (.ok (), k)
    leaveRawMulticastGroup := fun _ _ k => (.ok (), k)
    recvRawPacket := fun _ _ _ k => (.ok none, k) }

/-- A fresh subscription to `239.1.2.3`, its first socket being number 2. -/
def freshSubscription : State :=
  .new ⟨1⟩ (.asm (.v4 (.new 239 1 2 3)))
    { receiveSocket := 1, membershipSocket := some 2, windowsUdpReceiveSocket := 3 }

/-- A join, and a leave that the kernel refuses at socket `fd`. -/
def joinThenRefusedLeave (fd : Fd) : List Action :=
  [.join fun _ => none,
    .leave fun fd' => if fd' = fd then some (.multicastLeaveFailed ⟨10022⟩) else none]

theorem opened_freshSubscription : freshSubscription.Opened := by
  refine ⟨rfl, nofun, by decide⟩

theorem memberships_all_or_nothing_refused :
    (∃ s, run (step idleBackend) (joinThenRefusedLeave 2) freshSubscription = some s) ∧
      ∀ n s, run (step idleBackend) ((joinThenRefusedLeave 2).take n) freshSubscription = some s →
        s.AllOrNothing := by
  refine ⟨⟨_, rfl⟩, fun n s hrun => ?_⟩
  have hmeets : Meets (step idleBackend) (fun s a => ¬ SplitsMemberships s a)
      (joinThenRefusedLeave 2) freshSubscription := by
    refine ⟨fun ⟨_, _, heq, _⟩ => (nomatch heq), fun s' hs' => ⟨?_, fun _ _ => trivial⟩⟩
    rintro ⟨refuses, m, heq, -, hsocket, hnone, -⟩
    cases hs'
    cases heq
    cases hsocket
    exact nomatch hnone
  exact ((memberships_all_or_nothing opened_freshSubscription _).mp hmeets n s hrun).1

/-- The kernel refuses the leave of the capture socket: the call fails, the first socket
is out of the group, and the subscription is joined. -/
theorem refused_leave_splits_memberships :
    ∃ s, run (step idleBackend) (joinThenRefusedLeave 1) freshSubscription = some s ∧
      s.subscription.state = .joined ∧ s.kernel.holds 2 = false ∧ s.kernel.holds 1 = true ∧
      ¬ s.AllOrNothing := by
  refine ⟨_, rfl, rfl, rfl, rfl, fun h => ?_⟩
  have hheld := h.joined.mp rfl 2 (by decide)
  exact nomatch hheld

end Windows

end McrxCore
