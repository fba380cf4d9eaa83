import CloudStackLB.Hosts

/-! # The calls a run makes

`Makes S x`: every call a run of `x` adds to the log, whether the run returns or fails,
satisfies `S`. One rule per combinator of `Platform.lean`, and one footprint lemma per function
of the port loop and the cleanup of `EnsureLoadBalancer` (`loadbalancer.go:290-378`): none of
them takes or gives back a public address.
-/

namespace CloudStackLB

/-- The calls that take or give back a public address. -/
def Call.onAddress : Call → Bool
  | .associateIpAddress .. | .disassociateIpAddress .. => true
  | _ => false

/-! ### The calls a run makes -/

/-- Every call a run of `x` adds to the log, whether it returns or fails, satisfies `S`. -/
def Makes {α : Type} (S : Call → Prop) (x : CloudM α) : Prop :=
  ∀ rt w, ∃ calls, (x rt w).2.log = w.log ++ calls ∧ ∀ call ∈ calls, S call.1

namespace Makes

variable {α β : Type} {S : Call → Prop}

theorem pure (a : α) : Makes S (Pure.pure a : CloudM α) :=
  fun _ w => ⟨[], (List.append_nil w.log).symm, fun _ h => absurd h (List.not_mem_nil _)⟩

theorem throw (e : String) : Makes S (MonadExcept.throw e : CloudM α) :=
  fun _ w => ⟨[], (List.append_nil w.log).symm, fun _ h => absurd h (List.not_mem_nil _)⟩

theorem bind {x : CloudM α} {f : α → CloudM β} (hx : Makes S x) (hf : ∀ a, Makes S (f a)) :
    Makes S (x >>= f) := by
  intro rt w
  obtain ⟨calls₁, hl₁, hs₁⟩ := hx rt w
  rw [CloudM.run_bind]
  rcases hrun : x rt w with ⟨_ | a, w₁⟩ <;> rw [hrun] at hl₁
  · exact ⟨calls₁, hl₁, hs₁⟩
  · obtain ⟨calls₂, hl₂, hs₂⟩ := hf a rt w₁
    refine ⟨calls₁ ++ calls₂, by rw [hl₂, hl₁, List.append_assoc], fun call h => ?_⟩
    rcases List.mem_append.mp h with h | h
    · exact hs₁ call h
    · exact hs₂ call h

theorem remote (call : Call) (op : Cloud → α × Cloud) (h : S call) : Makes S (CloudStackLB.remote call op) := by
  intro rt w
  unfold CloudStackLB.remote
  cases rt.fails w.log.length call with
  | some e => exact ⟨[(call, false)], rfl, by simpa using h⟩
  | none => exact ⟨[(call, true)], rfl, by simpa using h⟩

theorem remoteTry (call : Call) (op : Cloud → Except String (α × Cloud)) (h : S call) :
    Makes S (CloudStackLB.remoteTry call op) := by
  intro rt w
  unfold CloudStackLB.remoteTry
  cases rt.fails w.log.length call with
  | some e => exact ⟨[(call, false)], rfl, by simpa using h⟩
  | none =>
    cases op w.cloud with
    | error e => exact ⟨[(call, false)], rfl, by simpa using h⟩
    | ok r => exact ⟨[(call, true)], rfl, by simpa using h⟩

theorem query (call : Call) (answer : Cloud → α) (h : S call) : Makes S (CloudStackLB.query call answer) :=
  remote call _ h

theorem withPrefix (pre : String) {x : CloudM α} (hx : Makes S x) : Makes S (CloudStackLB.withPrefix pre x) := by
  intro rt w
  obtain ⟨calls, hl, hs⟩ := hx rt w
  refine ⟨calls, ?_, hs⟩
  unfold CloudStackLB.withPrefix
  revert hl
  rcases x rt w with ⟨_ | _, _⟩ <;> exact id

theorem attempt {x : CloudM Unit} (hx : Makes S x) : Makes S (CloudStackLB.attempt x) := by
  intro rt w
  obtain ⟨calls, hl, hs⟩ := hx rt w
  refine ⟨calls, ?_, hs⟩
  unfold CloudStackLB.attempt
  revert hl
  rcases x rt w with ⟨_ | _, _⟩ <;> exact id

theorem outcome {x : CloudM α} (hx : Makes S x) : Makes S (CloudStackLB.outcome x) := by
  intro rt w
  obtain ⟨calls, hl, hs⟩ := hx rt w
  exact ⟨calls, hl, hs⟩

theorem pure_bind (a : α) {f : α → CloudM β} (h : Makes S (f a)) : Makes S (Pure.pure a >>= f) := h

theorem rangeOver (l : List α) : Makes S (CloudStackLB.rangeOver l) :=
  fun _ w => ⟨[], (List.append_nil w.log).symm, fun _ h => absurd h (List.not_mem_nil _)⟩

end Makes

/-! ### The port loop and the cleanup never touch an address -/

/-- A call that neither takes nor gives back an address. -/
abbrev OffAddress (call : Call) : Prop := call.onAddress = false

theorem deleteLoadBalancerRule_makes (lb : LoadBalancer) (lbRule : LoadBalancerRule) :
    Makes OffAddress (deleteLoadBalancerRule lb lbRule) :=
  Makes.bind (Makes.withPrefix _ (Makes.remote _ _ rfl)) fun _ => Makes.pure _

theorem checkLoadBalancerRule_makes (lb : LoadBalancer) (lbRuleName : String) (port : ServicePort)
    (protocol : LoadBalancerProtocol) : Makes OffAddress (checkLoadBalancerRule lb lbRuleName port protocol) := by
  unfold checkLoadBalancerRule
  split
  · exact Makes.pure _
  · split
    · exact Makes.pure _
    · exact Makes.bind (deleteLoadBalancerRule_makes _ _) fun _ => Makes.pure _

theorem ensurePortRule_makes (lb : LoadBalancer) (lbRuleName : String) (port : ServicePort)
    (protocol : LoadBalancerProtocol) : Makes OffAddress (ensurePortRule lb lbRuleName port protocol) := by
  refine Makes.bind (checkLoadBalancerRule_makes _ _ _ _) fun ⟨found, needsUpdate, lb⟩ => ?_
  cases found with
  | some lbRule =>
    dsimp only
    split
    · refine Makes.bind ?_ fun _ => Makes.pure _
      unfold updateLoadBalancerRule
      split
      · exact Makes.throw _
      · exact Makes.remote _ _ rfl
    · exact Makes.bind (Makes.pure _) fun _ => Makes.pure _
  | none =>
    exact Makes.bind (Makes.withPrefix _ (Makes.remoteTry _ _ rfl)) fun _ =>
      Makes.bind (Makes.withPrefix _ (Makes.remote _ _ rfl)) fun _ => Makes.pure _

theorem deleteRules_makes (order : List FirewallRule) (acc : Bool × Option String) :
    Makes OffAddress (deleteRules order acc) := by
  induction order generalizing acc with
  | nil => exact Makes.pure _
  | cons rule rest ih =>
    obtain ⟨deleted, err⟩ := acc
    exact Makes.bind (Makes.attempt (Makes.remote _ _ rfl)) fun _ => ih _

theorem updateFirewallRule_makes (publicIPID : String) (publicPort : Int) (protocol : LoadBalancerProtocol)
    (allowedCIDRs : List String) : Makes OffAddress (updateFirewallRule publicIPID publicPort protocol allowedCIDRs) := by
  refine Makes.bind (Makes.withPrefix _ (Makes.query _ _ rfl)) fun _ => ?_
  refine Makes.bind (Makes.rangeOver _) fun _ => Makes.bind (Makes.rangeOver _) fun _ =>
    Makes.bind (deleteRules_makes _ _) fun ⟨_, err⟩ => ?_
  dsimp only
  split
  · split
    · exact Makes.throw _
    · exact Makes.pure _
  · exact Makes.bind (Makes.withPrefix _ (Makes.remote _ _ rfl)) fun _ => Makes.pure _

theorem ensurePortFirewall_makes (nets : IPNetParser) (svc : Service) (lb : LoadBalancer) (lbRule : LoadBalancerRule)
    (port : ServicePort) (protocol : LoadBalancerProtocol) :
    Makes OffAddress (ensurePortFirewall nets svc lb lbRule port protocol) := by
  refine Makes.bind (Makes.query _ _ rfl) fun network => ?_
  split
  · exact Makes.throw _
  · split
    · exact Makes.throw _
    · split
      · exact Makes.bind (updateFirewallRule_makes _ _ _ _) fun _ => Makes.pure _
      · exact Makes.pure _

theorem ensurePort_makes (nets : IPNetParser) (svc : Service) (lb : LoadBalancer) (port : ServicePort) :
    Makes OffAddress (ensurePort nets svc lb port) := by
  unfold ensurePort
  dsimp only
  split <;> refine Makes.bind (by first | exact Makes.throw _ | exact Makes.pure _) fun _ =>
    Makes.bind (ensurePortRule_makes _ _ _ _) fun _ => ensurePortFirewall_makes _ _ _ _ _ _

theorem ensurePorts_makes (nets : IPNetParser) (svc : Service) (lb : LoadBalancer) (ports : List ServicePort) :
    Makes OffAddress (ensurePorts nets svc lb ports) := by
  induction ports generalizing lb with
  | nil => exact Makes.pure _
  | cons port ports ih => exact Makes.bind (ensurePort_makes _ _ _ _) fun _ => ih _

theorem deleteFirewallRule_makes (publicIPID : String) (publicPort : Int) (protocol : LoadBalancerProtocol) :
    Makes OffAddress (deleteFirewallRule publicIPID publicPort protocol) := by
  refine Makes.bind (Makes.withPrefix _ (Makes.query _ _ rfl)) fun _ =>
    Makes.bind (deleteRules_makes _ _) fun ⟨_, err⟩ => ?_
  dsimp only
  split
  · exact Makes.throw _
  · exact Makes.pure _

theorem deleteStaleRules_makes (lb : LoadBalancer) (stale : List LoadBalancerRule) :
    Makes OffAddress (deleteStaleRules lb stale) := by
  induction stale generalizing lb with
  | nil => exact Makes.pure _
  | cons lbRule rest ih =>
    unfold deleteStaleRules
    dsimp only
    split <;> refine Makes.bind (by first | exact Makes.throw _ | exact Makes.pure _) fun _ => ?_ <;> split
    all_goals first
      | exact Makes.throw _
      | exact Makes.bind (deleteFirewallRule_makes _ _ _) fun _ =>
          Makes.bind (deleteLoadBalancerRule_makes _ _) fun _ => ih _

theorem ensureRules_makes (nets : IPNetParser) (svc : Service) (lb : LoadBalancer) :
    Makes OffAddress (ensureRules nets svc lb) :=
  Makes.bind (ensurePorts_makes _ _ _ _) fun _ => Makes.bind (Makes.rangeOver _) fun _ =>
    Makes.bind (deleteStaleRules_makes _ _) fun _ => Makes.pure _

theorem offAddress_append {calls₁ calls₂ : List (Call × Bool)} (h₁ : ∀ call ∈ calls₁, OffAddress call.1)
    (h₂ : ∀ call ∈ calls₂, OffAddress call.1) : ∀ call ∈ calls₁ ++ calls₂, OffAddress call.1 :=
  fun call hm => (List.mem_append.mp hm).elim (h₁ call) (h₂ call)

theorem not_mem_of_offAddress {calls : List (Call × Bool)} (h : ∀ call ∈ calls, OffAddress call.1) (c : Call)
    (hc : c.onAddress = true) (b : Bool) : (c, b) ∉ calls :=
  fun hm => by simpa [OffAddress, hc] using h _ hm

end CloudStackLB
