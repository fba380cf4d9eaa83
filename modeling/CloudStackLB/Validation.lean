import CloudStackLB.Isolation

/-! # Where EnsureLoadBalancer validates its input

`EnsureLoadBalancer` (`loadbalancer.go:228-392`) rejects an empty port list (line 232) and an
unsupported session affinity (lines 248-255) before it changes anything: up to there it has only
listed the rules. The protocol of each port (lines 291-295) and the source ranges (lines 341-344)
are checked inside the port loop, after the address may have been associated and the earlier
ports' rules created, updated or deleted. Those checks still make the run end with an error and
no status.
-/

namespace CloudStackLB

/-! ### Runs that only read -/

/-- The world `w'` follows `w` by calls that change nothing: the platform is as it was and every
call logged since is a read. -/
def ReadsOnly (w w' : World) : Prop :=
  w'.cloud = w.cloud ∧ ∃ calls, w'.log = w.log ++ calls ∧ ∀ call ∈ calls, call.1.mutating = false

theorem ReadsOnly.refl (w : World) : ReadsOnly w w :=
  ⟨rfl, [], (List.append_nil _).symm, fun _ h => absurd h (List.not_mem_nil _)⟩

theorem ReadsOnly.trans {w₁ w₂ w₃ : World} (h₁ : ReadsOnly w₁ w₂) (h₂ : ReadsOnly w₂ w₃) : ReadsOnly w₁ w₃ := by
  obtain ⟨hc₁, calls₁, hl₁, hm₁⟩ := h₁
  obtain ⟨hc₂, calls₂, hl₂, hm₂⟩ := h₂
  refine ⟨hc₂.trans hc₁, calls₁ ++ calls₂, by rw [hl₂, hl₁, List.append_assoc], fun call h => ?_⟩
  rcases List.mem_append.mp h with h | h
  · exact hm₁ call h
  · exact hm₂ call h

/-- Every run of `x` only reads, whether it returns or fails. -/
def ReadOnly {α : Type} (x : CloudM α) : Prop := ∀ rt w, ReadsOnly w (x rt w).2

namespace ReadOnly

variable {α β : Type}

theorem pure (a : α) : ReadOnly (Pure.pure a : CloudM α) := fun _ w => ReadsOnly.refl w

theorem throw (e : String) : ReadOnly (MonadExcept.throw e : CloudM α) := fun _ w => ReadsOnly.refl w

theorem bind {x : CloudM α} {f : α → CloudM β} (hx : ReadOnly x) (hf : ∀ a, ReadOnly (f a)) :
    ReadOnly (x >>= f) := by
  intro rt w
  rw [CloudM.run_bind]
  have h := hx rt w
  rcases hrun : x rt w with ⟨_ | a, w'⟩
  · rw [hrun] at h
    exact h
  · rw [hrun] at h
    exact h.trans (hf a rt w')

theorem withPrefix (pre : String) {x : CloudM α} (hx : ReadOnly x) : ReadOnly (CloudStackLB.withPrefix pre x) := by
  intro rt w
  have h := hx rt w
  unfold CloudStackLB.withPrefix
  split <;> simp_all

theorem query (call : Call) (answer : Cloud → α) (hcall : call.mutating = false) :
    ReadOnly (CloudStackLB.query call answer) := by
  intro rt w
  unfold CloudStackLB.query CloudStackLB.remote
  cases rt.fails w.log.length call with
  | some e => exact ⟨rfl, [(call, false)], rfl, by simpa using hcall⟩
  | none => exact ⟨rfl, [(call, true)], rfl, by simpa using hcall⟩

end ReadOnly

theorem getLoadBalancerByName_readOnly (name legacyName : String) :
    ReadOnly (getLoadBalancerByName name legacyName) := by
  unfold getLoadBalancerByName
  refine ReadOnly.bind (ReadOnly.withPrefix _ (ReadOnly.query _ _ rfl)) fun l => ?_
  split
  · split
    · exact ReadOnly.bind (ReadOnly.withPrefix _ (ReadOnly.query _ _ rfl)) fun _ => ReadOnly.pure _
    · exact ReadOnly.pure _
  · exact ReadOnly.pure _

theorem annotationsEqual_self (a : List (String × String)) : annotationsEqual a a = true := by
  simp [annotationsEqual]

theorem patch_self (svc : Service) (err : Option String) : patch svc svc err = pure err := by
  simp [patch, annotationsEqual_self]

/-! ### Runs that fail -/

/-- Every run of `x` fails. -/
def Fails {α : Type} (x : CloudM α) : Prop := Triple (fun _ => True) x (fun _ _ => False) (fun _ => True)

theorem Triple.true {α : Type} {P : Cloud → Prop} (x : CloudM α) :
    Triple P x (fun _ _ => True) (fun _ => True) := by
  intro rt w _
  split <;> trivial

theorem Triple.returns {α : Type} {x : CloudM α} {Q : α → Cloud → Prop} (h : Triple (fun _ => True) x Q (fun _ => False))
    (rt : Runtime) (w : World) : ∃ a, (x rt w).1 = .ok a ∧ Q a (x rt w).2.cloud := by
  have := h rt w trivial
  revert this
  rcases x rt w with ⟨_ | a, w'⟩
  · exact False.elim
  · exact fun hq => ⟨a, rfl, hq⟩

theorem Fails.bind {α β : Type} {x : CloudM α} {f : α → CloudM β} (hx : Fails x) : Fails (x >>= f) :=
  Triple.bind hx fun _ => Triple.of_false

theorem Fails.bind_right {α β : Type} {x : CloudM α} {f : α → CloudM β} (hf : ∀ a, Fails (f a)) :
    Fails (x >>= f) :=
  Triple.bind (Triple.true x) hf

theorem ensurePort_fails (nets : IPNetParser) (svc : Service) (lb : LoadBalancer) (port : ServicePort)
    (hbad : protocolFromServicePort port svc = .invalid ∨ (getLoadBalancerSourceRanges nets svc).isOk = false) :
    Fails (ensurePort nets svc lb port) := by
  simp only [ensurePort]
  split
  · exact Triple.throw_bind _ fun _ _ => trivial
  · next hvalid =>
    refine Triple.pure_bind _ (Fails.bind_right fun _ => ?_)
    refine Fails.bind_right fun network => ?_
    split
    · exact Triple.throw _ fun _ _ => trivial
    · split
      · exact Triple.throw _ fun _ _ => trivial
      · next _ _ hsr =>
        simp only [hsr, Except.isOk, Except.toBool, Bool.true_eq_false, or_false] at hbad
        exact absurd hbad hvalid

theorem ensurePorts_fails (nets : IPNetParser) (svc : Service) (ports : List ServicePort)
    (hbad : ∃ port ∈ ports, protocolFromServicePort port svc = .invalid ∨
      (getLoadBalancerSourceRanges nets svc).isOk = false) (lb : LoadBalancer) :
    Fails (ensurePorts nets svc lb ports) := by
  induction ports generalizing lb with
  | nil => simp at hbad
  | cons port ports ih =>
    rcases List.mem_cons.mp hbad.choose_spec.1 with hp | hp
    · exact Fails.bind (ensurePort_fails nets svc lb port (hp ▸ hbad.choose_spec.2))
    · exact Fails.bind_right fun lb' => ih ⟨_, hp, hbad.choose_spec.2⟩ lb'

theorem protocolFromServicePort_setServiceAnnotation (port : ServicePort) (svc : Service) (value : String) :
    protocolFromServicePort port ( setServiceAnnotation svc serviceAnnotationLoadBalancerAddress value) =
      protocolFromServicePort port svc := by
  have h : ( setServiceAnnotation svc serviceAnnotationLoadBalancerAddress value).annotationValue
      serviceAnnotationLoadBalancerProxyProtocol = svc.annotationValue serviceAnnotationLoadBalancerProxyProtocol :=
    annotationValue_setServiceAnnotation_of_ne svc value (by decide)
  simp only [protocolFromServicePort, getBoolFromServiceAnnotation, h]

theorem getLoadBalancerSourceRanges_setServiceAnnotation (nets : IPNetParser) (svc : Service) (value : String) :
    getLoadBalancerSourceRanges nets ( setServiceAnnotation svc serviceAnnotationLoadBalancerAddress value) =
      getLoadBalancerSourceRanges nets svc := by
  have h : ( setServiceAnnotation svc serviceAnnotationLoadBalancerAddress value).annotationValue
      annotationLoadBalancerSourceRangesKey = svc.annotationValue annotationLoadBalancerSourceRangesKey :=
    annotationValue_setServiceAnnotation_of_ne svc value (by decide)
  simp only [getLoadBalancerSourceRanges, h]
  rfl

theorem aggregate_some (e : String) (perr : Option String) : aggregate (some e) perr ≠ none := by
  cases perr <;> simp [aggregate]

theorem patch_error {P E : Cloud → Prop} (base updated : Service) (e : String) :
    Triple P (patch base updated (some e)) (fun err c => err ≠ none ∧ P c) E := by
  unfold patch
  refine Triple.ite (Triple.pure _ fun _ h => ⟨Option.some_ne_none e, h⟩) ?_
  exact Triple.bind (Triple.attempt (Triple.withPrefix _ (Triple.remote _ _ (fun _ h => h) fun _ h => h)))
    fun perr => Triple.pure _ fun _ h => ⟨aggregate_some e perr, h⟩

theorem Fails.error {α : Type} {x : CloudM α} (h : Fails x) (rt : Runtime) (w : World) :
    ∃ e, (x rt w).1 = .error e := by
  have := h rt w trivial
  revert this
  rcases x rt w with ⟨_ | a, w'⟩
  · exact fun _ => ⟨_, rfl⟩
  · exact False.elim

/-! ### The checks before the first change -/

theorem ensureAddress_rejects (clusterName : String) (svc : Service) (nodes : List Node) {e : String}
    (haff : affinityAlgorithm svc.sessionAffinity = .error e) :
    ReadOnly (ensureAddress clusterName svc nodes) ∧ Fails (ensureAddress clusterName svc nodes) := by
  unfold ensureAddress
  refine ⟨ReadOnly.bind (getLoadBalancerByName_readOnly _ _) fun _ => ?_, Fails.bind_right fun _ => ?_⟩
  · rw [haff]
    exact ReadOnly.throw _
  · rw [haff]
    exact Triple.throw _ fun _ _ => trivial

theorem ensureLoadBalancer_rejects_early (nets : IPNetParser) (clusterName : String) (svc : Service)
    (nodes : List Node) (hinvalid : svc.ports = [] ∨ (affinityAlgorithm svc.sessionAffinity).isOk = false)
    (rt : Runtime) (w : World) :
    ReadsOnly w (ensureLoadBalancer nets clusterName svc nodes rt w).2 ∧
      ∃ e, (ensureLoadBalancer nets clusterName svc nodes rt w).1 = .ok ⟨none, some e, svc⟩ := by
  by_cases hports : svc.ports = []
  · simp only [ensureLoadBalancer, hports, List.isEmpty_nil, if_true]
    exact ⟨ReadsOnly.refl w, _, rfl⟩
  · obtain ⟨e₀, haff⟩ : ∃ e, affinityAlgorithm svc.sessionAffinity = .error e := by
      cases h : affinityAlgorithm svc.sessionAffinity with
      | error e => exact ⟨e, rfl⟩
      | ok a => simp [h, Except.isOk, Except.toBool, hports] at hinvalid
    obtain ⟨hread, hfail⟩ := ensureAddress_rejects clusterName svc nodes haff
    obtain ⟨e, he⟩ := hfail.error rt w
    have hne : svc.ports.isEmpty = false := by simpa using hports
    simp only [ensureLoadBalancer, hne, Bool.false_eq_true, if_false, CloudM.run_bind, outcome]
    rw [show ensureAddress clusterName svc nodes rt w = (.error e, (ensureAddress clusterName svc nodes rt w).2)
      from Prod.ext he rfl]
    simp only [patch_self, CloudM.run_pure]
    exact ⟨hread rt w, e, rfl⟩

/-! ### The checks inside the port loop -/

theorem ensureWithAddress_no_status (nets : IPNetParser) (svc : Service) (lb : LoadBalancer) (release : Bool)
    (hbad : ∃ port ∈ svc.ports, protocolFromServicePort port svc = .invalid ∨
      (getLoadBalancerSourceRanges nets svc).isOk = false) :
    Triple (fun _ => True) (ensureWithAddress nets svc lb release)
      (fun res _ => res.status = none ∧ res.err ≠ none) (fun _ => False) := by
  have hrules : Fails (ensureRules nets ( setServiceAnnotation svc serviceAnnotationLoadBalancerAddress lb.ipAddr) lb) := by
    refine Fails.bind (ensurePorts_fails _ _ _ ?_ lb)
    obtain ⟨port, hp, hb⟩ := hbad
    exact ⟨port, hp, by rwa [ protocolFromServicePort_setServiceAnnotation,
      getLoadBalancerSourceRanges_setServiceAnnotation]⟩
  have hpatch : ∀ (P : Cloud → Prop) (e : String), Triple P
      (patch svc ( setServiceAnnotation svc serviceAnnotationLoadBalancerAddress lb.ipAddr) (some e) >>= fun err =>
        pure (⟨none, err, setServiceAnnotation svc serviceAnnotationLoadBalancerAddress lb.ipAddr⟩ : EnsureResult))
      (fun res _ => res.status = none ∧ res.err ≠ none) (fun _ => False) :=
    fun _ _ => Triple.bind (patch_error _ _ _) fun _ => Triple.pure _ fun _ h => ⟨rfl, h.1⟩
  refine Triple.bind (Triple.outcome hrules) fun r => ?_
  cases r with
  | ok status => exact Triple.of_false
  | error e =>
    exact Triple.ite (Triple.bind (Triple.attempt (Triple.withPrefix _
      (Triple.remote _ _ (fun _ _ => trivial) fun _ _ => trivial))) fun _ => hpatch _ e) (Triple.pure_bind _ (hpatch _ e))

theorem ensureLoadBalancer_no_status (nets : IPNetParser) (clusterName : String) (svc : Service)
    (nodes : List Node) (hbad : (∃ port ∈ svc.ports, protocolFromServicePort port svc = .invalid) ∨
      (getLoadBalancerSourceRanges nets svc).isOk = false) (rt : Runtime) (w : World) :
    ∃ e service, (ensureLoadBalancer nets clusterName svc nodes rt w).1 = .ok ⟨none, some e, service⟩ := by
  have h : Triple (fun _ => True) (ensureLoadBalancer nets clusterName svc nodes)
      (fun res _ => res.status = none ∧ res.err ≠ none) (fun _ => False) := by
    unfold ensureLoadBalancer
    split
    · exact Triple.pure _ fun _ _ => ⟨rfl, Option.some_ne_none _⟩
    · next hne =>
      refine Triple.bind (Triple.outcome (Triple.true _)) fun r => ?_
      rcases r with e | ⟨lb, release⟩
      · exact Triple.bind (patch_error _ _ _) fun _ => Triple.pure _ fun _ h => ⟨rfl, h.1⟩
      · refine ensureWithAddress_no_status nets svc lb release ?_
        rcases hbad with ⟨port, hp, hinv⟩ | hsr
        · exact ⟨port, hp, .inl hinv⟩
        · obtain ⟨port, ports, hports⟩ := List.exists_cons_of_ne_nil (by simpa using hne)
          exact ⟨port, hports ▸ List.mem_cons_self _ _, .inr hsr⟩
  obtain ⟨⟨status, err, service⟩, hrun, hstatus, herr⟩ := h.returns rt w
  obtain ⟨e, rfl⟩ := Option.ne_none_iff_exists'.mp herr
  exact ⟨e, service, hstatus ▸ hrun⟩

/-- Where `EnsureLoadBalancer` validates its input: an empty port list and an unsupported
affinity end the run before any change; a port with an invalid protocol and source ranges that do
not parse end it with an error and no status. -/
theorem ensureLoadBalancer_validation (nets : IPNetParser) (clusterName : String) (nodes : List Node) :
    (∀ svc, (svc.ports = [] ∨ (affinityAlgorithm svc.sessionAffinity).isOk = false) → ∀ rt w,
      ReadsOnly w (ensureLoadBalancer nets clusterName svc nodes rt w).2 ∧
        ∃ e, (ensureLoadBalancer nets clusterName svc nodes rt w).1 = .ok ⟨none, some e, svc⟩) ∧
    (∀ svc, ((∃ port ∈ svc.ports, protocolFromServicePort port svc = .invalid) ∨
        (getLoadBalancerSourceRanges nets svc).isOk = false) → ∀ rt w,
      ∃ e service, (ensureLoadBalancer nets clusterName svc nodes rt w).1 = .ok ⟨none, some e, service⟩) :=
  ⟨fun svc h => ensureLoadBalancer_rejects_early nets clusterName svc nodes h,
    fun svc h => ensureLoadBalancer_no_status nets clusterName svc nodes h⟩

theorem ensureLoadBalancer_validation_on_sticky_and_sctp :
    let sticky : Service := { webService with sessionAffinity := "Sticky" }
    let sctp : Service := { webService with ports := [⟨"SCTP", 81, 30081⟩] }
    (sticky.ports = [] ∨ (affinityAlgorithm sticky.sessionAffinity).isOk = false) ∧
      (ReadsOnly (World.init sampleCloud)
          (ensureLoadBalancer .literal "c" sticky sampleNodes (Runtime.reliable .inOrder) (World.init sampleCloud)).2 ∧
        ∃ e, (ensureLoadBalancer .literal "c" sticky sampleNodes (Runtime.reliable .inOrder)
          (World.init sampleCloud)).1 = .ok ⟨none, some e, sticky⟩) ∧
      ((∃ port ∈ sctp.ports, protocolFromServicePort port sctp = .invalid) ∨
        (getLoadBalancerSourceRanges .literal sctp).isOk = false) ∧
      ∃ e service, (ensureLoadBalancer .literal "c" sctp sampleNodes (Runtime.reliable .inOrder)
        (World.init sampleCloud)).1 = .ok ⟨none, some e, service⟩ := by
  intro sticky sctp
  have hsticky : sticky.ports = [] ∨ (affinityAlgorithm sticky.sessionAffinity).isOk = false := .inr (by decide)
  have hsctp : (∃ port ∈ sctp.ports, protocolFromServicePort port sctp = .invalid) ∨
      (getLoadBalancerSourceRanges .literal sctp).isOk = false := .inl ⟨_, List.mem_singleton_self _, by decide⟩
  exact ⟨hsticky, (ensureLoadBalancer_validation .literal "c" sampleNodes).1 sticky hsticky _ _, hsctp,
    (ensureLoadBalancer_validation .literal "c" sampleNodes).2 sctp hsctp _ _⟩

/-- A platform with the rule of port 80 of `default/web`, on a network without a firewall. -/
def ruleCloud : Cloud :=
  ⟨[⟨"1", "K8s_svc_c_default_web-tcp-80", "", "roundrobin", "tcp", "9", "30080", "80", ["vm-1"]⟩], [],
    [⟨"9", "10.0.0.9"⟩], [⟨"net-1", "", []⟩], [⟨"vm-1", "node-1", [⟨"net-1"⟩]⟩],
    by decide, by decide, by decide, by decide, by decide⟩

/-- `default/web` with the affinity changed to `ClientIP` and a second port, of protocol SCTP. -/
def sctpService : Service :=
  { webService with
    annotations := [(serviceAnnotationLoadBalancerAddress, "10.0.0.9")], sessionAffinity := "ClientIP",
    ports := [⟨"TCP", 80, 30080⟩, ⟨"SCTP", 81, 30081⟩] }

/-- The run updates the algorithm of the first port's rule before it rejects the second port. -/
theorem ensureLoadBalancer_updates_before_protocol_check :
    let r := ensureLoadBalancer .literal "c" sctpService sampleNodes (Runtime.reliable .inOrder)
      (World.init ruleCloud)
    protocolFromServicePort ⟨"SCTP", 81, 30081⟩ sctpService = .invalid ∧
      r.1.toOption.map (fun res => (res.status, res.err)) =
        some (none, some "unsupported load balancer protocol: SCTP") ∧
      (Call.updateLoadBalancerRule "1" "source" "tcp", true) ∈ r.2.log ∧
      ruleCloud.lbRules.map LbRow.algorithm = ["roundrobin"] ∧
      r.2.cloud.lbRules.map LbRow.algorithm = ["source"] := by
  intro r
  simp only [r]
  rw [ensureLoadBalancer_of_address (by decide) (by decide :
    (ensureAddress "c" sctpService sampleNodes (Runtime.reliable .inOrder) (World.init ruleCloud)).1 =
      .ok (⟨"K8s_svc_c_default_web", "source", ["vm-1"], "10.0.0.9", "9", "net-1",
        [⟨"1", "K8s_svc_c_default_web-tcp-80", "roundrobin", "tcp", "10.0.0.9", "9", "30080", "80"⟩]⟩, false))]
  decide

/-! ### A leftover rule the cleanup cannot parse

The rule `-tcp-443` of `default/web` was edited out of band to the protocol `ssl`, which
`ProtocolFromLoadBalancer` does not know. The Service is valid and its host is found; every call
succeeds. The cleanup of stale rules (lines 358-378) returns an error at the rule, before deleting
it, so this run and every later one end with an error and no status.
-/

def sslCloud : Cloud :=
  ⟨[⟨"1", "K8s_svc_c_default_web-tcp-443", "", "roundrobin", "ssl", "9", "30443", "443", ["vm-1"]⟩], [],
    [⟨"9", "10.0.0.9"⟩], [⟨"net-1", "", []⟩], [⟨"vm-1", "node-1", [⟨"net-1"⟩]⟩],
    by decide, by decide, by decide, by decide, by decide⟩

/-- The run of `default/web` on it, every call succeeding. -/
def leftoverRun : Except String EnsureResult × World :=
  ensureLoadBalancer .literal "c" webService sampleNodes (Runtime.reliable .inOrder) (World.init sslCloud)

/-- The next run, on the platform the first one left, of the Service as it patched it. -/
def leftoverRetryRun : Except String EnsureResult × World :=
  ensureLoadBalancer .literal "c" ( setServiceAnnotation webService serviceAnnotationLoadBalancerAddress "10.0.0.9")
    sampleNodes (Runtime.reliable .inOrder) (World.init leftoverRun.2.cloud)

/-- A valid Service whose host is found fails at the leftover rule, every call succeeding, and so
does the run after it. -/
theorem ensureLoadBalancer_fails_on_unparsed_leftover_rule :
    webService.ports ≠ [] ∧ (affinityAlgorithm webService.sessionAffinity).isOk = true ∧
      (∀ port ∈ webService.ports, protocolFromServicePort port webService ≠ .invalid) ∧
      (getLoadBalancerSourceRanges .literal webService).isOk = true ∧
      (verifyHosts sampleNodes (Runtime.reliable .inOrder) (World.init sslCloud)).1 = .ok (["vm-1"], "net-1") ∧
      (∀ call ∈ leftoverRun.2.log, call.2 = true) ∧
      leftoverRun.1.toOption.map (fun res => (res.status, res.err)) =
        some (none, some "error parsing protocol ssl: %!w(<nil>)") ∧
      (∀ call ∈ leftoverRetryRun.2.log, call.2 = true) ∧
      leftoverRetryRun.1.toOption.map (fun res => (res.status, res.err)) =
        some (none, some "error parsing protocol ssl: %!w(<nil>)") := by
  unfold leftoverRetryRun leftoverRun
  rw [ensureLoadBalancer_of_address (by decide) (by decide :
    (ensureAddress "c" webService sampleNodes (Runtime.reliable .inOrder) (World.init sslCloud)).1 =
      .ok (⟨"K8s_svc_c_default_web", "roundrobin", ["vm-1"], "10.0.0.9", "9", "net-1",
        [⟨"1", "K8s_svc_c_default_web-tcp-443", "roundrobin", "ssl", "10.0.0.9", "9", "30443", "443"⟩]⟩, false))]
  decide

end CloudStackLB
