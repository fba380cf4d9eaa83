import CloudStackLB.LoadBalancer

/-! # EnsureLoadBalancer

`EnsureLoadBalancer` (`loadbalancer.go:228-392`): locate the load balancer, pick its algorithm,
hosts and address, converge one rule (and its firewall rule) per Service port, delete the
rules left over, and report the status. Two deferred calls run on every return after the port
check: the release of an address this run took, when the run fails, and then
`servicePatcher.Patch`, which sends the Service's new annotations.
-/

namespace CloudStackLB

/-- `corev1.LoadBalancerIngress`: an address or a hostname. -/
structure LoadBalancerIngress where
  ip : String
  hostname : String
  deriving DecidableEq, Repr

/-- `corev1.LoadBalancerStatus`. -/
structure LoadBalancerStatus where
  ingress : List LoadBalancerIngress
  deriving DecidableEq, Repr

/-- The algorithm of a session affinity (lines 250-257). -/
def affinityAlgorithm (affinity : String) : Except String String :=
  if affinity = "None" then .ok "roundrobin"
  else if affinity = "ClientIP" then .ok "source"
  else .error ("unsupported load balancer affinity: " ++ affinity)

def isFirewallSupported (services : List String) : Bool := services.contains "Firewall"

/-- The status: the hostname annotation when set, else the address (lines 380-391). -/
def loadBalancerStatus (svc : Service) (lb : LoadBalancer) : LoadBalancerStatus :=
  let hostname := getStringFromServiceAnnotation svc serviceAnnotationLoadBalancerLoadbalancerHostname ""
  if hostname ≠ "" then ⟨[⟨"", hostname⟩]⟩ else ⟨[⟨lb.ipAddr, ""⟩]⟩

/-! ### The phases of a run -/

/-- Lines 240-283: the load balancer with its algorithm, hosts and address, and whether a
later failure releases the address (one this run took that is not the Service's own). -/
def ensureAddress (clusterName : String) (svc : Service) (nodes : List Node) :
    CloudM (LoadBalancer × Bool) := do
  let lb ← getLoadBalancerByName (getLoadBalancerName clusterName svc) (getLoadBalancerLegacyName svc)
  match affinityAlgorithm svc.sessionAffinity with
  | .error e => throw e
  | .ok algorithm =>
    let (hostIDs, networkID) ← verifyHosts nodes
    let lb := { lb with algorithm, hostIDs, networkID }
    if lb.hasLoadBalancerIP then pure (lb, false)
    else do
      let lb ← getLoadBalancerIP lb svc.loadBalancerIP
      pure (lb, lb.ipAddr ≠ "" && lb.ipAddr ≠ svc.loadBalancerIP)

/-- Lines 300-332 of the port loop: the rule `lbRuleName` is kept, updated or created (with the
hosts assigned). A kept rule leaves the map, so that the cleanup spares it. -/
def ensurePortRule (lb : LoadBalancer) (lbRuleName : String) (port : ServicePort)
    (protocol : LoadBalancerProtocol) : CloudM (LoadBalancerRule × LoadBalancer) := do
  let (found, needsUpdate, lb) ← checkLoadBalancerRule lb lbRuleName port protocol
  match found with
  | some lbRule =>
    if needsUpdate then updateLoadBalancerRule lb lbRuleName protocol
    pure (lbRule, lb.dropRule lbRuleName)
  | none =>
    let lbRule ← createLoadBalancerRule lb lbRuleName port protocol
    assignHostsToRule lbRule lb.hostIDs
    pure (lbRule, lb)

/-- Lines 334-355 of the port loop: the firewall rule of the port, when the network has a
firewall. -/
def ensurePortFirewall (nets : IPNetParser) (svc : Service) (lb : LoadBalancer) (lbRule : LoadBalancerRule)
    (port : ServicePort) (protocol : LoadBalancerProtocol) : CloudM LoadBalancer := do
  let network ← Client.getNetworkByID lb.networkID
  match network with
  | none => throw ("No match found for " ++ lb.networkID ++ ": &\x7bCount:0 Networks:[]\x7d")
  | some network =>
    match getLoadBalancerSourceRanges nets svc with
    | .error e => throw e
    | .ok lbSourceRanges =>
      if isFirewallSupported network.service then do
        let _ ← updateFirewallRule lbRule.publicipid port.port.toInt protocol lbSourceRanges
        pure lb
      else pure lb

/-- One iteration of the port loop (lines 290-356), for the rule `<lb>-<protocol>-<port>`. -/
def ensurePort (nets : IPNetParser) (svc : Service) (lb : LoadBalancer) (port : ServicePort) :
    CloudM LoadBalancer := do
  let protocol := protocolFromServicePort port svc
  if protocol = .invalid then throw ("unsupported load balancer protocol: " ++ port.protocol)
  let lbRuleName := lb.name ++ "-" ++ protocol.toString ++ "-" ++ itoa port.port.toInt
  let (lbRule, lb) ← ensurePortRule lb lbRuleName port protocol
  ensurePortFirewall nets svc lb lbRule port protocol

def ensurePorts (nets : IPNetParser) (svc : Service) : LoadBalancer → List ServicePort → CloudM LoadBalancer
  | lb, [] => pure lb
  | lb, port :: ports => do
    let lb ← ensurePort nets svc lb port
    ensurePorts nets svc lb ports

/-- The cleanup (lines 358-378): every rule left in the map loses its firewall rules, then is
deleted. -/
def deleteStaleRules : LoadBalancer → List LoadBalancerRule → CloudM LoadBalancer
  | lb, [] => pure lb
  | lb, lbRule :: rest => do
    let protocol := protocolFromLoadBalancer lbRule.protocol
    if protocol = .invalid then throw ("error parsing protocol " ++ lbRule.protocol ++ ": %!w(<nil>)")
    match parseInt32 lbRule.publicport with
    | .error e => throw ("error parsing port " ++ lbRule.publicport ++ ": " ++ e)
    | .ok port => do
      let _ ← deleteFirewallRule lbRule.publicipid port protocol
      let lb ← deleteLoadBalancerRule lb lbRule
      deleteStaleRules lb rest

/-- Lines 288-391, after the address: the port loop, the cleanup and the status. -/
def ensureRules (nets : IPNetParser) (svc : Service) (lb : LoadBalancer) : CloudM LoadBalancerStatus := do
  let lb ← ensurePorts nets svc lb svc.ports
  let stale ← rangeOver lb.rules
  let lb ← deleteStaleRules lb stale
  pure (loadBalancerStatus svc lb)

/-! ### The deferred calls -/

/-- `utilerrors.NewAggregate([]error{err, perr})`, as its message: the errors that are set,
bracketed when there are two different ones. -/
def aggregate : Option String → Option String → Option String
  | none, perr => perr
  | some e, none => some e
  | some e, some p => some (if e = p then e else "[" ++ e ++ ", " ++ p ++ "]")

/-- `patchService`: the merge patch of the annotations, sent to the Kubernetes API. -/
def patchService (cur modified : Service) : CloudM Unit :=
  withPrefix ("failed to patch service object " ++ cur.ns ++ "/" ++ cur.name ++ ": ")
    (remote (.patchService modified.annotations) fun c => ((), c))

/-- `servicePatcher.Patch`: nothing is sent when the annotations are unchanged. -/
def patch (base updated : Service) (err : Option String) : CloudM (Option String) :=
  if annotationsEqual base.annotations updated.annotations then pure err
  else do
    let perr ← attempt (patchService base updated)
    pure (aggregate err perr)

/-- What `EnsureLoadBalancer` returns, with the Service object as it leaves it. -/
structure EnsureResult where
  status : Option LoadBalancerStatus
  err : Option String
  service : Service
  deriving DecidableEq

/-- The run once the load balancer has its address (lines 285-391), with the deferred release of
an address the run took, on failure, and then the deferred patch. -/
def ensureWithAddress (nets : IPNetParser) (svc : Service) (lb : LoadBalancer) (release : Bool) :
    CloudM EnsureResult := do
  let updated := setServiceAnnotation svc serviceAnnotationLoadBalancerAddress lb.ipAddr
  let r ← outcome (ensureRules nets updated lb)
  match r with
  | .ok status => do
    let err ← patch svc updated none
    pure ⟨some status, err, updated⟩
  | .error e => do
    let _ ← if release then attempt (releaseLoadBalancerIP lb) else pure none
    let err ← patch svc updated (some e)
    pure ⟨none, err, updated⟩

def ensureLoadBalancer (nets : IPNetParser) (clusterName : String) (svc : Service) (nodes : List Node) :
    CloudM EnsureResult :=
  if svc.ports.isEmpty then pure ⟨none, some "requested load balancer with no ports", svc⟩
  else do
    let r ← outcome (ensureAddress clusterName svc nodes)
    match r with
    | .error e => do
      let err ← patch svc svc (some e)
      pure ⟨none, err, svc⟩
    | .ok (lb, release) => ensureWithAddress nets svc lb release

theorem ensureLoadBalancer_of_address {nets : IPNetParser} {clusterName : String} {svc : Service}
    {nodes : List Node} {rt : Runtime} {w : World} {lb : LoadBalancer} {release : Bool} (hports : svc.ports ≠ [])
    (h : (ensureAddress clusterName svc nodes rt w).1 = .ok (lb, release)) :
    ensureLoadBalancer nets clusterName svc nodes rt w =
      ensureWithAddress nets svc lb release rt (ensureAddress clusterName svc nodes rt w).2 := by
  have hne : svc.ports.isEmpty = false := by simpa using hports
  simp only [ensureLoadBalancer, hne, Bool.false_eq_true, if_false, CloudM.run_bind, outcome, h]

def sampleCloud : Cloud := Cloud.empty [⟨"net-1", "", []⟩] [⟨"vm-1", "node-1", [⟨"net-1"⟩]⟩]

def sampleNodes : List Node := [⟨"node-1"⟩]

def webService : Service := ⟨"web", "default", "uid-1", [], [⟨"TCP", 80, 30080⟩], "None", "", []⟩

/-! ### Turning on the proxy protocol

A Service whose TCP port 80 already has its rule and its firewall rule on address `9`, on a
network with a firewall, gets the proxy-protocol annotation. The port's rule name changes from
`-tcp-80` to `-tcp-proxy-80`, so the run finds no rule of that name and creates one on port 80
of address `9`, which CloudStack refuses while rule `1` holds the port. The run fails before the
cleanup that would delete rule `1`, and leaves the platform as it found it.
-/

def tcpCloud : Cloud :=
  ⟨[⟨"1", "K8s_svc_c_default_web-tcp-80", "", "roundrobin", "tcp", "9", "30080", "80", ["vm-1"]⟩],
    [⟨"5", "9", "tcp", 80, 80, "0.0.0.0/0"⟩], [⟨"9", "10.0.0.9"⟩], [⟨"net-1", "", ["Firewall"]⟩],
    [⟨"vm-1", "node-1", [⟨"net-1"⟩]⟩], by decide, by decide, by decide, by decide, by decide⟩

def proxyService : Service :=
  { webService with
    annotations := [(serviceAnnotationLoadBalancerAddress, "10.0.0.9"),
      (serviceAnnotationLoadBalancerProxyProtocol, "true")] }

/-- The run that turns the proxy protocol on, with no call failing in the runtime. -/
def proxyToggleRun : Except String EnsureResult × World :=
  ensureLoadBalancer .literal "c" proxyService sampleNodes (Runtime.reliable .inOrder) (World.init tcpCloud)

/-- CloudStack's refusal of the second rule on port 80, as the run returns it. -/
def proxyRefusal : String :=
  "error creating load balancer rule K8s_svc_c_default_web-tcp-proxy-80: " ++
    "The range specified, 80-80, conflicts with rule 1 which has 80-80"

/-- The proxy protocol turned on for port 80, its address, port and node port kept: the run
issues a `CreateLoadBalancerRule` of a second rule on port 80 and no `UpdateLoadBalancerRule`.
CloudStack refuses the rule, so the run returns no status and leaves the platform unchanged: the
next run does the same. -/
theorem ensureLoadBalancer_protocol_change_creates_rule :
    proxyToggleRun.1.toOption.map (fun res => (res.status, res.err)) = some (none, some proxyRefusal) ∧
      proxyToggleRun.2.log = [(.listLoadBalancerRules "K8s_svc_c_default_web", true), (.listVirtualMachines, true),
        (.createLoadBalancerRule "roundrobin" "K8s_svc_c_default_web-tcp-proxy-80" 30080 80 "net-1" "9" "tcp-proxy",
          false)] ∧
      proxyToggleRun.2.cloud = tcpCloud := by
  unfold proxyToggleRun
  rw [ensureLoadBalancer_of_address (by decide) (by decide :
    (ensureAddress "c" proxyService sampleNodes (Runtime.reliable .inOrder) (World.init tcpCloud)).1 =
      .ok (⟨"K8s_svc_c_default_web", "roundrobin", ["vm-1"], "10.0.0.9", "9", "net-1",
        [⟨"1", "K8s_svc_c_default_web-tcp-80", "roundrobin", "tcp", "10.0.0.9", "9", "30080", "80"⟩]⟩, false))]
  exact ⟨by decide, by decide, rfl⟩

/-- The Service's TCP-proxy rule on address `9`, with no firewall rule. -/
def proxiedCloud : Cloud :=
  ⟨[⟨"00", "K8s_svc_c_default_web-tcp-proxy-80", "", "roundrobin", "tcp-proxy", "9", "30080", "80", ["vm-1"]⟩],
    [], [⟨"9", "10.0.0.9"⟩], [⟨"net-1", "", ["Firewall"]⟩], [⟨"vm-1", "node-1", [⟨"net-1"⟩]⟩],
    by decide, by decide, by decide, by decide, by decide⟩

/-- The status a run for `proxyService` returns, with the Service as it leaves it. -/
def proxyResult : EnsureResult :=
  ⟨some ⟨[⟨"10.0.0.9", ""⟩]⟩, none, setServiceAnnotation proxyService serviceAnnotationLoadBalancerAddress "10.0.0.9"⟩

theorem ensureLoadBalancer_proxiedCloud :
    (ensureLoadBalancer .literal "c" proxyService sampleNodes (Runtime.reliable .inOrder) (World.init proxiedCloud)).1 =
      .ok proxyResult := by
  rw [ensureLoadBalancer_of_address (by decide) (by decide :
    (ensureAddress "c" proxyService sampleNodes (Runtime.reliable .inOrder) (World.init proxiedCloud)).1 =
      .ok (⟨"K8s_svc_c_default_web", "roundrobin", ["vm-1"], "10.0.0.9", "9", "net-1",
        [⟨"00", "K8s_svc_c_default_web-tcp-proxy-80", "roundrobin", "tcp-proxy", "10.0.0.9", "9", "30080",
          "80"⟩]⟩, false))]
  decide

/-! ### Moving a port

The platform of `tcpCloud`, with the Service's port moved from 80 to 8080: the run creates the
rule of port 8080 beside rule `1`, opens its firewall, and then deletes rule `1` with its
firewall rule `5`.
-/

def pinnedCloud : Cloud :=
  ⟨[], [], [⟨"9", "10.0.0.9"⟩], [⟨"net-1", "", []⟩], [⟨"vm-1", "node-1", [⟨"net-1"⟩]⟩],
    by decide, by decide, by decide, by decide, by decide⟩

def pinnedService : Service :=
  { webService with
    annotations := [(serviceAnnotationLoadBalancerAddress, "10.0.0.9")], loadBalancerIP := "10.0.0.9" }

/-- A platform that fails every `AssignToLoadBalancerRule`. -/
def assignFails : Runtime :=
  ⟨fun _ call => match call with
    | .assignToLoadBalancerRule .. => some "job failed"
    | _ => none, .inOrder⟩

/-- The run that fails at the assignment. -/
def abortedRun : Except String EnsureResult × World :=
  ensureLoadBalancer .literal "c" pinnedService sampleNodes assignFails (World.init pinnedCloud)

/-- Its retry, every call succeeding. -/
def retryRun : Except String EnsureResult × World :=
  ensureLoadBalancer .literal "c" pinnedService sampleNodes (Runtime.reliable .inOrder) (World.init abortedRun.2.cloud)

/-- One run from the same platform, every call succeeding. -/
def directRun : Except String EnsureResult × World :=
  ensureLoadBalancer .literal "c" pinnedService sampleNodes (Runtime.reliable .inOrder) (World.init pinnedCloud)

/-- The run aborts at the assignment, its one failed call; the retry returns the status but
leaves the rule with no host, where one successful run assigns `vm-1`. -/
theorem ensureLoadBalancer_retry_leaves_rule_without_hosts :
    abortedRun.1.toOption.map EnsureResult.status = some none ∧
      abortedRun.2.log.getLast? = some (.assignToLoadBalancerRule "0" ["vm-1"], false) ∧
      (∀ call ∈ abortedRun.2.log.dropLast, call.2 = true) ∧
      retryRun.1.toOption.map (fun res => (res.status, res.err)) = some (some ⟨[⟨"10.0.0.9", ""⟩]⟩, none) ∧
      retryRun.2.cloud.lbRules.map LbRow.instances = [[]] ∧
      directRun.2.cloud.lbRules.map LbRow.instances = [["vm-1"]] := by
  unfold retryRun abortedRun directRun
  rw [ensureLoadBalancer_of_address (by decide) (by decide :
      (ensureAddress "c" pinnedService sampleNodes assignFails (World.init pinnedCloud)).1 =
        .ok (⟨"K8s_svc_c_default_web", "roundrobin", ["vm-1"], "10.0.0.9", "9", "net-1", []⟩, false)),
    ensureLoadBalancer_of_address (by decide) (by decide :
      (ensureAddress "c" pinnedService sampleNodes (Runtime.reliable .inOrder) (World.init pinnedCloud)).1 =
        .ok (⟨"K8s_svc_c_default_web", "roundrobin", ["vm-1"], "10.0.0.9", "9", "net-1", []⟩, false))]
  decide

/-! ### A failed firewall deletion

`updateFirewallRule` (lines 929-1002) keeps one error variable: every `DeleteFirewallRule`
(line 979) and then the `CreateFirewallRule` (line 993) overwrite it, and the function returns it.
The comment at line 1000 has it return the error of a failed deletion. Where the rule is created,
that error is lost; where a rule with the wanted CIDR list is kept, the function returns whether
the last deletion visited failed, and `EnsureLoadBalancer` fails with it.
-/

/-- A platform that fails the deletion of firewall rule `B` and visits maps in the order `sched`. -/
def deleteBFails (sched : Schedule) : Runtime :=
  ⟨fun _ call => if call = .deleteFirewallRule "B" then some "boom" else none, sched⟩

/-- Address `9` whose port 80 has only the allow-all rule `B`. -/
def allowAllCloud : Cloud :=
  ⟨[], [⟨"B", "9", "tcp", 80, 80, "0.0.0.0/0"⟩], [⟨"9", "10.0.0.9"⟩], [], [],
    by decide, by decide, by decide, by decide, by decide⟩

/-- Address `9` whose port 80 has the rule `A` with the wanted range, and the rules `B` and `C`. -/
def threeRulesCloud : Cloud :=
  ⟨[], [⟨"A", "9", "tcp", 80, 80, "10.0.0.0/24"⟩, ⟨"B", "9", "tcp", 80, 80, "0.0.0.0/0"⟩,
    ⟨"C", "9", "tcp", 80, 80, "192.168.0.0/16"⟩], [⟨"9", "10.0.0.9"⟩], [], [],
    by decide, by decide, by decide, by decide, by decide⟩

/-- The Service's rule on address `9`, whose port 80 has the allow-all rule `A` it wants and the
rule `B` it does not. -/
def staleFirewallCloud : Cloud :=
  ⟨[⟨"1", "K8s_svc_c_default_web-tcp-80", "", "roundrobin", "tcp", "9", "30080", "80", ["vm-1"]⟩],
    [⟨"A", "9", "tcp", 80, 80, "0.0.0.0/0"⟩, ⟨"B", "9", "tcp", 80, 80, "10.0.0.0/24"⟩], [⟨"9", "10.0.0.9"⟩],
    [⟨"net-1", "", ["Firewall"]⟩], [⟨"vm-1", "node-1", [⟨"net-1"⟩]⟩],
    by decide, by decide, by decide, by decide, by decide⟩

/-- The Service of `webService` that already carries its address. -/
def addressedService : Service :=
  { webService with annotations := [(serviceAnnotationLoadBalancerAddress, "10.0.0.9")] }

/-- The load balancer the address phase returns on `staleFirewallCloud`. -/
def staleFirewallLB : LoadBalancer :=
  ⟨"K8s_svc_c_default_web", "roundrobin", ["vm-1"], "10.0.0.9", "9", "net-1",
    [⟨"1", "K8s_svc_c_default_web-tcp-80", "roundrobin", "tcp", "10.0.0.9", "9", "30080", "80"⟩]⟩

/-- A failed deletion's error is lost where the rule is created (the one rule `B` is deleted and
the wanted rule created: the call returns `true`), and decides the result where a rule is kept:
with `A` kept, visiting `B` last fails the call and visiting `C` last does not. A run of
`EnsureLoadBalancer` that meets the failed deletion of `B` returns no status, where the same run
with every call succeeding returns one. -/
theorem updateFirewallRule_deletion_error_lost_or_fatal :
    (updateFirewallRule "9" 80 .tcp ["10.0.0.0/24"] (deleteBFails .inOrder) (World.init allowAllCloud)).1 = .ok true ∧
      (updateFirewallRule "9" 80 .tcp ["10.0.0.0/24"] (deleteBFails .inOrder) (World.init allowAllCloud)).2.log =
        [(.listFirewallRules "9", true), (.deleteFirewallRule "B", false),
          (.createFirewallRule "9" "tcp" ["10.0.0.0/24"] 80 80, true)] ∧
      (updateFirewallRule "9" 80 .tcp ["10.0.0.0/24"] (deleteBFails .inOrder) (World.init threeRulesCloud)).1 =
        .ok true ∧
      (updateFirewallRule "9" 80 .tcp ["10.0.0.0/24"] (deleteBFails .reversed) (World.init threeRulesCloud)).1 =
        .error "boom" ∧
      (ensureLoadBalancer .literal "c" addressedService sampleNodes (deleteBFails .inOrder)
        (World.init staleFirewallCloud)).1.toOption.map (fun res => (res.status, res.err)) = some (none, some "boom") ∧
      (ensureLoadBalancer .literal "c" addressedService sampleNodes (Runtime.reliable .inOrder)
        (World.init staleFirewallCloud)).1.toOption.map (fun res => (res.status, res.err)) =
          some (some ⟨[⟨"10.0.0.9", ""⟩]⟩, none) := by
  have hlost : (updateFirewallRule "9" 80 .tcp ["10.0.0.0/24"] (deleteBFails .inOrder) (World.init allowAllCloud)).1 =
      .ok true := by
    rw [updateFirewallRule_list_ok _ _ _ _ _ _ rfl]
    exact syncPortRules_drops_deletion_error _ _ _ _ _ _ _ (by decide) fun _ => rfl
  rw [ensureLoadBalancer_of_address (by decide) (by decide :
      (ensureAddress "c" addressedService sampleNodes (deleteBFails .inOrder) (World.init staleFirewallCloud)).1 =
        .ok (staleFirewallLB, false)),
    ensureLoadBalancer_of_address (by decide) (by decide :
      (ensureAddress "c" addressedService sampleNodes (Runtime.reliable .inOrder) (World.init staleFirewallCloud)).1 =
        .ok (staleFirewallLB, false))]
  exact ⟨hlost, by decide, by decide, by decide, by decide, by decide⟩

end CloudStackLB
