import CloudStackLB.Ensure

/-! # UpdateLoadBalancer, EnsureLoadBalancerDeleted and GetLoadBalancer

`UpdateLoadBalancer` (`loadbalancer.go:395-439`) reconciles the hosts of every rule it finds
with the nodes; `EnsureLoadBalancerDeleted` (lines 454-495) deletes the rules with their firewall
rules and releases the address; `GetLoadBalancer` (lines 203-225) reports what exists.
-/

namespace CloudStackLB

/-- One iteration of the loop over the rules of `UpdateLoadBalancer` (lines 413-435). -/
def updateRuleHost (hostIDs : List String) (lbRule : LoadBalancerRule) : CloudM Unit := do
  let l ← withPrefix "error retrieving associated instances: " (Client.listLoadBalancerRuleInstances lbRule.id)
  let (assign, remove) ← symmetricDifference hostIDs l
  if assign.length > 0 then assignHostsToRule lbRule assign
  if remove.length > 0 then removeHostsFromRule lbRule remove

/-- The loop over the rules of `UpdateLoadBalancer` (lines 412-436). -/
def updateRuleHosts (hostIDs : List String) : List LoadBalancerRule → CloudM Unit
  | [] => pure ()
  | lbRule :: rest => do
    updateRuleHost hostIDs lbRule
    updateRuleHosts hostIDs rest

def updateLoadBalancer (clusterName : String) (svc : Service) (nodes : List Node) : CloudM Unit := do
  let lb ← getLoadBalancerByName (getLoadBalancerName clusterName svc) (getLoadBalancerLegacyName svc)
  let (hostIDs, _) ← verifyHosts nodes
  let lb := { lb with hostIDs }
  let rules ← rangeOver lb.rules
  updateRuleHosts lb.hostIDs rules

/-- The loop over the rules of `EnsureLoadBalancerDeleted` (lines 464-485): a rule whose
protocol does not parse is skipped, and one whose port does not parse keeps its firewall
rules. -/
def deleteRulesAndFirewall : LoadBalancer → List LoadBalancerRule → CloudM LoadBalancer
  | lb, [] => pure lb
  | lb, lbRule :: rest => do
    let protocol := protocolFromLoadBalancer lbRule.protocol
    if protocol = .invalid then deleteRulesAndFirewall lb rest
    else do
      match parseInt32 lbRule.publicport with
      | .error _ => pure ()
      | .ok port => do
        let _ ← deleteFirewallRule lbRule.publicipid port protocol
        pure ()
      let lb ← deleteLoadBalancerRule lb lbRule
      deleteRulesAndFirewall lb rest

def ensureLoadBalancerDeleted (clusterName : String) (svc : Service) : CloudM Unit := do
  let lb ← getLoadBalancerByName (getLoadBalancerName clusterName svc) (getLoadBalancerLegacyName svc)
  let rules ← rangeOver lb.rules
  let lb ← deleteRulesAndFirewall lb rules
  if lb.ipAddr ≠ "" then releaseLoadBalancerIP lb

/-- `GetLoadBalancer`: the status when the load balancer has rules. -/
def getLoadBalancer (clusterName : String) (svc : Service) : CloudM (Option LoadBalancerStatus) := do
  let lb ← getLoadBalancerByName (getLoadBalancerName clusterName svc) (getLoadBalancerLegacyName svc)
  if lb.rules.isEmpty then pure none else pure (some ⟨[⟨lb.ipAddr, ""⟩]⟩)

end CloudStackLB
