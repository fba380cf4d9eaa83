import CloudStackLB.Firewall
import Mathlib.Data.String.Basic

/-! # The per-call load balancer and its operations

The `loadBalancer` struct every operation builds afresh (`loadbalancer.go:189-200`), the
locator `getLoadBalancerByName` (lines 507-559), `verifyHosts` (561-607), the IP lifecycle
(609-697) and the rule operations (699-811).
-/

namespace CloudStackLB

/-- The provider's `loadBalancer`. `rules` is the Go map from rule name to rule, kept as the
list of its values: no two of them share a name. -/
structure LoadBalancer where
  name : String
  algorithm : String
  hostIDs : List String
  ipAddr : String
  ipAddrID : String
  networkID : String
  rules : List LoadBalancerRule
  deriving DecidableEq, Repr

namespace LoadBalancer

/-- `lb.rules[name]`. -/
def rule? (lb : LoadBalancer) (name : String) : Option LoadBalancerRule := lb.rules.find? (·.name = name)

/-- `delete(lb.rules, name)`. -/
def dropRule (lb : LoadBalancer) (name : String) : LoadBalancer :=
  { lb with rules := lb.rules.filter (·.name ≠ name) }

/-- `lb.rules[rule.Name] = rule`. -/
def putRule (lb : LoadBalancer) (rule : LoadBalancerRule) : LoadBalancer :=
  { lb with rules := lb.rules.filter (·.name ≠ rule.name) ++ [rule] }

def hasLoadBalancerIP (lb : LoadBalancer) : Bool := lb.ipAddr ≠ "" && lb.ipAddrID ≠ ""

end LoadBalancer

/-! ### The locator -/

/-- The loop over a listing (lines 545-554): every rule goes into the map, and the address is
that of the last rule. -/
def addRules (lb : LoadBalancer) : List LoadBalancerRule → LoadBalancer
  | [] => lb
  | r :: rs => addRules { lb.putRule r with ipAddr := r.publicip, ipAddrID := r.publicipid } rs

theorem addRules_name (lb : LoadBalancer) (l : List LoadBalancerRule) : (addRules lb l).name = lb.name := by
  induction l generalizing lb with
  | nil => rfl
  | cons r rs ih => exact ih _

theorem addRules_rules (lb : LoadBalancer) (l : List LoadBalancerRule) :
    ∀ x ∈ (addRules lb l).rules, x ∈ lb.rules ∨ x ∈ l := by
  induction l generalizing lb with
  | nil => exact fun x hx => .inl hx
  | cons r rs ih =>
    intro x hx
    rcases ih _ x hx with h | h
    · simp only [LoadBalancer.putRule, List.mem_append, List.mem_filter, List.mem_singleton] at h
      rcases h with ⟨h, -⟩ | rfl
      · exact .inl h
      · exact .inr (List.mem_cons_self _ _)
    · exact .inr (List.mem_cons_of_mem _ h)

theorem addRules_address (lb : LoadBalancer) (l : List LoadBalancerRule) (h : l ≠ []) :
    ∃ r ∈ l, (addRules lb l).ipAddr = r.publicip ∧ (addRules lb l).ipAddrID = r.publicipid := by
  induction l generalizing lb with
  | nil => exact absurd rfl h
  | cons r rs ih =>
    rcases rs with _ | ⟨r', rs⟩
    · exact ⟨r, List.mem_singleton_self _, rfl, rfl⟩
    · obtain ⟨x, hx, hx'⟩ := ih _ (List.cons_ne_nil _ _)
      exact ⟨x, List.mem_cons_of_mem _ hx, hx'⟩

/-- `getLoadBalancerByName`: the rules the keyword `name` lists, or, when there are none, those
`legacyName` lists, in which case the load balancer takes that name. -/
def getLoadBalancerByName (name legacyName : String) : CloudM LoadBalancer := do
  let lb : LoadBalancer := ⟨name, "", [], "", "", "", []⟩
  let l ← withPrefix "error retrieving load balancer rules: " (Client.listLoadBalancerRules name)
  if l.isEmpty then
    if legacyName.length > 0 then
      let l ← withPrefix "error retrieving load balancer rules: " (Client.listLoadBalancerRules legacyName)
      pure (addRules (if l.isEmpty then lb else { lb with name := legacyName }) l)
    else
      pure lb
  else
    pure (addRules lb l)

/-! ### Hosts -/

/-- `strings.Split(strings.ToLower(node.Name), ".")[0]`. -/
def nodeHostName (node : Node) : String := (stringsSplit (stringsToLower node.name) '.').headD ""

/-- The loop over the virtual machines (lines 587-600): a VM of a node with a NIC adds its
id, and its first NIC's network must be the one recorded so far. -/
def matchHosts (hostNames : List String) :
    List VirtualMachine → List String → String → Except String (List String × String)
  | [], hostIDs, networkID => .ok (hostIDs, networkID)
  | vm :: vms, hostIDs, networkID =>
    if stringsToLower vm.name ∈ hostNames then
      match vm.nic with
      | [] => matchHosts hostNames vms hostIDs networkID
      | nic :: _ =>
        if networkID ≠ "" ∧ networkID ≠ nic.networkid then .error "found hosts that belong to different networks"
        else matchHosts hostNames vms (hostIDs ++ [vm.id]) nic.networkid
    else matchHosts hostNames vms hostIDs networkID

def verifyHosts (nodes : List Node) : CloudM (List String × String) := do
  let hostNames := nodes.map nodeHostName
  let vms ← withPrefix "error retrieving list of hosts: " Client.listVirtualMachines
  match matchHosts hostNames vms [] "" with
  | .error e => throw e
  | .ok (hostIDs, networkID) =>
    if hostIDs.isEmpty || networkID.isEmpty then
      throw "none of the hosts matched the list of VMs retrieved from CS API"
    else pure (hostIDs, networkID)

/-- The VMs the loop of `verifyHosts` records, in listing order: those of a node that have a NIC. -/
def matchedVMs (hostNames : List String) (vms : List VirtualMachine) : List VirtualMachine :=
  vms.filter fun vm => stringsToLower vm.name ∈ hostNames ∧ vm.nic ≠ []

/-- The network of a VM's first NIC. -/
def VirtualMachine.firstNetwork (vm : VirtualMachine) : String := (vm.nic.headD ⟨""⟩).networkid

/-- The loop's check: the network recorded so far is unset or is the next VM's. -/
def networkAgrees (recorded next : String) : Prop := recorded = "" ∨ recorded = next

instance : DecidableRel networkAgrees := fun _ _ => inferInstanceAs (Decidable (_ ∨ _))

/-- The loop of `verifyHosts` (lines 587-600) in closed form. -/
theorem matchHosts_eq (hostNames : List String) (vms : List VirtualMachine) (hostIDs : List String)
    (networkID : String) :
    matchHosts hostNames vms hostIDs networkID =
      if List.Chain networkAgrees networkID ((matchedVMs hostNames vms).map VirtualMachine.firstNetwork) then
        .ok (hostIDs ++ (matchedVMs hostNames vms).map VirtualMachine.id,
          ((matchedVMs hostNames vms).map VirtualMachine.firstNetwork).getLastD networkID)
      else .error "found hosts that belong to different networks" := by
  induction vms generalizing hostIDs networkID with
  | nil => simp [matchHosts, matchedVMs]
  | cons vm vms ih =>
    rw [matchHosts]
    by_cases hname : stringsToLower vm.name ∈ hostNames
    · cases hnic : vm.nic with
      | nil => simp [hname, hnic, matchedVMs, ih]
      | cons nic nics =>
        have hm : matchedVMs hostNames (vm :: vms) = vm :: matchedVMs hostNames vms := by
          simp [matchedVMs, hname, hnic]
        have hf : vm.firstNetwork = nic.networkid := by simp [VirtualMachine.firstNetwork, hnic]
        have hcheck : (networkID ≠ "" ∧ networkID ≠ nic.networkid) ↔ ¬networkAgrees networkID nic.networkid := by
          unfold networkAgrees; tauto
        simp only [hname, if_true, hcheck, hm, List.map_cons, hf, List.chain_cons, ih]
        by_cases hagree : networkAgrees networkID nic.networkid
        · simp only [hagree, not_true_eq_false, if_false, true_and, List.getLastD_cons, List.append_assoc,
            List.singleton_append]
        · simp [hagree]
    · simp [hname, matchedVMs, ih]

theorem chain_networkAgrees_of_same {c : String} (a : String) (ha : networkAgrees a c) :
    ∀ l : List String, (∀ x ∈ l, x = c) → List.Chain networkAgrees a l
  | [], _ => .nil
  | x :: l, h => by
    obtain rfl := h x (List.mem_cons_self _ _)
    exact .cons ha (chain_networkAgrees_of_same x (.inr rfl) l fun y hy => h y (List.mem_cons_of_mem _ hy))

theorem getLastD_of_same {c : String} (a : String) :
    ∀ l : List String, l ≠ [] → (∀ x ∈ l, x = c) → l.getLastD a = c
  | [], h, _ => absurd rfl h
  | [x], _, h => h x (List.mem_singleton_self x)
  | x :: y :: l, _, h => by
    rw [List.getLastD_cons]
    exact getLastD_of_same x (y :: l) (List.cons_ne_nil _ _) fun z hz => h z (List.mem_cons_of_mem _ hz)

theorem matchHosts_of_same_network (hostNames : List String) (vms : List VirtualMachine) (c : String)
    (hne : matchedVMs hostNames vms ≠ []) (hsame : ∀ vm ∈ matchedVMs hostNames vms, vm.firstNetwork = c) :
    matchHosts hostNames vms [] "" = .ok ((matchedVMs hostNames vms).map VirtualMachine.id, c) := by
  have hall : ∀ x ∈ (matchedVMs hostNames vms).map VirtualMachine.firstNetwork, x = c := by simpa using hsame
  rw [matchHosts_eq, if_pos (chain_networkAgrees_of_same "" (.inl rfl) _ hall), List.nil_append,
    getLastD_of_same "" _ (by simpa using hne) hall]

theorem verifyHosts_of_same_network (nodes : List Node) (rt : Runtime) (w : World) (c : String)
    (hlist : rt.fails w.log.length .listVirtualMachines = none) (hc : c ≠ "")
    (hne : matchedVMs (nodes.map nodeHostName) w.cloud.vms ≠ [])
    (hsame : ∀ vm ∈ matchedVMs (nodes.map nodeHostName) w.cloud.vms, vm.firstNetwork = c) :
    (verifyHosts nodes rt w).1 = .ok ((matchedVMs (nodes.map nodeHostName) w.cloud.vms).map VirtualMachine.id, c) := by
  simp only [verifyHosts, CloudM.run_bind, withPrefix, Client.listVirtualMachines, query, remote, hlist]
  rw [matchHosts_of_same_network _ _ c hne hsame]
  have hce : c.isEmpty = false := Bool.eq_false_iff.mpr fun h => hc ((String.isEmpty_iff c).mp h)
  simp [hce, hne, CloudM.run_pure]

theorem chain_networkAgrees_eq {x : String} (hx : x ≠ "") :
    ∀ {l : List String}, (∀ y ∈ l, y ≠ "") → List.Chain networkAgrees x l → ∀ y ∈ l, y = x
  | [], _, _ => fun _ h => absurd h (List.not_mem_nil _)
  | y :: l, hne, .cons hxy hl => by
    obtain rfl : x = y := hxy.resolve_left hx
    exact List.forall_mem_cons.mpr ⟨rfl, chain_networkAgrees_eq hx (fun z hz => hne z (List.mem_cons_of_mem _ hz)) hl⟩

theorem verifyHosts_listed (nodes : List Node) (rt : Runtime) (w : World)
    (hlist : rt.fails w.log.length .listVirtualMachines = none) {r : List String × String} :
    (verifyHosts nodes rt w).1 = .ok r ↔
      matchHosts (nodes.map nodeHostName) w.cloud.vms [] "" = .ok r ∧ r.1 ≠ [] ∧ r.2 ≠ "" := by
  simp only [verifyHosts, CloudM.run_bind, withPrefix, Client.listVirtualMachines, query, remote, hlist]
  cases hm : matchHosts (nodes.map nodeHostName) w.cloud.vms [] "" with
  | error e => simp [CloudM.run_throw]
  | ok p =>
    obtain ⟨hostIDs, networkID⟩ := p
    dsimp only
    have hiff : (hostIDs.isEmpty || networkID.isEmpty) = true ↔ hostIDs = [] ∨ networkID = "" := by
      simp [String.isEmpty_iff]
    cases hb : (hostIDs.isEmpty || networkID.isEmpty)
    · have hne : hostIDs ≠ [] ∧ networkID ≠ "" := not_or.mp fun h => Bool.false_ne_true (hb ▸ hiff.mpr h)
      rw [if_neg Bool.false_ne_true, CloudM.run_pure]
      refine ⟨fun he => ?_, fun ⟨he, _⟩ => by cases he; rfl⟩
      cases he
      exact ⟨rfl, hne⟩
    · rw [if_pos rfl, CloudM.run_throw]
      refine ⟨(nomatch ·), fun ⟨he, h1, h2⟩ => ?_⟩
      cases he
      exact absurd (hiff.mp hb) (not_or.mpr ⟨h1, h2⟩)

/-- Where every matched VM's first NIC carries a network, as CloudStack's listings do,
`verifyHosts` returns if and only if some VM is matched and all matched VMs are on one network;
it then returns their ids in listing order with that network. -/
theorem verifyHosts_single_network (nodes : List Node) (rt : Runtime) (w : World)
    (hlist : rt.fails w.log.length .listVirtualMachines = none)
    (hnics : ∀ vm ∈ matchedVMs (nodes.map nodeHostName) w.cloud.vms, vm.firstNetwork ≠ "") :
    ((∃ r, (verifyHosts nodes rt w).1 = .ok r) ↔ matchedVMs (nodes.map nodeHostName) w.cloud.vms ≠ [] ∧
        ∃ c ≠ "", ∀ vm ∈ matchedVMs (nodes.map nodeHostName) w.cloud.vms, vm.firstNetwork = c) ∧
      ∀ r, (verifyHosts nodes rt w).1 = .ok r →
        r.1 = (matchedVMs (nodes.map nodeHostName) w.cloud.vms).map VirtualMachine.id ∧
          ∀ vm ∈ matchedVMs (nodes.map nodeHostName) w.cloud.vms, vm.firstNetwork = r.2 := by
  have hok : ∀ r, (verifyHosts nodes rt w).1 = .ok r →
      matchedVMs (nodes.map nodeHostName) w.cloud.vms ≠ [] ∧ r.2 ≠ "" ∧
        r.1 = (matchedVMs (nodes.map nodeHostName) w.cloud.vms).map VirtualMachine.id ∧
        ∀ vm ∈ matchedVMs (nodes.map nodeHostName) w.cloud.vms, vm.firstNetwork = r.2 := fun r hr => by
    obtain ⟨hm, hids, hnet⟩ := (verifyHosts_listed nodes rt w hlist).mp hr
    rw [matchHosts_eq] at hm
    generalize matchedVMs (nodes.map nodeHostName) w.cloud.vms = M at hm hnics ⊢
    split at hm
    · next hchain =>
      cases hm
      cases M with
      | nil => simp at hids
      | cons vm rest =>
        rw [List.map_cons, List.chain_cons] at hchain
        -- every matched VM is on the first one's network
        have hrest : ∀ y ∈ rest.map VirtualMachine.firstNetwork, y = vm.firstNetwork :=
          chain_networkAgrees_eq (hnics vm (List.mem_cons_self _ _))
            (by simpa using fun v hv => hnics v (List.mem_cons_of_mem _ hv)) hchain.2
        have hall : ∀ v ∈ vm :: rest, v.firstNetwork = vm.firstNetwork :=
          List.forall_mem_cons.mpr ⟨rfl, by simpa using hrest⟩
        have hlast : ((vm :: rest).map VirtualMachine.firstNetwork).getLastD "" = vm.firstNetwork :=
          getLastD_of_same "" _ (List.cons_ne_nil _ _) (by simpa using hall)
        rw [hlast] at hnet ⊢
        exact ⟨List.cons_ne_nil _ _, hnet, by simp, hall⟩
    · cases hm
  refine ⟨⟨fun ⟨r, hr⟩ => ?_, fun ⟨hne, c, hc, hsame⟩ => ⟨_, verifyHosts_of_same_network nodes rt w c hlist hc hne hsame⟩⟩,
    fun r hr => (hok r hr).2.2⟩
  obtain ⟨hne, hnet, -, hsame⟩ := hok r hr
  exact ⟨hne, r.2, hnet, hsame⟩

theorem verifyHosts_single_network_on_two_nodes :
    (Runtime.reliable .inOrder).fails 0 .listVirtualMachines = none ∧
      (∀ vm ∈ matchedVMs ([⟨"node-a"⟩, ⟨"node-b"⟩].map nodeHostName)
        [⟨"vm-a", "node-a", [⟨"net-1"⟩]⟩, ⟨"vm-b", "node-b", [⟨"net-2"⟩]⟩], vm.firstNetwork ≠ "") ∧
      (((∃ r, (verifyHosts [⟨"node-a"⟩, ⟨"node-b"⟩] (Runtime.reliable .inOrder)
          (World.init (Cloud.empty [] [⟨"vm-a", "node-a", [⟨"net-1"⟩]⟩, ⟨"vm-b", "node-b", [⟨"net-2"⟩]⟩]))).1 = .ok r) ↔
        matchedVMs ([⟨"node-a"⟩, ⟨"node-b"⟩].map nodeHostName)
            [⟨"vm-a", "node-a", [⟨"net-1"⟩]⟩, ⟨"vm-b", "node-b", [⟨"net-2"⟩]⟩] ≠ [] ∧
          ∃ c ≠ "", ∀ vm ∈ matchedVMs ([⟨"node-a"⟩, ⟨"node-b"⟩].map nodeHostName)
            [⟨"vm-a", "node-a", [⟨"net-1"⟩]⟩, ⟨"vm-b", "node-b", [⟨"net-2"⟩]⟩], vm.firstNetwork = c) ∧
        ∀ r, (verifyHosts [⟨"node-a"⟩, ⟨"node-b"⟩] (Runtime.reliable .inOrder)
          (World.init (Cloud.empty [] [⟨"vm-a", "node-a", [⟨"net-1"⟩]⟩, ⟨"vm-b", "node-b", [⟨"net-2"⟩]⟩]))).1 = .ok r →
          r.1 = (matchedVMs ([⟨"node-a"⟩, ⟨"node-b"⟩].map nodeHostName)
            [⟨"vm-a", "node-a", [⟨"net-1"⟩]⟩, ⟨"vm-b", "node-b", [⟨"net-2"⟩]⟩]).map VirtualMachine.id ∧
          ∀ vm ∈ matchedVMs ([⟨"node-a"⟩, ⟨"node-b"⟩].map nodeHostName)
            [⟨"vm-a", "node-a", [⟨"net-1"⟩]⟩, ⟨"vm-b", "node-b", [⟨"net-2"⟩]⟩], vm.firstNetwork = r.2) :=
  ⟨rfl, by decide, verifyHosts_single_network _ _ _ rfl (by decide)⟩

/-! ### The public IP -/

def getPublicIPAddress (lb : LoadBalancer) (loadBalancerIP : String) : CloudM LoadBalancer := do
  let l ← withPrefix "error retrieving IP address: " (Client.listPublicIpAddresses loadBalancerIP)
  match l with
  | [ip] => pure { lb with ipAddr := ip.ipaddress, ipAddrID := ip.id }
  | _ => throw ("could not find IP address " ++ loadBalancerIP)

/-- A new address, on the network's VPC when it has one, else on the network. -/
def associatePublicIPAddress (lb : LoadBalancer) : CloudM LoadBalancer := do
  let network ← withPrefix "error retrieving network: " (Client.getNetworkByID lb.networkID)
  match network with
  | none => throw ("could not find network " ++ lb.networkID)
  | some network =>
    let r ← withPrefix "error associating new IP address: "
      (if network.vpcid ≠ "" then Client.associateIpAddress network.vpcid ""
       else Client.associateIpAddress "" lb.networkID)
    pure { lb with ipAddr := r.ipaddress, ipAddrID := r.id }

def getLoadBalancerIP (lb : LoadBalancer) (loadBalancerIP : String) : CloudM LoadBalancer :=
  if loadBalancerIP ≠ "" then getPublicIPAddress lb loadBalancerIP else associatePublicIPAddress lb

def releaseLoadBalancerIP (lb : LoadBalancer) : CloudM Unit :=
  withPrefix ("error releasing load balancer IP " ++ lb.ipAddr ++ ": ") (Client.disassociateIpAddress lb.ipAddrID)

/-! ### Rules -/

def deleteLoadBalancerRule (lb : LoadBalancer) (lbRule : LoadBalancerRule) : CloudM LoadBalancer := do
  withPrefix ("error deleting load balancer rule " ++ lbRule.name ++ ": ") (Client.deleteLoadBalancerRule lbRule.id)
  pure (lb.dropRule lbRule.name)

/-- The rule of the name, if any, and whether it needs an update; a rule whose address or ports
differ is deleted so that it can be created again. -/
def checkLoadBalancerRule (lb : LoadBalancer) (lbRuleName : String) (port : ServicePort)
    (protocol : LoadBalancerProtocol) : CloudM (Option LoadBalancerRule × Bool × LoadBalancer) :=
  match lb.rule? lbRuleName with
  | none => pure (none, false, lb)
  | some lbRule =>
    if lbRule.publicip = lb.ipAddr ∧ lbRule.privateport = itoa port.nodePort.toInt ∧
        lbRule.publicport = itoa port.port.toInt then
      pure (some lbRule, lbRule.algorithm != lb.algorithm || lbRule.protocol != protocol.csProtocol, lb)
    else do
      let lb ← deleteLoadBalancerRule lb lbRule
      pure (none, false, lb)

/-- Go dereferences `lb.rules[lbRuleName]` unchecked; callers only pass names of the map. -/
def updateLoadBalancerRule (lb : LoadBalancer) (lbRuleName : String) (protocol : LoadBalancerProtocol) :
    CloudM Unit :=
  match lb.rule? lbRuleName with
  | none => throw "runtime error: invalid memory address or nil pointer dereference"
  | some lbRule => Client.updateLoadBalancerRule lbRule.id lb.algorithm protocol.csProtocol

def createLoadBalancerRule (lb : LoadBalancer) (lbRuleName : String) (port : ServicePort)
    (protocol : LoadBalancerProtocol) : CloudM LoadBalancerRule :=
  withPrefix ("error creating load balancer rule " ++ lbRuleName ++ ": ")
    (Client.createLoadBalancerRule lb.algorithm lbRuleName port.nodePort.toInt port.port.toInt lb.networkID
      lb.ipAddrID protocol.csProtocol)

def assignHostsToRule (lbRule : LoadBalancerRule) (hostIDs : List String) : CloudM Unit :=
  withPrefix ("error assigning hosts to load balancer rule " ++ lbRule.name ++ ": ")
    (Client.assignToLoadBalancerRule lbRule.id hostIDs)

def removeHostsFromRule (lbRule : LoadBalancerRule) (hostIDs : List String) : CloudM Unit :=
  withPrefix ("error removing hosts from load balancer rule " ++ lbRule.name ++ ": ")
    (Client.removeFromLoadBalancerRule lbRule.id hostIDs)

end CloudStackLB
