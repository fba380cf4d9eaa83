import Mathlib.Data.List.Pairwise
import CloudStackLB.Service
import Mathlib.Data.List.Nodup

/-! # The CloudStack platform as the provider sees it

The remote state the provider converges (load-balancer rules with their assigned virtual
machines, firewall rules, associated public IP addresses, networks and virtual machines), the
typed calls of the cloudstack-go client it issues, and the monad the provider's code runs in.

A run is a function of a `Runtime`: the platform may fail any call (`fails`, given the number
of calls issued before it and the call) and Go visits every map in an order of its own
(`sched`). Every theorem quantifies over both. A call that fails has no effect; a call that
succeeds has the effect CloudStack gives it, including the removal of every rule on an IP
address when that address is released. Two behaviours of CloudStack itself are part of the
platform: `listLoadBalancerRules` filters by SQL `LIKE '%keyword%'` on the name or the
description, and `createLoadBalancerRule` is refused when another load-balancer rule holds the
public port on the same address (`detectRulesConflict`), so no two stored rules ever do.
-/

namespace CloudStackLB

/-! ### Records -/

/-- `cloudstack.LoadBalancerRule` as the client returns it (the fields the provider reads). -/
structure LoadBalancerRule where
  id : String
  name : String
  algorithm : String
  protocol : String
  publicip : String
  publicipid : String
  privateport : String
  publicport : String
  deriving DecidableEq, Repr

/-- A load-balancer rule as the platform stores it, with the virtual machines assigned to it;
its address is that of its IP id. -/
structure LbRow where
  id : String
  name : String
  description : String
  algorithm : String
  protocol : String
  publicipid : String
  privateport : String
  publicport : String
  instances : List String
  deriving DecidableEq, Repr

/-- `cloudstack.FirewallRule`: the fields the provider reads. -/
structure FirewallRule where
  id : String
  ipaddressid : String
  protocol : String
  startport : Int
  endport : Int
  cidrlist : String
  deriving DecidableEq, Repr

/-- `cloudstack.PublicIpAddress`: an address associated to the account. -/
structure PublicIpAddress where
  id : String
  ipaddress : String
  deriving DecidableEq, Repr

/-- `cloudstack.Network`: its VPC (empty when none) and the names of the services it offers. -/
structure Network where
  id : String
  vpcid : String
  service : List String
  deriving DecidableEq, Repr

/-- `cloudstack.Nic`: the network it is attached to. -/
structure Nic where
  networkid : String
  deriving DecidableEq, Repr

/-- `cloudstack.VirtualMachine` as listed with details `min` and `nics`. -/
structure VirtualMachine where
  id : String
  name : String
  nic : List Nic
  deriving DecidableEq, Repr

/-- A text longer than every text of `used`, hence not one of them: how the platform makes a
new identifier or address. -/
def fresh (used : List String) : String :=
  ⟨List.replicate (used.foldr (fun s n => max s.length n) 0 + 1) '0'⟩

theorem length_fresh (used : List String) : (fresh used).length = used.foldr (fun s n => max s.length n) 0 + 1 :=
  List.length_replicate _ _

theorem length_le_fresh (used : List String) : ∀ s ∈ used, s.length < (fresh used).length := by
  rw [length_fresh]
  induction used with
  | nil => simp
  | cons t ts ih =>
    intro s hs
    rw [List.foldr_cons]
    rcases List.mem_cons.mp hs with rfl | hs
    · omega
    · have := ih s hs
      omega

theorem fresh_not_mem (used : List String) : fresh used ∉ used :=
  fun h => Nat.lt_irrefl _ (length_le_fresh used _ h)

theorem nodup_append_fresh (used : List String) (h : used.Nodup) : (used ++ [fresh used]).Nodup :=
  List.nodup_append.mpr ⟨h, List.nodup_singleton _, by simpa using fresh_not_mem used⟩

theorem fresh_ne_empty (used : List String) : fresh used ≠ "" := fun h => by
  simpa [fresh] using congrArg String.data h

/-! ### The keyword filter -/

/-- Whether `f` holds of some suffix of `s`: where a `%` of a pattern may stop matching. -/
def anySuffix (f : List Char → Bool) : List Char → Bool
  | [] => f []
  | d :: s => f (d :: s) || anySuffix f s

/-- SQL `LIKE` of a pattern on a text: `%` matches any text, `_` any one character and every
other character itself. -/
def likeMatch : List Char → List Char → Bool
  | [], s => s.isEmpty
  | c :: p, s =>
    if c = '%' then anySuffix (likeMatch p) s
    else match s with
      | [] => false
      | d :: s => (decide (c = '_') || decide (c = d)) && likeMatch p s

/-- CloudStack's `keyword` filter: `name LIKE '%keyword%' OR description LIKE '%keyword%'`. -/
def keywordMatches (keyword : String) (r : LbRow) : Bool :=
  likeMatch ('%' :: (keyword.data ++ ['%'])) r.name.data ||
    likeMatch ('%' :: (keyword.data ++ ['%'])) r.description.data

theorem anySuffix_of_suffix {f : List Char → Bool} {t : List Char} (ht : f t = true) :
    ∀ {s : List Char}, t <:+ s → anySuffix f s = true
  | [], h => by rw [List.suffix_nil.mp h] at ht; exact ht
  | d :: s, h => by
    rcases List.suffix_cons_iff.mp h with rfl | h
    · simp [anySuffix, ht]
    · simp [anySuffix, anySuffix_of_suffix ht h]

theorem likeMatch_append_percent (p s : List Char) : likeMatch (p ++ ['%']) (p ++ s) = true := by
  induction p with
  | nil => exact anySuffix_of_suffix (t := []) rfl List.nil_suffix
  | cons c p ih =>
    by_cases hc : c = '%'
    · simp only [List.cons_append, likeMatch, if_pos hc]
      exact anySuffix_of_suffix ih (List.suffix_cons _ _)
    · simp [likeMatch, hc, ih]

/-- A rule whose name holds the keyword is listed under it. -/
theorem keywordMatches_of_infix {keyword : String} {r : LbRow} (h : keyword.data <:+: r.name.data) :
    keywordMatches keyword r = true := by
  obtain ⟨a, b, hab⟩ := h
  have hl : likeMatch ('%' :: (keyword.data ++ ['%'])) r.name.data = true := by
    rw [← hab, List.append_assoc]
    exact anySuffix_of_suffix (likeMatch_append_percent _ _) (List.suffix_append _ _)
  simp [keywordMatches, hl]

/-! ### Conflicting rules -/

/-- Two stored rules hold one public port of one address, which CloudStack's
`detectRulesConflict` refuses between load-balancer rules whatever their protocols. -/
def PortsClash (r r' : LbRow) : Prop :=
  r.publicipid = r'.publicipid ∧ parseInt32 r.publicport = parseInt32 r'.publicport

instance (r r' : LbRow) : Decidable (PortsClash r r') := inferInstanceAs (Decidable (_ ∧ _))

theorem portsClash_congr {r r' s s' : LbRow} (hr : s.publicipid = r.publicipid ∧ s.publicport = r.publicport)
    (hr' : s'.publicipid = r'.publicipid ∧ s'.publicport = r'.publicport) :
    PortsClash s s' ↔ PortsClash r r' := by
  rw [PortsClash, PortsClash, hr.1, hr.2, hr'.1, hr'.2]

theorem PortsClash.symm {r r' : LbRow} (h : PortsClash r r') : PortsClash r' r := ⟨h.1.symm, h.2.symm⟩

/-- The text of CloudStack's `NetworkRuleConflictException` for a new rule on `publicPort`
against the stored rule `r`. -/
def conflictMessage (publicPort : Int) (r : LbRow) : String :=
  "The range specified, " ++ itoa publicPort ++ "-" ++ itoa publicPort ++ ", conflicts with rule " ++
    r.id ++ " which has " ++ r.publicport ++ "-" ++ r.publicport

/-! ### The platform state -/

/-- The platform state. Identifiers are unique in each table, addresses among the associated
IPs, and no two load-balancer rules hold one public port of one address, as CloudStack keeps
them. -/
@[ext]
structure Cloud where
  lbRules : List LbRow
  fwRules : List FirewallRule
  ips : List PublicIpAddress
  networks : List Network
  vms : List VirtualMachine
  lbRules_nodup : (lbRules.map LbRow.id).Nodup
  fwRules_nodup : (fwRules.map FirewallRule.id).Nodup
  ips_nodup : (ips.map PublicIpAddress.id).Nodup
  addresses_nodup : (ips.map PublicIpAddress.ipaddress).Nodup
  lbRules_ports : lbRules.Pairwise fun r r' => ¬ PortsClash r r'

namespace Cloud

variable (c : Cloud)

/-- Two stored load-balancer rules that hold one public port of one address are the same rule. -/
theorem eq_of_portsClash {r r' : LbRow} (hr : r ∈ c.lbRules) (hr' : r' ∈ c.lbRules) (h : PortsClash r r') :
    r = r' := by
  by_contra hne
  have hsymm : Symmetric fun r r' : LbRow => ¬ PortsClash r r' := fun _ _ h h' => h h'.symm
  exact c.lbRules_ports.forall hsymm hr hr' hne h

/-- The address of an associated IP id, empty when there is none. -/
def addressOf (ipid : String) : String :=
  ((c.ips.find? (·.id = ipid)).map PublicIpAddress.ipaddress).getD ""

theorem addressOf_ne_empty {ipid : String} (h : ipid ∈ c.ips.map PublicIpAddress.id)
    (haddr : ∀ ip ∈ c.ips, ip.ipaddress ≠ "") : c.addressOf ipid ≠ "" := by
  unfold addressOf
  cases hf : c.ips.find? (·.id = ipid) with
  | none =>
    obtain ⟨ip, hip, rfl⟩ := List.mem_map.mp h
    simpa using List.find?_eq_none.mp hf ip hip
  | some ip => simpa using haddr ip (List.mem_of_find?_eq_some hf)

/-- How the client returns a stored rule. -/
def view (r : LbRow) : LoadBalancerRule :=
  ⟨r.id, r.name, r.algorithm, r.protocol, c.addressOf r.publicipid, r.publicipid, r.privateport,
    r.publicport⟩

def listLoadBalancerRules (keyword : String) : List LoadBalancerRule :=
  (c.lbRules.filter (keywordMatches keyword)).map c.view

/-- The rule a `CreateLoadBalancerRule` stores: the provider sets no description. -/
def newRow (algorithm name : String) (privatePort publicPort : Int) (publicipid protocol : String) : LbRow :=
  ⟨fresh (c.lbRules.map LbRow.id), name, "", algorithm, protocol, publicipid, itoa privatePort,
    itoa publicPort, []⟩

/-- The platform with one more rule, whose id and whose address and port no stored rule has. -/
def addRow (row : LbRow) (hid : row.id ∉ c.lbRules.map LbRow.id)
    (hport : ∀ r ∈ c.lbRules, ¬ PortsClash r row) : Cloud :=
  { c with
    lbRules := c.lbRules ++ [row]
    lbRules_nodup := by simpa using List.nodup_append.mpr ⟨c.lbRules_nodup, List.nodup_singleton _, by simpa using hid⟩
    lbRules_ports := List.pairwise_append.mpr ⟨c.lbRules_ports, List.pairwise_singleton _ _,
      fun r hr r' hr' => List.mem_singleton.mp hr' ▸ hport r hr⟩ }

/-- `CreateLoadBalancerRule`: refused when a stored rule holds the public port on the address. -/
def createLoadBalancerRule (algorithm name : String) (privatePort publicPort : Int)
    (publicipid protocol : String) : Except String (LoadBalancerRule × Cloud) :=
  let row := c.newRow algorithm name privatePort publicPort publicipid protocol
  match h : c.lbRules.find? (fun r => decide (PortsClash r row)) with
  | some r => .error (conflictMessage publicPort r)
  | none => .ok (c.view row, c.addRow row (fresh_not_mem _) fun r hr => by
      simpa using List.find?_eq_none.mp h r hr)

theorem createLoadBalancerRule_ok {algorithm name : String} {privatePort publicPort : Int}
    {publicipid protocol : String} {a : LoadBalancerRule} {c' : Cloud}
    (h : c.createLoadBalancerRule algorithm name privatePort publicPort publicipid protocol = .ok (a, c')) :
    ∃ hid hport, a = c.view (c.newRow algorithm name privatePort publicPort publicipid protocol) ∧
      c' = c.addRow (c.newRow algorithm name privatePort publicPort publicipid protocol) hid hport := by
  simp only [createLoadBalancerRule] at h
  split at h
  · cases h
  · cases h
    exact ⟨_, _, rfl, rfl⟩

/-- A create whose address and public port a stored rule holds is refused. -/
theorem createLoadBalancerRule_refused {algorithm name : String} {privatePort publicPort : Int}
    {publicipid protocol : String} {r : LbRow} (hr : r ∈ c.lbRules) (hip : r.publicipid = publicipid)
    (hport : r.publicport = itoa publicPort) {a : LoadBalancerRule} {c' : Cloud} :
    c.createLoadBalancerRule algorithm name privatePort publicPort publicipid protocol ≠ .ok (a, c') := fun h => by
  obtain ⟨-, hclash, -⟩ := c.createLoadBalancerRule_ok h
  exact hclash r hr ⟨hip, by rw [hport]; rfl⟩

/-- Applies `f` to the stored rule with id `id`; `f` keeps the rule's id, address and port. -/
def modifyRow (id : String) (f : LbRow → LbRow) (hf : ∀ r, (f r).id = r.id)
    (hk : ∀ r, (f r).publicipid = r.publicipid ∧ (f r).publicport = r.publicport) : Cloud :=
  { c with
    lbRules := c.lbRules.map (fun r => if r.id = id then f r else r)
    lbRules_nodup := by
      have : (c.lbRules.map fun r => if r.id = id then f r else r).map LbRow.id = c.lbRules.map LbRow.id := by
        simp only [List.map_map]
        exact List.map_congr_left (fun r _ => by by_cases h : r.id = id <;> simp [h, hf])
      rw [this]
      exact c.lbRules_nodup
    lbRules_ports := by
      have hg : ∀ r, (if r.id = id then f r else r).publicipid = r.publicipid ∧
          (if r.id = id then f r else r).publicport = r.publicport := fun r => by
        split_ifs
        exacts [hk r, ⟨rfl, rfl⟩]
      exact c.lbRules_ports.map _ fun a b h => (portsClash_congr (hg a) (hg b)).not.mpr h }

def updateLoadBalancerRule (id algorithm protocol : String) : Cloud :=
  c.modifyRow id (fun r => { r with algorithm, protocol }) (fun _ => rfl) fun _ => ⟨rfl, rfl⟩

def assignToLoadBalancerRule (id : String) (vms : List String) : Cloud :=
  c.modifyRow id (fun r => { r with instances := r.instances ++ vms }) (fun _ => rfl) fun _ => ⟨rfl, rfl⟩

def removeFromLoadBalancerRule (id : String) (vms : List String) : Cloud :=
  c.modifyRow id (fun r => { r with instances := r.instances.filter (· ∉ vms) }) (fun _ => rfl)
    fun _ => ⟨rfl, rfl⟩

def listLoadBalancerRuleInstances (id : String) : List String :=
  ((c.lbRules.find? (·.id = id)).map LbRow.instances).getD []

def deleteLoadBalancerRule (id : String) : Cloud :=
  { c with
    lbRules := c.lbRules.filter (·.id ≠ id)
    lbRules_nodup := c.lbRules_nodup.sublist ((List.filter_sublist _).map _)
    lbRules_ports := c.lbRules_ports.sublist (List.filter_sublist _) }

def listFirewallRules (ipaddressid : String) : List FirewallRule :=
  c.fwRules.filter (·.ipaddressid = ipaddressid)

/-- The rule a `CreateFirewallRule` adds; its CIDR list is listed as the comma join. -/
def newFirewallRule (ipaddressid protocol : String) (cidrlist : List String) (startport endport : Int) :
    FirewallRule :=
  ⟨fresh (c.fwRules.map FirewallRule.id), ipaddressid, protocol, startport, endport, joinComma cidrlist⟩

def createFirewallRule (ipaddressid protocol : String) (cidrlist : List String) (startport endport : Int) :
    Cloud :=
  { c with
    fwRules := c.fwRules ++ [c.newFirewallRule ipaddressid protocol cidrlist startport endport]
    fwRules_nodup := by simpa [newFirewallRule] using nodup_append_fresh _ c.fwRules_nodup }

def deleteFirewallRule (id : String) : Cloud :=
  { c with
    fwRules := c.fwRules.filter (·.id ≠ id)
    fwRules_nodup := c.fwRules_nodup.sublist ((List.filter_sublist _).map _) }

/-- The platform after deleting the firewall rules with the given ids, one after the other. -/
def deleteFirewallRules (ids : List String) : Cloud := ids.foldl Cloud.deleteFirewallRule c

theorem deleteFirewallRules_fwRules (ids : List String) :
    (c.deleteFirewallRules ids).fwRules = c.fwRules.filter (fun r => r.id ∉ ids) := by
  induction ids generalizing c with
  | nil => simp [deleteFirewallRules]
  | cons id ids ih =>
    simp only [deleteFirewallRules, List.foldl_cons] at ih ⊢
    rw [ih, deleteFirewallRule, List.filter_filter]
    congr 1
    funext r
    simp [Bool.and_comm]

theorem deleteFirewallRules_lbRules (ids : List String) : (c.deleteFirewallRules ids).lbRules = c.lbRules := by
  induction ids generalizing c with
  | nil => rfl
  | cons id ids ih => exact ih _

theorem deleteFirewallRules_ips (ids : List String) : (c.deleteFirewallRules ids).ips = c.ips := by
  induction ids generalizing c with
  | nil => rfl
  | cons id ids ih => exact ih _

def listPublicIpAddresses (ipaddress : String) : List PublicIpAddress :=
  c.ips.filter (·.ipaddress = ipaddress)

/-- The address a new association gets. -/
def newAddress : PublicIpAddress :=
  ⟨fresh (c.ips.map PublicIpAddress.id), fresh (c.ips.map PublicIpAddress.ipaddress)⟩

def associateIpAddress : PublicIpAddress × Cloud :=
  (c.newAddress,
    { c with
      ips := c.ips ++ [c.newAddress]
      ips_nodup := by simpa [newAddress] using nodup_append_fresh _ c.ips_nodup
      addresses_nodup := by simpa [newAddress] using nodup_append_fresh _ c.addresses_nodup })

/-- Releasing an address also removes every load-balancer and firewall rule on it. -/
def disassociateIpAddress (id : String) : Cloud :=
  { c with
    ips := c.ips.filter (·.id ≠ id)
    lbRules := c.lbRules.filter (·.publicipid ≠ id)
    fwRules := c.fwRules.filter (·.ipaddressid ≠ id)
    lbRules_nodup := c.lbRules_nodup.sublist ((List.filter_sublist _).map _)
    fwRules_nodup := c.fwRules_nodup.sublist ((List.filter_sublist _).map _)
    lbRules_ports := c.lbRules_ports.sublist (List.filter_sublist _)
    ips_nodup := c.ips_nodup.sublist ((List.filter_sublist _).map _)
    addresses_nodup := c.addresses_nodup.sublist ((List.filter_sublist _).map _) }

def getNetworkByID (id : String) : Option Network := c.networks.find? (·.id = id)

end Cloud

/-- A platform with no rules and no addresses, on the given networks and VMs. -/
def Cloud.empty (networks : List Network) (vms : List VirtualMachine) : Cloud :=
  ⟨[], [], [], networks, vms, List.nodup_nil, List.nodup_nil, List.nodup_nil, List.nodup_nil,
    List.Pairwise.nil⟩

/-! ### Calls, runtime and the provider's monad -/

/-- A call of the cloudstack-go client (with the parameters the provider sets), or the
Kubernetes patch of a Service's annotations. -/
inductive Call where
  | listLoadBalancerRules (keyword : String)
  | createLoadBalancerRule (algorithm name : String) (privatePort publicPort : Int)
      (networkid publicipid protocol : String)
  | updateLoadBalancerRule (id algorithm protocol : String)
  | deleteLoadBalancerRule (id : String)
  | assignToLoadBalancerRule (id : String) (vms : List String)
  | removeFromLoadBalancerRule (id : String) (vms : List String)
  | listLoadBalancerRuleInstances (id : String)
  | listFirewallRules (ipaddressid : String)
  | createFirewallRule (ipaddressid protocol : String) (cidrlist : List String) (startport endport : Int)
  | deleteFirewallRule (id : String)
  | listPublicIpAddresses (ipaddress : String)
  | associateIpAddress (vpcid networkid : String)
  | disassociateIpAddress (id : String)
  | getNetworkByID (id : String)
  | listVirtualMachines
  | patchService (annotations : List (String × String))
  deriving DecidableEq, Repr

/-- The calls that change the platform's state. -/
def Call.mutating : Call → Bool
  | .createLoadBalancerRule .. | .updateLoadBalancerRule .. | .deleteLoadBalancerRule ..
  | .assignToLoadBalancerRule .. | .removeFromLoadBalancerRule .. | .createFirewallRule ..
  | .deleteFirewallRule .. | .associateIpAddress .. | .disassociateIpAddress .. => true
  | _ => false

/-- What a run cannot choose: which calls the platform fails (with its error text), given
how many calls came before, and the order of every map loop. -/
structure Runtime where
  fails : Nat → Call → Option String
  sched : Schedule

/-- A platform on which every call succeeds. -/
def Runtime.reliable (sched : Schedule) : Runtime := ⟨fun _ _ => none, sched⟩

/-- The state a run changes: the platform, the calls issued so far with their success, and
the number of map loops begun. -/
structure World where
  cloud : Cloud
  log : List (Call × Bool)
  loops : Nat

/-- A run's start on the platform `c`. -/
def World.init (c : Cloud) : World := ⟨c, [], 0⟩

/-- The provider's code: it reads the runtime, changes the world, and returns or fails. -/
def CloudM (α : Type) : Type := Runtime → World → Except String α × World

instance : Monad CloudM where
  pure a := fun _ w => (.ok a, w)
  bind x f := fun rt w =>
    match x rt w with
    | (.ok a, w') => f a rt w'
    | (.error e, w') => (.error e, w')

instance : MonadExceptOf String CloudM where
  throw e := fun _ w => (.error e, w)
  tryCatch x h := fun rt w =>
    match x rt w with
    | (.error e, w') => h e rt w'
    | r => r

namespace CloudM

variable {α β : Type}

theorem run_pure (a : α) (rt : Runtime) (w : World) : (pure a : CloudM α) rt w = (.ok a, w) := rfl

theorem run_throw (e : String) (rt : Runtime) (w : World) : (throw e : CloudM α) rt w = (.error e, w) := rfl

theorem run_bind (x : CloudM α) (f : α → CloudM β) (rt : Runtime) (w : World) :
    (x >>= f) rt w = match x rt w with
      | (.ok a, w') => f a rt w'
      | (.error e, w') => (.error e, w') := rfl

theorem bind_error {x : CloudM α} {f : α → CloudM β} {rt : Runtime} {w w' : World} {e : String}
    (h : x rt w = (.error e, w')) : (x >>= f) rt w = (.error e, w') := by
  rw [run_bind, h]

end CloudM

/-- One call to the platform: the runtime decides whether it fails; otherwise the platform
answers and changes its state by `op`. The call is logged either way. -/
def remote {α : Type} (c : Call) (op : Cloud → α × Cloud) : CloudM α := fun rt w =>
  match rt.fails w.log.length c with
  | some e => (.error e, { w with log := w.log ++ [(c, false)] })
  | none => (.ok (op w.cloud).1, { w with cloud := (op w.cloud).2, log := w.log ++ [(c, true)] })

/-- A call the platform itself may refuse: past the runtime, `op` gives CloudStack's error, or its
answer and new state. A refused call is logged as failed and changes nothing. -/
def remoteTry {α : Type} (c : Call) (op : Cloud → Except String (α × Cloud)) : CloudM α := fun rt w =>
  match rt.fails w.log.length c, op w.cloud with
  | some e, _ => (.error e, { w with log := w.log ++ [(c, false)] })
  | none, .error e => (.error e, { w with log := w.log ++ [(c, false)] })
  | none, .ok (a, cl) => (.ok a, { w with cloud := cl, log := w.log ++ [(c, true)] })

/-- A read-only call. -/
def query {α : Type} (c : Call) (answer : Cloud → α) : CloudM α := remote c fun cl => (answer cl, cl)

theorem remote_ok {α : Type} {c : Call} {op : Cloud → α × Cloud} {rt : Runtime} {w : World}
    (h : rt.fails w.log.length c = none) :
    remote c op rt w = (.ok (op w.cloud).1, { w with cloud := (op w.cloud).2, log := w.log ++ [(c, true)] }) := by
  simp [remote, h]

theorem remote_fail {α : Type} {c : Call} {op : Cloud → α × Cloud} {rt : Runtime} {w : World} {e : String}
    (h : rt.fails w.log.length c = some e) :
    remote c op rt w = (.error e, { w with log := w.log ++ [(c, false)] }) := by
  simp [remote, h]

/-- Go's `for ... range` over a map: the entries in the order the runtime picks. -/
def rangeOver {α : Type} (l : List α) : CloudM (List α) := fun rt w =>
  (.ok (rt.sched.visit w.loops l), { w with loops := w.loops + 1 })

/-- Runs `x` and returns its error instead of failing, as Go code that logs and continues. -/
def attempt (x : CloudM Unit) : CloudM (Option String) := fun rt w =>
  match x rt w with
  | (.ok _, w') => (.ok none, w')
  | (.error e, w') => (.ok (some e), w')

/-- Runs `x` and returns its result or its error as a value, as Go code that inspects `err`. -/
def outcome {α : Type} (x : CloudM α) : CloudM (Except String α) := fun rt w =>
  match x rt w with
  | (r, w') => (.ok r, w')

/-- `fmt.Errorf(pre + "%w", err)`: the error of `x`, behind a prefix. -/
def withPrefix {α : Type} (pre : String) (x : CloudM α) : CloudM α := fun rt w =>
  match x rt w with
  | (.error e, w') => (.error (pre ++ e), w')
  | r => r

/-! ### The client's calls -/

namespace Client

def listLoadBalancerRules (keyword : String) : CloudM (List LoadBalancerRule) :=
  query (.listLoadBalancerRules keyword) (·.listLoadBalancerRules keyword)

def createLoadBalancerRule (algorithm name : String) (privatePort publicPort : Int)
    (networkid publicipid protocol : String) : CloudM LoadBalancerRule :=
  remoteTry (.createLoadBalancerRule algorithm name privatePort publicPort networkid publicipid protocol)
    (·.createLoadBalancerRule algorithm name privatePort publicPort publicipid protocol)

def updateLoadBalancerRule (id algorithm protocol : String) : CloudM Unit :=
  remote (.updateLoadBalancerRule id algorithm protocol) fun c => ((), c.updateLoadBalancerRule id algorithm protocol)

def deleteLoadBalancerRule (id : String) : CloudM Unit :=
  remote (.deleteLoadBalancerRule id) fun c => ((), c.deleteLoadBalancerRule id)

def assignToLoadBalancerRule (id : String) (vms : List String) : CloudM Unit :=
  remote (.assignToLoadBalancerRule id vms) fun c => ((), c.assignToLoadBalancerRule id vms)

def removeFromLoadBalancerRule (id : String) (vms : List String) : CloudM Unit :=
  remote (.removeFromLoadBalancerRule id vms) fun c => ((), c.removeFromLoadBalancerRule id vms)

def listLoadBalancerRuleInstances (id : String) : CloudM (List String) :=
  query (.listLoadBalancerRuleInstances id) (·.listLoadBalancerRuleInstances id)

def listFirewallRules (ipaddressid : String) : CloudM (List FirewallRule) :=
  query (.listFirewallRules ipaddressid) (·.listFirewallRules ipaddressid)

def createFirewallRule (ipaddressid protocol : String) (cidrlist : List String) (startport endport : Int) :
    CloudM Unit :=
  remote (.createFirewallRule ipaddressid protocol cidrlist startport endport)
    fun c => ((), c.createFirewallRule ipaddressid protocol cidrlist startport endport)

def deleteFirewallRule (id : String) : CloudM Unit :=
  remote (.deleteFirewallRule id) fun c => ((), c.deleteFirewallRule id)

def listPublicIpAddresses (ipaddress : String) : CloudM (List PublicIpAddress) :=
  query (.listPublicIpAddresses ipaddress) (·.listPublicIpAddresses ipaddress)

def associateIpAddress (vpcid networkid : String) : CloudM PublicIpAddress :=
  remote (.associateIpAddress vpcid networkid) (·.associateIpAddress)

def disassociateIpAddress (id : String) : CloudM Unit :=
  remote (.disassociateIpAddress id) fun c => ((), c.disassociateIpAddress id)

/-- `GetNetworkByID`: `none` when no network has the id (the client's count 0). -/
def getNetworkByID (id : String) : CloudM (Option Network) :=
  query (.getNetworkByID id) (·.getNetworkByID id)

def listVirtualMachines : CloudM (List VirtualMachine) :=
  query .listVirtualMachines (·.vms)

end Client

end CloudStackLB
