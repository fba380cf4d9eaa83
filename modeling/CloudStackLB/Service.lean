import CloudStackLB.Go

/-! # Kubernetes Services as the provider reads them

The `corev1.Service` fields `loadbalancer.go` reads, the annotation helpers
(`getStringFromServiceAnnotation`, `getBoolFromServiceAnnotation`, `setServiceAnnotation`,
lines 1071-1119), the source ranges of `getLoadBalancerSourceRanges` (lines 1042-1069), the
protocol mapper, and the two names a Service's load balancer is looked up by
(`GetLoadBalancerName`, `getLoadBalancerLegacyName`, lines 497-505).
-/

namespace CloudStackLB

/-- `corev1.ServicePort`: the protocol text and the two int32 ports the provider reads. -/
structure ServicePort where
  protocol : String
  port : BitVec 32
  nodePort : BitVec 32
  deriving DecidableEq, Repr

/-- `corev1.Service`: object metadata (`ns` is `Namespace`), annotations as a Go
`map[string]string`, and the spec fields the provider reads. -/
structure Service where
  name : String
  ns : String
  uid : String
  annotations : List (String × String)
  ports : List ServicePort
  sessionAffinity : String
  loadBalancerIP : String
  loadBalancerSourceRanges : List String
  deriving DecidableEq, Repr

/-- `corev1.Node`: only its name is read. -/
structure Node where
  name : String
  deriving DecidableEq, Repr

/-! ### Annotations -/

def serviceAnnotationLoadBalancerProxyProtocol : String :=
  "service.beta.kubernetes.io/cloudstack-load-balancer-proxy-protocol"
def serviceAnnotationLoadBalancerLoadbalancerHostname : String :=
  "service.beta.kubernetes.io/cloudstack-load-balancer-hostname"
def serviceAnnotationLoadBalancerAddress : String :=
  "service.beta.kubernetes.io/cloudstack-load-balancer-address"
/-- `corev1.AnnotationLoadBalancerSourceRangesKey`. -/
def annotationLoadBalancerSourceRangesKey : String :=
  "service.beta.kubernetes.io/load-balancer-source-ranges"
def defaultAllowedCIDR : String := "0.0.0.0/0"

/-- `service.Annotations[key]`, absent keys reading as `none`. -/
def Service.annotationValue (svc : Service) (key : String) : Option String := svc.annotations.lookup key

def getStringFromServiceAnnotation (svc : Service) (annotationKey defaultSetting : String) : String :=
  (svc.annotationValue annotationKey).getD defaultSetting

def getBoolFromServiceAnnotation (svc : Service) (annotationKey : String) (defaultSetting : Bool) : Bool :=
  match svc.annotationValue annotationKey with
  | some "true" => true
  | some "false" => false
  | _ => defaultSetting

/-- Setting a key of the annotation map replaces its value or adds it. -/
def setServiceAnnotation (svc : Service) (key value : String) : Service :=
  { svc with annotations := svc.annotations.filter (fun kv => kv.1 ≠ key) ++ [(key, value)] }

/-- `reflect.DeepEqual` of two annotation maps: every key reads the same in both. -/
def annotationsEqual (a b : List (String × String)) : Bool :=
  (a ++ b).all fun kv => a.lookup kv.1 == b.lookup kv.1

theorem lookup_cons_eq_ite {β : Type} (kv : String × β) (es : List (String × β)) (a : String) :
    (kv :: es).lookup a = if a = kv.1 then some kv.2 else es.lookup a := by
  obtain ⟨k, b⟩ := kv
  by_cases h : a = k
  · subst h
    simp
  · have hb : (a == k) = false := by simpa using h
    simp [List.lookup_cons, hb, h]

theorem lookup_filter_append (l : List (String × String)) (key value : String) :
    (l.filter (fun kv => kv.1 ≠ key) ++ [(key, value)]).lookup key = some value := by
  induction l with
  | nil => simp [lookup_cons_eq_ite]
  | cons kv rest ih =>
    by_cases h : kv.1 = key
    · simpa [h] using ih
    · simpa [List.filter, h, lookup_cons_eq_ite, Ne.symm h] using ih

theorem annotationValue_setServiceAnnotation (svc : Service) (key value : String) :
    ( setServiceAnnotation svc key value).annotationValue key = some value :=
  lookup_filter_append svc.annotations key value

theorem lookup_filter_append_of_ne (l : List (String × String)) {key key' : String} (value : String)
    (hne : key' ≠ key) : (l.filter (fun kv => kv.1 ≠ key) ++ [(key, value)]).lookup key' = l.lookup key' := by
  induction l with
  | nil => simp [lookup_cons_eq_ite, hne]
  | cons kv rest ih =>
    by_cases h : kv.1 = key
    · simpa [h, lookup_cons_eq_ite, hne] using ih
    · by_cases h' : key' = kv.1
      · simp [List.filter, h, lookup_cons_eq_ite, h']
      · simpa [List.filter, h, lookup_cons_eq_ite, h'] using ih

theorem annotationValue_setServiceAnnotation_of_ne (svc : Service) {key key' : String} (value : String)
    (hne : key' ≠ key) : ( setServiceAnnotation svc key value).annotationValue key' = svc.annotationValue key' :=
  lookup_filter_append_of_ne svc.annotations value hne

/-! ### Protocols -/

/-- Modelled from the spec: protocol.go is not under src/. The spec asks for "a closed
enumeration with explicit conversion functions to each of the two platform-specific wire
vocabularies (load-balancer vs firewall), rejecting anything outside {TCP, UDP, ICMP,
TCP-proxy}"; the wire names are the constants of constants.go. -/
inductive LoadBalancerProtocol where
  | tcp
  | udp
  | icmp
  | tcpProxy
  | invalid
  deriving DecidableEq, Repr

namespace LoadBalancerProtocol

/-- Modelled from the spec: the protocol's name, as `%s` prints it into a rule name. -/
def toString : LoadBalancerProtocol → String
  | tcp => "tcp"
  | udp => "udp"
  | icmp => "icmp"
  | tcpProxy => "tcp-proxy"
  | invalid => ""

/-- Modelled from the spec: the load-balancer-rule vocabulary (`ProtoTCP`, `ProtoUDP`,
`ProtoICMP`, `ProtoTCPProxy`). -/
def csProtocol : LoadBalancerProtocol → String
  | tcp => "tcp"
  | udp => "udp"
  | icmp => "icmp"
  | tcpProxy => "tcp-proxy"
  | invalid => ""

/-- Modelled from the spec: the firewall-rule vocabulary, where a proxied TCP port is TCP. -/
def ipProtocol : LoadBalancerProtocol → String
  | tcp => "tcp"
  | udp => "udp"
  | icmp => "icmp"
  | tcpProxy => "tcp"
  | invalid => ""

end LoadBalancerProtocol

/-- Modelled from the spec: the load-balancer protocol of a Service port; TCP becomes
TCP-proxy when the proxy-protocol annotation is "true". -/
def protocolFromServicePort (port : ServicePort) (svc : Service) : LoadBalancerProtocol :=
  let proxy := getBoolFromServiceAnnotation svc serviceAnnotationLoadBalancerProxyProtocol false
  if port.protocol = "TCP" then (if proxy then .tcpProxy else .tcp)
  else if port.protocol = "UDP" then .udp
  else .invalid

/-- Modelled from the spec: the protocol of a load-balancer rule as CloudStack lists it. -/
def protocolFromLoadBalancer (protocol : String) : LoadBalancerProtocol :=
  if protocol = "tcp" then .tcp
  else if protocol = "udp" then .udp
  else if protocol = "icmp" then .icmp
  else if protocol = "tcp-proxy" then .tcpProxy
  else .invalid

/-! ### Source ranges -/

/-- `utilnet.ParseIPNets` followed by `IPNetSet.StringSlice` (k8s.io/utils/net): the set of the
parsed networks in their canonical text, in Go's map order. The library is not part of this
repository, so the model takes it as a parameter with the properties the provider relies on. -/
structure IPNetParser where
  parse : List String → Except String (List String)
  nets_text : ∀ specs nets, parse specs = .ok nets → ∀ n ∈ nets, n ≠ "" ∧ ',' ∉ n.data
  nets_nodup : ∀ specs nets, parse specs = .ok nets → nets.Nodup
  nets_ne_nil : ∀ specs nets, parse specs = .ok nets → specs ≠ [] → nets ≠ []
  parse_allow_all : parse [defaultAllowedCIDR] = .ok [defaultAllowedCIDR]

/-- A parser that takes the ranges as written when they are non-empty, comma-free and distinct:
the inputs of the runs on fixed inputs use it. -/
def IPNetParser.literal : IPNetParser where
  parse specs := if specs.all (fun s => s ≠ "" && ',' ∉ s.data) && decide specs.Nodup then .ok specs
    else .error "invalid CIDR address"
  nets_text specs nets h := by
    dsimp only at h
    split at h
    · next hall => cases h; simpa using (by simpa using hall : _ ∧ _).1
    · cases h
  nets_nodup specs nets h := by
    dsimp only at h
    split at h
    · next hall => cases h; exact (by simpa using hall : _ ∧ _).2
    · cases h
  nets_ne_nil specs nets h hne := by
    dsimp only at h
    split at h
    · cases h; exact hne
    · cases h
  parse_allow_all := by decide

/-- `%v` of a `[]string`. -/
def formatList (l : List String) : String := "[" ++ " ".intercalate l ++ "]"

/-- The allowed source ranges: the spec field when set, else the annotation, else allow-all. -/
def getLoadBalancerSourceRanges (nets : IPNetParser) (svc : Service) : Except String (List String) :=
  if svc.loadBalancerSourceRanges.length > 0 then
    match nets.parse svc.loadBalancerSourceRanges with
    | .error e => .error ("service.Spec.LoadBalancerSourceRanges: " ++ formatList svc.loadBalancerSourceRanges ++
        " is not valid. Expecting a list of IP ranges. For example, 10.0.0.0/24. Error msg: " ++ e)
    | .ok ipnets => .ok ipnets
  else
    let val := stringsTrimSpace ((svc.annotationValue annotationLoadBalancerSourceRangesKey).getD "")
    let val := if val = "" then defaultAllowedCIDR else val
    match nets.parse (stringsSplit val ',') with
    | .error _ => .error (annotationLoadBalancerSourceRangesKey ++ ": " ++ val ++
        " is not valid. Expecting a comma-separated list of source IP ranges. For example, " ++
        "10.0.0.0/24,192.168.2.0/24")
    | .ok ipnets => .ok ipnets

theorem getLoadBalancerSourceRanges_ok (nets : IPNetParser) (svc : Service) (l : List String)
    (h : getLoadBalancerSourceRanges nets svc = .ok l) :
    l ≠ [] ∧ l.Nodup ∧ ∀ n ∈ l, n ≠ "" ∧ ',' ∉ n.data := by
  unfold getLoadBalancerSourceRanges at h
  by_cases hlen : svc.loadBalancerSourceRanges.length > 0
  · simp only [hlen, if_true] at h
    split at h
    · cases h
    · next ipnets hp =>
      cases h
      exact ⟨nets.nets_ne_nil _ _ hp (List.ne_nil_of_length_pos hlen), nets.nets_nodup _ _ hp,
        nets.nets_text _ _ hp⟩
  · simp only [hlen, if_false] at h
    split at h
    · cases h
    · next ipnets hp =>
      cases h
      refine ⟨nets.nets_ne_nil _ _ hp ?_, nets.nets_nodup _ _ hp, nets.nets_text _ _ hp⟩
      exact stringsSplit_ne_nil _ _

/-! ### Load balancer names -/

def servicePrefix : String := "K8s_svc_"

/-- Modelled from the spec: `Sprintf255` is not under src/. The spec derives the canonical
name "truncated to the platform's maximum identifier length (255 chars) by proportionally
shortening the formatting inputs" of `lbNameFormat = "%s%s_%s_%s"`: each input keeps the
share of the 253 characters left by the two underscores that its length has in the inputs'
total. -/
def sprintf255 (pre cluster ns name : String) : String :=
  let render := fun (a b c d : String) => a ++ b ++ "_" ++ c ++ "_" ++ d
  if (render pre cluster ns name).length ≤ 255 then render pre cluster ns name
  else
    let total := pre.length + cluster.length + ns.length + name.length
    let cut := fun (a : String) => String.mk (a.data.take (a.length * 253 / total))
    render (cut pre) (cut cluster) (cut ns) (cut name)

/-- The canonical name `K8s_svc_<cluster>_<namespace>_<service>`. -/
def getLoadBalancerName (clusterName : String) (svc : Service) : String :=
  sprintf255 servicePrefix clusterName svc.ns svc.name

/-- The driver's `DefaultLoadBalancerName`: `a` and the UID without dashes, cut to 32. -/
def getLoadBalancerLegacyName (svc : Service) : String :=
  String.mk (('a' :: svc.uid.data.filter (· ≠ '-')).take 32)

end CloudStackLB
