import FlowTesting.Resource.Shape

set_option autoImplicit false

/-!
# Shapes of service parts

How a service is reached, and what the cluster reports about that.
-/

namespace FlowTesting.Shape

def clientAddressAffinity : Shape := .record "ClientIPConfig" [optional "timeoutSeconds" .integer32]

def sessionAffinity : Shape :=
  .record "SessionAffinityConfig" <|
    [optional "clientIP" clientAddressAffinity]

def condition : Shape :=
  .record "Condition" <|
    [always "lastTransitionTime" .instant] ++
    alwaysAll .text ["message", "reason", "status", "type"] ++
    [optional "observedGeneration" .integer64]

def portStatus : Shape :=
  .record "PortStatus" <|
    [optional "error" .text, always "port" .integer32, always "protocol" .text]

def ingress : Shape :=
  .record "LoadBalancerIngress" <|
    optionals .text ["hostname", "ip", "ipMode"] ++
    [optional "ports" (.list portStatus)]

def loadBalancer : Shape := .record "LoadBalancerStatus" [optional "ingress" (.list ingress)]

def serviceStatus : Shape :=
  .record "ServiceStatus" <|
    [optional "conditions" (.list condition), optional "loadBalancer" loadBalancer]

/-- Members of a port of a service that are passed on. -/
def servicePortMembers : List (String × Bool × Shape) :=
  [optional "appProtocol" .text, optional "nodePort" .integer32]

def serviceSpecMembers : List (String × Bool × Shape) :=
  optionals .text ["clusterIP", "externalName", "externalTrafficPolicy", "internalTrafficPolicy",
      "ipFamilyPolicy", "loadBalancerClass", "loadBalancerIP", "sessionAffinity",
      "trafficDistribution", "type"] ++
    optionals (.list .text) ["clusterIPs", "externalIPs", "ipFamilies",
      "loadBalancerSourceRanges"] ++
    optionals .boolean ["allocateLoadBalancerNodePorts", "publishNotReadyAddresses"] ++
    [optional "healthCheckNodePort" .integer32, optional "sessionAffinityConfig" sessionAffinity]

end FlowTesting.Shape
