import FlowTesting.Resource.Shape.Container

set_option autoImplicit false

/-!
# Shapes of pod specifications

Where a pod may run, what it may do there and how it reaches others.
-/

namespace FlowTesting.Shape

def nodeRequirement : Shape :=
  .record "NodeSelectorRequirement" <|
    [always "key" .text, always "operator" .text, optional "values" (.list .text)]

def nodeTerm : Shape :=
  .record "NodeSelectorTerm" <|
    [optional "matchExpressions" (.list nodeRequirement),
      optional "matchFields" (.list nodeRequirement)]

def nodeChoice : Shape := .record "NodeSelector" [always "nodeSelectorTerms" (.list nodeTerm)]

def preferredNodeTerm : Shape :=
  .record "PreferredSchedulingTerm" <|
    [always "preference" nodeTerm, always "weight" .integer32]

def nodeAffinity : Shape :=
  .record "NodeAffinity" <|
    [optional "preferredDuringSchedulingIgnoredDuringExecution" (.list preferredNodeTerm),
      optional "requiredDuringSchedulingIgnoredDuringExecution" nodeChoice]

def podTerm : Shape :=
  .record "PodAffinityTerm" <|
    [optional "labelSelector" labelSelector, optional "namespaceSelector" labelSelector] ++
    optionals (.list .text) ["matchLabelKeys", "mismatchLabelKeys", "namespaces"] ++
    [always "topologyKey" .text]

def weightedPodTerm : Shape :=
  .record "WeightedPodAffinityTerm" <|
    [always "podAffinityTerm" podTerm, always "weight" .integer32]

def podAffinity : Shape :=
  .record "PodAffinity" <|
    [optional "preferredDuringSchedulingIgnoredDuringExecution" (.list weightedPodTerm),
      optional "requiredDuringSchedulingIgnoredDuringExecution" (.list podTerm)]

def podAntiAffinity : Shape :=
  .record "PodAntiAffinity" <|
    [optional "preferredDuringSchedulingIgnoredDuringExecution" (.list weightedPodTerm),
      optional "requiredDuringSchedulingIgnoredDuringExecution" (.list podTerm)]

/-- Which nodes and pods a pod is drawn to or kept from. -/
def affinity : Shape :=
  .record "Affinity" <|
    [optional "nodeAffinity" nodeAffinity, optional "podAffinity" podAffinity,
      optional "podAntiAffinity" podAntiAffinity]

def toleration : Shape :=
  .record "Toleration" <|
    optionals .text ["effect", "key", "operator", "value"] ++
    [optional "tolerationSeconds" .integer64]

def spreadConstraint : Shape :=
  .record "TopologySpreadConstraint" <|
    [optional "labelSelector" labelSelector, optional "matchLabelKeys" (.list .text),
      always "maxSkew" .integer32, optional "minDomains" .integer32,
      optional "nodeAffinityPolicy" .text, optional "nodeTaintsPolicy" .text,
      always "topologyKey" .text, always "whenUnsatisfiable" .text]

def readinessGate : Shape := .record "PodReadinessGate" [always "conditionType" .text]

def schedulingGate : Shape := .record "PodSchedulingGate" [always "name" .text]

def podResourceClaim : Shape :=
  .record "PodResourceClaim" <|
    [always "name" .text, optional "resourceClaimName" .text,
      optional "resourceClaimTemplateName" .text]

def dnsOption : Shape :=
  .record "PodDNSConfigOption" <|
    [optional "name" .text, optional "value" .text]

def dnsConfig : Shape :=
  .record "PodDNSConfig" <|
    [optional "nameservers" (.list .text), optional "searches" (.list .text),
      optional "options" (.list dnsOption)]

def hostAlias : Shape := .record "HostAlias" [optional "hostnames" (.list .text), always "ip" .text]

def operatingSystem : Shape := .record "PodOS" [always "name" .text]

def kernelParameter : Shape := .record "Sysctl" [always "name" .text, always "value" .text]

def podSecurityContext : Shape :=
  .record "PodSecurityContext" <|
    optionals .text ["fsGroupChangePolicy", "seLinuxChangePolicy", "supplementalGroupsPolicy"] ++
    optionals .integer64 ["fsGroup", "runAsGroup", "runAsUser"] ++
    [optional "runAsNonRoot" .boolean, optional "supplementalGroups" (.list .integer64),
      optional "sysctls" (.list kernelParameter), optional "appArmorProfile" appArmorProfile,
      optional "seLinuxOptions" seLinuxOptions, optional "seccompProfile" seccompProfile,
      optional "windowsOptions" windowsOptions]

def podSpecMembers : List (String × Bool × Shape) :=
  optionals .text ["dnsPolicy", "hostname", "nodeName", "preemptionPolicy", "priorityClassName",
      "restartPolicy", "runtimeClassName", "schedulerName", "serviceAccount", "serviceAccountName",
      "subdomain"] ++
    optionals .boolean ["automountServiceAccountToken", "enableServiceLinks", "hostIPC",
      "hostNetwork", "hostPID", "hostUsers", "setHostnameAsFQDN", "shareProcessNamespace"] ++
    optionals .integer64 ["activeDeadlineSeconds", "terminationGracePeriodSeconds"] ++
    [optional "priority" .integer32, optional "affinity" affinity, optional "dnsConfig" dnsConfig,
      optional "ephemeralContainers" (.list ephemeralContainer),
      optional "initContainers" (.list container),
      optional "hostAliases" (.list hostAlias),
      optional "imagePullSecrets" (.list localReference), optional "os" operatingSystem,
      optional "overhead" (.map .text), optional "readinessGates" (.list readinessGate),
      optional "resourceClaims" (.list podResourceClaim), optional "resources" resources,
      optional "schedulingGates" (.list schedulingGate),
      optional "securityContext" podSecurityContext, optional "tolerations" (.list toleration),
      optional "topologySpreadConstraints" (.list spreadConstraint)]

end FlowTesting.Shape
