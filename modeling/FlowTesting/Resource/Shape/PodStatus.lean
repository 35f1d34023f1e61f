import FlowTesting.Resource.Shape.Reference

set_option autoImplicit false

/-!
# Shapes of pod statuses

What the cluster reports about a pod and its containers.
-/

namespace FlowTesting.Shape

def podCondition : Shape :=
  .record "PodCondition" <|
    [optional "lastProbeTime" .instant, optional "lastTransitionTime" .instant,
      optional "message" .text, optional "reason" .text, always "status" .text,
      always "type" .text]

def runningState : Shape := .record "ContainerStateRunning" [optional "startedAt" .instant]

def terminatedState : Shape :=
  .record "ContainerStateTerminated" <|
    optionals .text ["containerID", "message", "reason"] ++
    [always "exitCode" .integer32, optional "signal" .integer32, optional "finishedAt" .instant,
      optional "startedAt" .instant]

def waitingState : Shape :=
  .record "ContainerStateWaiting" <|
    [optional "message" .text, optional "reason" .text]

def containerState : Shape :=
  .record "ContainerState" <|
    [optional "running" runningState, optional "terminated" terminatedState,
      optional "waiting" waitingState]

def linuxUser : Shape :=
  .record "LinuxContainerUser" <|
    [always "gid" .integer64, always "uid" .integer64,
      optional "supplementalGroups" (.list .integer64)]

def containerUser : Shape := .record "ContainerUser" [optional "linux" linuxUser]

def resourceHealth : Shape :=
  .record "ResourceHealth" <|
    [optional "health" .text, always "resourceID" .text]

def resourceStatus : Shape :=
  .record "ResourceStatus" <|
    [always "name" .text, optional "resources" (.list resourceHealth)]

def mountStatus : Shape :=
  .record "VolumeMountStatus" <|
    [always "mountPath" .text, always "name" .text, optional "readOnly" .boolean,
      optional "recursiveReadOnly" .text]

def containerStatus : Shape :=
  .record "ContainerStatus" <|
    [optional "containerID" .text] ++
    alwaysAll .text ["image", "imageID", "name"] ++
    [always "ready" .boolean, always "restartCount" .integer32, optional "started" .boolean,
      optional "allocatedResources" (.map .text),
      optional "allocatedResourcesStatus" (.list resourceStatus),
      optional "lastState" containerState, optional "state" containerState,
      optional "resources" resources, optional "user" containerUser,
      optional "volumeMounts" (.list mountStatus)]

def hostAddress : Shape := .record "HostIP" [always "ip" .text]

def podAddress : Shape := .record "PodIP" [always "ip" .text]

def resourceClaimStatus : Shape :=
  .record "PodResourceClaimStatus" <|
    [always "name" .text, optional "resourceClaimName" .text]

def podStatus : Shape :=
  .record "PodStatus" <|
    optionals .text ["hostIP", "message", "nominatedNodeName", "phase", "podIP", "qosClass",
      "reason", "resize"] ++
    [optional "startTime" .instant, optional "conditions" (.list podCondition)] ++
    optionals (.list containerStatus) ["containerStatuses", "ephemeralContainerStatuses",
      "initContainerStatuses"] ++
    [optional "hostIPs" (.list hostAddress), optional "podIPs" (.list podAddress),
      optional "resourceClaimStatuses" (.list resourceClaimStatus)]

end FlowTesting.Shape
