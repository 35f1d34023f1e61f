import FlowTesting.Resource.Shape.Reference

set_option autoImplicit false

/-!
# Shapes of container parts

Variables, handlers, probes and permissions of a container.
-/

namespace FlowTesting.Shape

def configMapKey : Shape :=
  .record "ConfigMapKeySelector" <|
    [always "key" .text, always "name" .text, optional "optional" .boolean]

def secretKey : Shape :=
  .record "SecretKeySelector" <|
    [always "key" .text, always "name" .text, optional "optional" .boolean]

/-- Where the value of a variable comes from. -/
def variableSource : Shape :=
  .record "EnvVarSource" <|
    [optional "configMapKeyRef" configMapKey, optional "fieldRef" objectField,
      optional "resourceFieldRef" resourceField, optional "secretKeyRef" secretKey]

def environmentVariable : Shape :=
  .record "EnvVar" <|
    [always "name" .text, optional "value" .text, optional "valueFrom" variableSource]

def configMapVariables : Shape :=
  .record "ConfigMapEnvSource" <|
    [always "name" .text, optional "optional" .boolean]

def secretVariables : Shape :=
  .record "SecretEnvSource" <|
    [always "name" .text, optional "optional" .boolean]

/-- Variables that are taken from one object. -/
def importedVariables : Shape :=
  .record "EnvFromSource" <|
    [optional "configMapRef" configMapVariables, optional "prefix" .text,
      optional "secretRef" secretVariables]

def execAction : Shape := .record "ExecAction" [optional "command" (.list .text)]

def grpcAction : Shape := .record "GRPCAction" [always "port" .integer32, optional "service" .text]

def httpHeader : Shape := .record "HTTPHeader" [always "name" .text, always "value" .text]

def httpGetAction : Shape :=
  .record "HTTPGetAction" <|
    optionals .text ["host", "path", "scheme"] ++
    [optional "httpHeaders" (.list httpHeader), always "port" .port]

def sleepAction : Shape := .record "SleepAction" [always "seconds" .integer64]

def tcpSocketAction : Shape :=
  .record "TCPSocketAction" <|
    [optional "host" .text, always "port" .port]

def lifecycleHandler : Shape :=
  .record "LifecycleHandler" <|
    [optional "exec" execAction, optional "httpGet" httpGetAction, optional "sleep" sleepAction,
      optional "tcpSocket" tcpSocketAction]

/-- What is done when a container has started and before it stops. -/
def lifecycle : Shape :=
  .record "Lifecycle" <|
    [optional "postStart" lifecycleHandler, optional "preStop" lifecycleHandler]

/-- How it is found out whether a container is well. -/
def probe : Shape :=
  .record "Probe" <|
    optionals .integer32 ["failureThreshold", "initialDelaySeconds", "periodSeconds",
      "successThreshold", "timeoutSeconds"] ++
    [optional "terminationGracePeriodSeconds" .integer64, optional "exec" execAction,
      optional "grpc" grpcAction, optional "httpGet" httpGetAction,
      optional "tcpSocket" tcpSocketAction]

def resizePolicy : Shape :=
  .record "ContainerResizePolicy" <|
    [always "resourceName" .text, always "restartPolicy" .text]

def appArmorProfile : Shape :=
  .record "AppArmorProfile" <|
    [optional "localhostProfile" .text, always "type" .text]

def seccompProfile : Shape :=
  .record "SeccompProfile" <|
    [optional "localhostProfile" .text, always "type" .text]

def capabilities : Shape :=
  .record "Capabilities" <|
    [optional "add" (.list .text), optional "drop" (.list .text)]

def seLinuxOptions : Shape :=
  .record "SELinuxOptions" <|
    optionals .text ["level", "role", "type", "user"]

def windowsOptions : Shape :=
  .record "WindowsSecurityContextOptions" <|
    optionals .text ["gmsaCredentialSpec", "gmsaCredentialSpecName", "runAsUserName"] ++
    [optional "hostProcess" .boolean]

def securityContext : Shape :=
  .record "SecurityContext" <|
    optionals .boolean ["allowPrivilegeEscalation", "privileged", "readOnlyRootFilesystem",
      "runAsNonRoot"] ++
    [optional "runAsGroup" .integer64, optional "runAsUser" .integer64,
      optional "procMount" .text, optional "appArmorProfile" appArmorProfile,
      optional "capabilities" capabilities, optional "seLinuxOptions" seLinuxOptions,
      optional "seccompProfile" seccompProfile, optional "windowsOptions" windowsOptions]

def volumeDevice : Shape := .record "VolumeDevice" [always "devicePath" .text, always "name" .text]

/-- Members of a port of a container that are passed on. -/
def portMembers : List (String × Bool × Shape) :=
  [optional "hostIP" .text, optional "hostPort" .integer32]

def mountMembers : List (String × Bool × Shape) :=
  optionals .text ["mountPropagation", "recursiveReadOnly", "subPathExpr"] ++
    [optional "readOnly" .boolean]

def containerMembers : List (String × Bool × Shape) :=
  optionals .text ["restartPolicy", "terminationMessagePath", "terminationMessagePolicy",
      "workingDir"] ++
    optionals .boolean ["stdin", "stdinOnce", "tty"] ++
    optionals probe ["livenessProbe", "readinessProbe", "startupProbe"] ++
    [optional "env" (.list environmentVariable), optional "envFrom" (.list importedVariables),
      optional "lifecycle" lifecycle, optional "resizePolicy" (.list resizePolicy),
      optional "resources" resources, optional "securityContext" securityContext,
      optional "volumeDevices" (.list volumeDevice)]

def allContainerMembers : List (String × Bool × Shape) :=
  containerMembers ++
    [always "name" .text, optional "image" .text, optional "imagePullPolicy" .text,
      optional "args" (.list .text), optional "command" (.list .text),
      optional "ports" (.list (.record "ContainerPort"
        ([always "containerPort" .integer32, optional "name" .text, optional "protocol" .text] ++
          portMembers))),
      optional "volumeMounts" (.list (.record "VolumeMount"
        ([always "mountPath" .text, always "name" .text, optional "subPath" .text] ++
          mountMembers)))]

def container : Shape := .record "Container" allContainerMembers

/-- A container that is added to a running pod. -/
def ephemeralContainer : Shape :=
  .record "EphemeralContainer" (allContainerMembers ++ [optional "targetContainerName" .text])

end FlowTesting.Shape
