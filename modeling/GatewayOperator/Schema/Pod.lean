import GatewayOperator.Schema.Volume

namespace GatewayOperator.Schema

def nodeSelectorRequirement : Schema := requirement "NodeSelectorRequirement"

def nodeSelectorTerm : Schema := .plain "NodeSelectorTerm"
  [may "matchExpressions" (.list nodeSelectorRequirement),
   may "matchFields" (.list nodeSelectorRequirement)]

def nodeAffinity : Schema := .plain "NodeAffinity"
  [may "preferredDuringSchedulingIgnoredDuringExecution"
     (.list (.plain "PreferredSchedulingTerm"
        [always "preference" nodeSelectorTerm, always "weight" .int32])),
   may "requiredDuringSchedulingIgnoredDuringExecution"
     (.plain "NodeSelector" [always "nodeSelectorTerms" (.list nodeSelectorTerm)])]

def podAffinityTerm : Schema := .plain "PodAffinityTerm"
  [may "labelSelector" labelSelector, may "matchLabelKeys" strings,
   may "mismatchLabelKeys" strings, may "namespaceSelector" labelSelector,
   may "namespaces" strings, always "topologyKey" .string]

-- Pods that attract, and pods that repel
def podAffinity (name : String) : Schema := .plain name
  [may "preferredDuringSchedulingIgnoredDuringExecution"
     (.list (.plain "WeightedPodAffinityTerm"
        [always "podAffinityTerm" podAffinityTerm, always "weight" .int32])),
   may "requiredDuringSchedulingIgnoredDuringExecution" (.list podAffinityTerm)]

def affinity : Schema := .plain "Affinity"
  [may "nodeAffinity" nodeAffinity, may "podAffinity" (podAffinity "PodAffinity"),
   may "podAntiAffinity" (podAffinity "PodAntiAffinity")]

def toleration : Schema := .plain "Toleration"
  [may "effect" .string, may "key" .string, may "operator" .string,
   may "tolerationSeconds" .int64, may "value" .string]

def topologySpreadConstraint : Schema := .plain "TopologySpreadConstraint"
  [may "labelSelector" labelSelector, may "matchLabelKeys" strings, always "maxSkew" .int32,
   may "minDomains" .int32, may "nodeAffinityPolicy" .string, may "nodeTaintsPolicy" .string,
   always "topologyKey" .string, always "whenUnsatisfiable" .string]

def localhostProfile (name : String) : Schema := .plain name
  [may "localhostProfile" .string, always "type" .string]

def appArmorProfile : Schema := localhostProfile "AppArmorProfile"

def seccompProfile : Schema := localhostProfile "SeccompProfile"

def seLinuxOptions : Schema := .plain "SELinuxOptions"
  [may "level" .string, may "role" .string, may "type" .string, may "user" .string]

def windowsOptions : Schema := .plain "WindowsSecurityContextOptions"
  [may "gmsaCredentialSpec" .string, may "gmsaCredentialSpecName" .string,
   may "hostProcess" .boolean, may "runAsUserName" .string]

def podSecurityContext : Schema := .plain "PodSecurityContext"
  [may "appArmorProfile" appArmorProfile, may "fsGroup" .int64,
   may "fsGroupChangePolicy" .string, may "runAsGroup" .int64, may "runAsNonRoot" .boolean,
   may "runAsUser" .int64, may "seLinuxOptions" seLinuxOptions,
   may "seccompProfile" seccompProfile, may "supplementalGroups" (.list .int64),
   may "supplementalGroupsPolicy" .string,
   may "sysctls" (.list (.plain "Sysctl" [always "name" .string, always "value" .string])),
   may "windowsOptions" windowsOptions]

def securityContext : Schema := .plain "SecurityContext"
  [may "allowPrivilegeEscalation" .boolean, may "appArmorProfile" appArmorProfile,
   may "capabilities" (.plain "Capabilities" [may "add" strings, may "drop" strings]),
   may "privileged" .boolean, may "procMount" .string, may "readOnlyRootFilesystem" .boolean,
   may "runAsGroup" .int64, may "runAsNonRoot" .boolean, may "runAsUser" .int64,
   may "seLinuxOptions" seLinuxOptions, may "seccompProfile" seccompProfile,
   may "windowsOptions" windowsOptions]

def execAction : Schema := .plain "ExecAction" [may "command" strings]

def httpGetAction : Schema := .plain "HTTPGetAction"
  [may "host" .string,
   may "httpHeaders" (.list (.plain "HTTPHeader" [always "name" .string, always "value" .string])),
   may "path" .string, always "port" .intOrString, may "scheme" .string]

def tcpSocketAction : Schema := .plain "TCPSocketAction"
  [may "host" .string, always "port" .intOrString]

def probe : Schema := .plain "Probe"
  [may "exec" execAction, may "failureThreshold" .int32,
   may "grpc" (.plain "GRPCAction" [always "port" .int32, may "service" .string]),
   may "httpGet" httpGetAction, may "initialDelaySeconds" .int32, may "periodSeconds" .int32,
   may "successThreshold" .int32, may "tcpSocket" tcpSocketAction,
   may "terminationGracePeriodSeconds" .int64, may "timeoutSeconds" .int32]

def lifecycleHandler : Schema := .plain "LifecycleHandler"
  [may "exec" execAction, may "httpGet" httpGetAction,
   may "sleep" (.plain "SleepAction" [always "seconds" .int64]), may "tcpSocket" tcpSocketAction]

def lifecycle : Schema := .plain "Lifecycle"
  [may "postStart" lifecycleHandler, may "preStop" lifecycleHandler]

def containerCarried : Attributes :=
  [may "args" strings, may "imagePullPolicy" .string, may "lifecycle" lifecycle,
   may "livenessProbe" probe, may "readinessProbe" probe,
   may "resizePolicy" (.list (.plain "ContainerResizePolicy"
     [always "resourceName" .string, always "restartPolicy" .string])),
   may "resources" (.plain "ResourceRequirements"
     [may "claims" (.list (.plain "ResourceClaim" [always "name" .string, may "request" .string])),
      may "limits" quantities, may "requests" quantities]),
   may "restartPolicy" .string, may "securityContext" securityContext,
   may "startupProbe" probe, may "stdin" .boolean, may "stdinOnce" .boolean,
   may "terminationMessagePath" .string, may "terminationMessagePolicy" .string,
   may "tty" .boolean,
   may "volumeDevices" (.list (.plain "VolumeDevice"
     [always "devicePath" .string, always "name" .string])),
   may "workingDir" .string]

def ephemeralContainerCarried : Attributes :=
  containerCarried ++ [may "targetContainerName" .string]

def podCarried : Attributes :=
  [may "activeDeadlineSeconds" .int64, may "affinity" affinity,
   may "automountServiceAccountToken" .boolean,
   may "dnsConfig" (.plain "PodDNSConfig"
     [may "nameservers" strings,
      may "options" (.list (.plain "PodDNSConfigOption" [may "name" .string, may "value" .string])),
      may "searches" strings]),
   may "dnsPolicy" .string, may "enableServiceLinks" .boolean,
   may "hostAliases" (.list (.plain "HostAlias" [may "hostnames" strings, always "ip" .string])),
   may "hostIPC" .boolean, may "hostNetwork" .boolean, may "hostPID" .boolean,
   may "hostUsers" .boolean, may "hostname" .string,
   may "imagePullSecrets" (.list localObjectReference), may "nodeName" .string,
   may "nodeSelector" labels, may "os" (.plain "PodOS" [always "name" .string]),
   may "overhead" quantities, may "preemptionPolicy" .string, may "priority" .int32,
   may "priorityClassName" .string,
   may "readinessGates" (.list (.plain "PodReadinessGate" [always "conditionType" .string])),
   may "resourceClaims" (.list (.plain "PodResourceClaim"
     [always "name" .string, may "resourceClaimName" .string,
      may "resourceClaimTemplateName" .string])),
   may "restartPolicy" .string, may "runtimeClassName" .string, may "schedulerName" .string,
   may "schedulingGates" (.list (.plain "PodSchedulingGate" [always "name" .string])),
   may "securityContext" podSecurityContext, may "serviceAccount" .string,
   may "serviceAccountName" .string, may "setHostnameAsFQDN" .boolean,
   may "shareProcessNamespace" .boolean, may "subdomain" .string,
   may "terminationGracePeriodSeconds" .int64, may "tolerations" (.list toleration),
   may "topologySpreadConstraints" (.list topologySpreadConstraint)]

def deploymentSpecCarried : Attributes :=
  [may "minReadySeconds" .int32, may "paused" .boolean, may "progressDeadlineSeconds" .int32,
   may "revisionHistoryLimit" .int32,
   may "strategy" (.plain "DeploymentStrategy"
     [may "rollingUpdate" (.plain "RollingUpdateDeployment"
        [may "maxSurge" .intOrString, may "maxUnavailable" .intOrString]),
      may "type" .string])]

def deploymentStatus : Schema := .plain "DeploymentStatus"
  [may "availableReplicas" .int32, may "collisionCount" .int32,
   may "conditions" (.list (.plain "DeploymentCondition"
     [may "lastTransitionTime" .instant, may "lastUpdateTime" .instant, may "message" .string,
      may "reason" .string, always "status" .string, always "type" .string])),
   may "observedGeneration" .int64, may "readyReplicas" .int32, may "replicas" .int32,
   may "unavailableReplicas" .int32, may "updatedReplicas" .int32]

def serviceSpecCarried : Attributes :=
  [may "allocateLoadBalancerNodePorts" .boolean, may "clusterIP" .string,
   may "clusterIPs" strings, may "externalIPs" strings, may "externalName" .string,
   may "externalTrafficPolicy" .string, may "healthCheckNodePort" .int32,
   may "internalTrafficPolicy" .string, may "ipFamilies" strings, may "ipFamilyPolicy" .string,
   may "loadBalancerClass" .string, may "loadBalancerIP" .string,
   may "loadBalancerSourceRanges" strings, may "publishNotReadyAddresses" .boolean,
   may "sessionAffinity" .string,
   may "sessionAffinityConfig" (.plain "SessionAffinityConfig"
     [may "clientIP" (.plain "ClientIPConfig" [may "timeoutSeconds" .int32])]),
   may "trafficDistribution" .string]

def serviceStatus : Schema := .plain "ServiceStatus"
  [may "conditions" (.list condition),
   may "loadBalancer" (.plain "LoadBalancerStatus"
     [may "ingress" (.list (.plain "LoadBalancerIngress"
        [may "hostname" .string, may "ip" .string, may "ipMode" .string,
         may "ports" (.list (.plain "PortStatus"
           [may "error" .string, always "port" .int32, always "protocol" .string]))]))])]

end GatewayOperator.Schema
