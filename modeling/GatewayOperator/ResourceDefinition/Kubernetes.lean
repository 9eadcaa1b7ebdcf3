import GatewayOperator.ResourceDefinition.OpenApi

namespace GatewayOperator.OpenApi

-- A page of the Kubernetes manual.
def manualPage (path : List String) : String :=
  "/".intercalate (["https:", "", "kubernetes.io", "docs", "concepts"] ++ path)

def referentName : OpenApi :=
  .text <|
    "Name of the referent. This field is effectively required, but due to backwards " ++
    "compatibility is allowed to be empty. Instances of this type with an empty value here are " ++
    "almost certainly wrong. More info: " ++
    manualPage ["overview", "working-with-objects", "names", "#names"]

def keyReference (description key optional : String) : OpenApi :=
  .recordOf description
    [must "key" (.text key), must "name" referentName, may "optional" (.flag optional)]

def configMapKey : OpenApi :=
  keyReference "Selects a key of a ConfigMap." "The key to select."
    "Specify whether the ConfigMap or its key must be defined"

def secretKey : OpenApi :=
  keyReference "Selects a key of a secret in the pod's namespace"
    "The key of the secret to select from.  Must be a valid secret key."
    "Specify whether the Secret or its key must be defined"

def podField : OpenApi :=
  .recordOf
    ("Selects a field of the pod: supports metadata.name, metadata.namespace, " ++
     "`metadata.labels['<KEY>']`, `metadata.annotations['<KEY>']`, spec.nodeName, " ++
     "spec.serviceAccountName, status.hostIP, status.podIP, status.podIPs.")
    [may "apiVersion"
      (.text "Version of the schema the FieldPath is written in terms of, defaults to \"v1\"."),
     must "fieldPath" (.text "Path of the field to select in the specified API version.")]

def resourceField : OpenApi :=
  .recordOf
    ("Selects a resource of the container: only resources limits and requests (limits.cpu, " ++
     "limits.memory, limits.ephemeral-storage, requests.cpu, requests.memory and " ++
     "requests.ephemeral-storage) are currently supported.")
    [may "containerName" (.text "Container name: required for volumes, optional for env vars"),
     may "divisor"
      (.text "Specifies the output format of the exposed resources, defaults to \"1\""),
     must "resource" (.text "Required: resource to select")]

def envSource : OpenApi :=
  .recordOf
    "Source for the environment variable's value. Cannot be used if value is not empty."
    [may "configMapKeyRef" configMapKey, may "fieldRef" podField,
     may "resourceFieldRef" resourceField, may "secretKeyRef" secretKey]

def envVar : OpenApi :=
  .recordOf "EnvVar represents an environment variable present in a Container."
    [must "name" (.text "Name of the environment variable. Must be a C_IDENTIFIER."),
     may "value" (.text <|
      "Variable references $(VAR_NAME) are expanded using the previously defined environment " ++
      "variables in the container and any service environment variables. If a variable cannot " ++
      "be resolved, the reference in the input string will be unchanged. Double $$ are reduced " ++
      "to a single $, which allows for escaping the $(VAR_NAME) syntax: i.e. \"$$(VAR_NAME)\" " ++
      "will produce the string literal \"$(VAR_NAME)\". Escaped references will never be " ++
      "expanded, regardless of whether the variable exists or not. Defaults to \"\"."),
     may "valueFrom" envSource]

def bulkReference (description optional : String) : OpenApi :=
  .recordOf description [must "name" referentName, may "optional" (.flag optional)]

def envImport : OpenApi :=
  .recordOf "EnvFromSource represents the source of a set of ConfigMaps"
    [may "configMapRef" (bulkReference "The ConfigMap to select from"
      "Specify whether the ConfigMap must be defined"),
     may "prefix" (.text
      "An optional identifier to prepend to each key in the ConfigMap. Must be a C_IDENTIFIER."),
     may "secretRef" (bulkReference "The Secret to select from"
      "Specify whether the Secret must be defined")]

def condition : OpenApi :=
  .recordOf "Condition contains details for one aspect of the current state of this API Resource."
    [must "lastTransitionTime" (.instant <|
      "lastTransitionTime is the last time the condition transitioned from one status to " ++
      "another. This should be when the underlying condition changed.  If that is not known, " ++
      "then using the time when the API field changed is acceptable."),
     must "message" (.text <|
      "message is a human readable message indicating details about the transition. This may be " ++
      "an empty string."),
     may "observedGeneration" (.integer "int64" <|
      "observedGeneration represents the .metadata.generation that the condition was set based " ++
      "upon. For instance, if .metadata.generation is currently 12, but the " ++
      ".status.conditions[x].observedGeneration is 9, the condition is out of date with respect " ++
      "to the current state of the instance."),
     must "reason" (.text <|
      "reason contains a programmatic identifier indicating the reason for the condition's last " ++
      "transition. Producers of specific condition types may define expected values and " ++
      "meanings for this field, and whether the values are considered a guaranteed API. The " ++
      "value should be a CamelCase string. This field may not be empty."),
     must "status" (.text "status of the condition, one of True, False, Unknown."),
     must "type" (.text "type of condition in CamelCase or in foo.example.com/CamelCase.")]

end GatewayOperator.OpenApi
