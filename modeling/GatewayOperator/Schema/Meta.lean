import GatewayOperator.Schema.Basic

namespace GatewayOperator.Schema

def localObjectReference : Schema := .plain "LocalObjectReference" [always "name" .string]

-- Asks of the values of a key
def requirement (name : String) : Schema := .plain name
  [always "key" .string, always "operator" .string, may "values" strings]

def labelSelectorRequirement : Schema := requirement "LabelSelectorRequirement"

def labelSelector : Schema := .plain "LabelSelector"
  [may "matchExpressions" (.list labelSelectorRequirement), may "matchLabels" labels]

def managedFieldsEntry : Schema := .plain "ManagedFieldsEntry"
  [may "apiVersion" .string, may "fieldsType" .string, may "fieldsV1" .anything,
   may "manager" .string, may "operation" .string, may "subresource" .string,
   may "time" .instant]

def ownerReference : Schema := .plain "OwnerReference"
  [always "apiVersion" .string, may "blockOwnerDeletion" .boolean, may "controller" .boolean,
   always "kind" .string, always "name" .string, always "uid" .string]

-- The fields of version 1.31 of the Kubernetes API, as in the tables for pods and volumes
def objectMeta : Schema := .plain "ObjectMeta"
  [may "annotations" labels, may "creationTimestamp" .instant,
   may "deletionGracePeriodSeconds" .int64, may "deletionTimestamp" .instant,
   may "finalizers" strings, may "generateName" .string, may "generation" .int64,
   may "labels" labels, may "managedFields" (.list managedFieldsEntry), may "name" .string,
   may "namespace" .string, may "ownerReferences" (.list ownerReference),
   may "resourceVersion" .string, may "selfLink" .string, may "uid" .string]

def condition : Schema := .plain "Condition"
  [must "lastTransitionTime" .instant, always "message" .string, may "observedGeneration" .int64,
   always "reason" .string, always "status" .string, always "type" .string]

end GatewayOperator.Schema
