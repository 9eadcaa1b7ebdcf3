import GatewayOperator.Children.Comparison
import GatewayOperator.Children.Desired

namespace GatewayOperator

namespace ConfigMap

def configFile? (c : ConfigMap) : Option String := c.data.bind (·.get? Children.configFileKey)

def drifted (existing desired : ConfigMap) : Bool :=
  existing.configFile? ≠ desired.configFile? ||
    !Labels.present existing.metadata.labels (desired.metadata.labels.getD .empty)

def update (existing desired : ConfigMap) : ConfigMap :=
  { existing with
    data := desired.data
    metadata.labels := Labels.merge existing.metadata.labels desired.metadata.labels }

end ConfigMap

namespace Container

def portNumbers (c : Container) : Option (List Int) :=
  c.ports.map fun ports => ports.map ContainerPort.containerPort

def drifted (existing desired : Container) : Bool :=
  !EnvVar.listsEqual existing.env desired.env ||
    !EnvImport.listsEqual existing.envFrom desired.envFrom ||
    existing.image ≠ desired.image ||
    existing.portNumbers ≠ desired.portNumbers

end Container

namespace Deployment

def drifted (existing desired : Deployment) : Bool :=
  !Labels.present existing.metadata.labels (desired.metadata.labels.getD .empty) ||
    !Labels.present existing.podMetadata.labels (desired.podMetadata.labels.getD .empty) ||
    !Labels.present existing.podMetadata.annotations
      (desired.podMetadata.annotations.getD .empty) ||
    match existing.firstContainer?, desired.firstContainer? with
    | some existing, some desired => existing.drifted desired
    | none, some _ => true
    | _, none => false

-- Labels and annotations of the pods are merged, all else about the pods is replaced.
def updateSpec (existing desired : DeploymentSpec) : DeploymentSpec :=
  let old := existing.template.metadata.getD {}
  let new := desired.template.metadata.getD {}
  { existing with
    replicas := desired.replicas
    selector := desired.selector
    template :=
      { metadata := some
          { old with
            labels := Labels.merge old.labels new.labels
            annotations := Labels.merge old.annotations new.annotations }
        spec := desired.template.spec } }

def update (existing desired : Deployment) : Deployment :=
  { existing with
    metadata.labels := Labels.merge existing.metadata.labels desired.metadata.labels
    spec := match desired.spec with
      | none => existing.spec
      | some spec => some (updateSpec (existing.spec.getD {}) spec) }

end Deployment

namespace Service

def drifted (existing desired : Service) : Bool :=
  !Labels.present existing.metadata.labels (desired.metadata.labels.getD .empty) ||
    existing.firstPort? ≠ desired.firstPort?

def update (existing desired : Service) : Service :=
  { existing with
    metadata.labels := Labels.merge existing.metadata.labels desired.metadata.labels
    spec := some { existing.spec.getD {} with ports := desired.spec.bind ServiceSpec.ports } }

end Service

end GatewayOperator
