import GatewayOperator.Kubernetes.Env
import GatewayOperator.Proofs.Json.Values

namespace GatewayOperator

open Json

theorem KeyReference.faithful (r : KeyReference) : Faithful read toJson r :=
  faithful_record rfl (by simp)

theorem PodFieldReference.faithful (r : PodFieldReference) : Faithful read toJson r :=
  faithful_record rfl (by simp)

theorem ResourceReference.faithful (r : ResourceReference) : Faithful read toJson r :=
  faithful_record rfl (by simp)

theorem EnvSource.faithful (s : EnvSource) : Faithful read toJson s := by
  refine faithful_record rfl ?_
  have hkey (o : Option KeyReference) := valueOf?_optional fun r (_ : r ∈ o) => r.faithful
  have hpod (o : Option PodFieldReference) := valueOf?_optional fun r (_ : r ∈ o) => r.faithful
  have hresource (o : Option ResourceReference) :=
    valueOf?_optional fun r (_ : r ∈ o) => r.faithful
  simp [hkey, hpod, hresource]

theorem EnvVar.faithful (v : EnvVar) : Faithful read toJson v := by
  refine faithful_record rfl ?_
  have hsource := valueOf?_optional fun s (_ : s ∈ v.source) => s.faithful
  simp [hsource]

theorem BulkReference.faithful (r : BulkReference) : Faithful read toJson r :=
  faithful_record rfl (by simp)

theorem EnvImport.faithful (i : EnvImport) : Faithful read toJson i := by
  refine faithful_record rfl ?_
  have hbulk (o : Option BulkReference) := valueOf?_optional fun r (_ : r ∈ o) => r.faithful
  simp [hbulk]

end GatewayOperator
