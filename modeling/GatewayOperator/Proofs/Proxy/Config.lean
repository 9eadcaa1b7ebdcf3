import GatewayOperator.Proofs.Json.Values
import GatewayOperator.Proxy.Config

namespace GatewayOperator

open Json

namespace ModelEntry

theorem faithful (e : ModelEntry) : Faithful read toJson e := by
  refine faithful_readRecordOrList rfl ?_
  have hname := (faithful_string e.modelName).valueOf?_required none
  have hmodel := (faithful_string e.model).valueOf?_required none
  have hparams : Faithful readParams
      (fun p => .object (Fields.present
        [("model", some (.string p.1)), ("api_key", p.2.map .string)])) (e.model, e.apiKey) :=
    faithful_readRecordOrList rfl (by simp [hmodel])
  have hread := hparams.valueOf?_required none
  simp [Fields.get?_cons, hname, hread]

end ModelEntry

namespace ProxyConfig

theorem faithful {c : ProxyConfig} (h : c.requestTimeout ≤ 4294967295) :
    Faithful read toJson c := by
  refine faithful_readRecordOrList rfl ?_
  have hmodels := (faithful_list fun e (_ : e ∈ c.models) => e.faithful).valueOf?_required none
  have htimeout : Faithful readNat32 nat c.requestTimeout := (faithful_nat_iff _ _).mpr h
  have hsettings : Faithful readSettings (fun n => .object [("request_timeout", .nat n)])
      c.requestTimeout :=
    faithful_readRecordOrList rfl (by simp [Fields.get?_cons, htimeout.valueOf?_required none])
  have hread := hsettings.valueOf?_required none
  simp [Fields.get?_cons, hmodels, hread]

theorem ensures_timeout : Ensures read fun c => c.requestTimeout ≤ 4294967295 := by
  have hsettings : Ensures readSettings (· ≤ 4294967295) := by
    intro j n h
    obtain ⟨fields, hfields⟩ := exists_of_readRecordOrList h
    rw [Fields.value?_required] at hfields
    have hnat : Lossless readNat32 nat := lossless_nat 4294967295
    exact (faithful_nat_iff _ _).mp (hnat.required hfields)
  intro j c h
  obtain ⟨fields, hfields⟩ := exists_of_readRecordOrList h
  simp only [Gathered.value?_seq, Gathered.value?_map, Fields.value?_required, Option.bind_map,
    Function.comp_def, Option.bind_eq_some_iff, Option.map_eq_some_iff] at hfields
  obtain ⟨-, -, timeout, htimeout, rfl⟩ := hfields
  exact hsettings.required htimeout

end ProxyConfig

end GatewayOperator
