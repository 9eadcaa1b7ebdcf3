import GatewayOperator.Proofs.Children.Drift
import GatewayOperator.Proofs.Children.WellFormed
import GatewayOperator.Proofs.Proxy.Route
import GatewayOperator.Proofs.Yaml.Printer

namespace GatewayOperator

open Yaml

namespace ModelEntry

variable {e f : ModelEntry} {rest more : List Char}

-- The key behind the routing target, if there is one
def keyFields (key : Option String) : Fields := (key.map fun k => ("api_key", .string k)).toList

theorem toJson_eq (e : ModelEntry) : e.toJson = .object
    [("model_name", .string e.modelName),
     ("litellm_params", .object (("model", .string e.model) :: keyFields e.apiKey))] := by
  cases hkey : e.apiKey with
  | none => rw [toJson, hkey]; rfl
  | some key => rw [toJson, hkey]; rfl

theorem styleOf_keyName : styleOf "api_key" = .plain := by decide +kernel

-- A further field of the parameters stands deeper than the next entry, and less deep than the lines
-- of the target.
theorem dedents_keyFields (key : Option String) (hrest : Dedents 1 rest) :
    Dedents 6 (fieldLines 4 (spaces 4) (keyFields key) ++ rest) := by
  cases key with
  | none => exact hrest.mono (by decide)
  | some k => exact (dedents_fieldLines styleOf_keyName).mono (by decide)

theorem eq_of_keyFields_eq {key other : Option String} (hrest : Dedents 1 rest)
    (hmore : Dedents 1 more) (h : fieldLines 4 (spaces 4) (keyFields key) ++ rest =
      fieldLines 4 (spaces 4) (keyFields other) ++ more) : key = other ∧ rest = more := by
  cases key with
  | none =>
    cases other with
    | none => exact ⟨rfl, h⟩
    | some k => exact absurd h (hrest.ne_space_cons _)
  | some k =>
    cases other with
    | none => exact absurd h.symm (hmore.ne_space_cons _)
    | some l =>
      obtain ⟨rfl, hbehind⟩ := eq_of_fieldLines_string_eq styleOf_keyName
        (dedents_keyFields none hrest) (dedents_keyFields none hmore) h
      exact ⟨rfl, hbehind⟩

-- An entry is told by its lines if the next lines begin at the margin.
theorem eq_of_itemValue_eq (hrest : Dedents 1 rest) (hmore : Dedents 1 more)
    (h : itemValue 0 e.toJson ++ rest = itemValue 0 f.toJson ++ more) : e = f ∧ rest = more := by
  have hname : styleOf "model_name" = .plain := by decide +kernel
  have hparams : styleOf "litellm_params" = .plain := by decide +kernel
  have hmodel : styleOf "model" = .plain := by decide +kernel
  rw [toJson_eq, toJson_eq, itemValue, itemValue, List.cons_append, List.cons_append,
    List.cons.injEq] at h
  obtain ⟨hmodelName, h⟩ := eq_of_fieldLines_string_eq hname
    ((dedents_fieldLines hparams).mono (by decide)) ((dedents_fieldLines hparams).mono (by decide))
    h.2
  obtain ⟨htarget, h⟩ := eq_of_fieldLines_string_eq hmodel (dedents_keyFields _ hrest)
    (dedents_keyFields _ hmore) (eq_of_fieldLines_object_eq hparams h)
  obtain ⟨hkey, h⟩ := eq_of_keyFields_eq hrest hmore h
  refine ⟨?_, h⟩
  cases e
  cases f
  simp_all

theorem dedents_itemLines (es : List ModelEntry) (hrest : Dedents 1 rest) :
    Dedents 1 (itemLines 0 [] (es.map toJson) ++ rest) := by
  cases es with
  | nil => exact hrest
  | cons e es => exact ⟨0, by decide, '-', _, rfl, by decide, rfl⟩

-- So is a list of entries, if no further one follows.
theorem eq_of_itemLines_eq {es fs : List ModelEntry} (hrest : Dedents 1 rest)
    (hmore : Dedents 1 more) (hlast : rest.head? ≠ some '-') (hlast' : more.head? ≠ some '-')
    (h : itemLines 0 [] (es.map toJson) ++ rest = itemLines 0 [] (fs.map toJson) ++ more) :
    es = fs ∧ rest = more := by
  induction es generalizing fs with
  | nil =>
    cases fs with
    | nil => exact ⟨rfl, h⟩
    | cons f fs => exact absurd (congrArg List.head? h) hlast
  | cons e es ih =>
    cases fs with
    | nil => exact absurd (congrArg List.head? h.symm) hlast'
    | cons f fs =>
      simp only [List.map_cons, itemLines, List.nil_append, List.cons_append, List.append_assoc,
        List.cons.injEq, true_and] at h
      obtain ⟨rfl, hbehind⟩ :=
        eq_of_itemValue_eq (dedents_itemLines es hrest) (dedents_itemLines fs hmore) h
      obtain ⟨rfl, hend⟩ := ih hbehind
      exact ⟨rfl, hend⟩

end ModelEntry

namespace ProxyConfig

-- The field behind the list of models
def settings (timeout : Nat) : String × Json :=
  ("litellm_settings", .object [("request_timeout", .nat timeout)])

theorem toList_text (c : ProxyConfig) : c.text.toList =
    fieldLines 0 [] [("model_list", .ofList ModelEntry.toJson c.models),
      settings c.requestTimeout] := by
  rw [text, toJson, Yaml.render, String.toList_ofList, settings]

theorem styleOf_settingsName : styleOf "litellm_settings" = .plain := by decide +kernel

theorem eq_of_settings_eq {n m : Nat}
    (h : fieldLines 0 [] [settings n] = fieldLines 0 [] [settings m]) : n = m := by
  have htimeout : styleOf "request_timeout" = .plain := by decide +kernel
  have hfield := eq_of_fieldLines_object_eq styleOf_settingsName
    (congrArg (· ++ ([] : List Char)) h)
  rw [List.append_nil, List.append_nil] at hfield
  exact eq_of_fieldLines_nat_eq htimeout hfield

theorem dedents_settings (n : Nat) : Dedents 1 (fieldLines 0 [] [settings n]) := by
  have hlines : Dedents 1 (fieldLines 0 [] [settings n] ++ []) :=
    dedents_fieldLines styleOf_settingsName
  rwa [List.append_nil] at hlines

theorem head?_settings (n : Nat) : (fieldLines 0 [] [settings n]).head? ≠ some '-' := by
  rw [settings, fieldLines_object styleOf_settingsName]
  nofun

theorem eq_of_models_eq {es fs : List ModelEntry} {n m : Nat}
    (h : fieldLines 0 [] [("model_list", .ofList ModelEntry.toJson es), settings n] =
      fieldLines 0 [] [("model_list", .ofList ModelEntry.toJson fs), settings m]) :
    es = fs ∧ n = m := by
  have hlist : styleOf "model_list" = .plain := by decide +kernel
  cases es with
  | nil =>
    cases fs with
    | nil =>
      simp only [Json.ofList, List.map_nil, fieldLines_emptyList hlist, List.append_cancel_left_eq,
        List.cons.injEq, true_and] at h
      exact ⟨rfl, eq_of_settings_eq h⟩
    | cons f fs =>
      simp only [Json.ofList, List.map_nil, List.map_cons, fieldLines_emptyList hlist,
        fieldLines_list hlist, List.append_cancel_left_eq, List.cons.injEq] at h
      exact absurd h.2.1 (by decide)
  | cons e es =>
    cases fs with
    | nil =>
      simp only [Json.ofList, List.map_nil, List.map_cons, fieldLines_emptyList hlist,
        fieldLines_list hlist, List.append_cancel_left_eq, List.cons.injEq] at h
      exact absurd h.2.1 (by decide)
    | cons f fs =>
      simp only [Json.ofList, List.map_cons, fieldLines_list hlist, List.append_cancel_left_eq,
        List.cons.injEq, true_and] at h
      rw [← List.map_cons, ← List.map_cons] at h
      obtain ⟨hentries, hbehind⟩ := ModelEntry.eq_of_itemLines_eq (dedents_settings n)
        (dedents_settings m) (head?_settings n) (head?_settings m) h
      exact ⟨hentries, eq_of_settings_eq hbehind⟩

-- No two configurations have the same text.
theorem text_injective : Function.Injective text := by
  intro c d h
  rw [← String.toList_inj, toList_text, toList_text] at h
  obtain ⟨hmodels, htimeout⟩ := eq_of_models_eq h
  cases c
  cases d
  simp_all

theorem ofModels_eq_iff (models others : List Model) :
    ofModels models = ofModels others ↔ List.Forall₂ Model.Alike models others := by
  have hentries : models.map ModelEntry.ofModel = others.map ModelEntry.ofModel ↔
      List.Forall₂ Model.Alike models others := by
    rw [← List.forall₂_eq_eq_eq, List.forall₂_map_left_iff, List.forall₂_map_right_iff]
    simp only [ModelEntry.ofModel_eq_iff]
  rw [ofModels, ofModels, ProxyConfig.mk.injEq, hentries]
  exact and_iff_left rfl

end ProxyConfig

namespace GatewaySpec

-- Two specs have the same configuration exactly if they list alike models in the same order; then,
-- and only then, the texts are the same, and with them the hashes. So a config map that holds the
-- text of one spec and the required labels has drifted from the other exactly if the models differ.
theorem rendering_tells_models {s₁ s₂ : GatewaySpec} {r₁ r₂ : RenderedConfig}
    (h₁ : s₁.render = .ok r₁) (h₂ : s₂.render = .ok r₂) :
    (r₁.config = r₂.config ↔ List.Forall₂ Model.Alike s₁.models s₂.models) ∧
    (List.Forall₂ Model.Alike s₁.models s₂.models → r₁.data = r₂.data ∧ r₁.hash = r₂.hash) ∧
    (r₁.data = r₂.data ↔ List.Forall₂ Model.Alike s₁.models s₂.models) ∧
    ∀ (existing : ConfigMap) (metadata : ObjectMeta), existing.configFile? = some r₁.data →
      (existing.drifted (Children.configMapFor metadata r₂) = false ↔
        List.Forall₂ Model.Alike s₁.models s₂.models ∧
          Labels.present existing.metadata.labels (metadata.labels.getD .empty) = true) := by
  cases eq_ofSpec_of_render h₁
  cases eq_ofSpec_of_render h₂
  have hconfig := ProxyConfig.ofModels_eq_iff s₁.models s₂.models
  have hdata : (RenderedConfig.ofSpec s₁).data = (RenderedConfig.ofSpec s₂).data ↔
      List.Forall₂ Model.Alike s₁.models s₂.models :=
    ProxyConfig.text_injective.eq_iff.trans hconfig
  refine ⟨hconfig, fun halike => ?_, hdata, fun existing metadata hfile => ?_⟩
  · exact ⟨hdata.mpr halike, congrArg Fingerprint.ofText (hdata.mpr halike)⟩
  · have hdesired : (Children.configMapFor metadata (.ofSpec s₂)).configFile? =
        some (RenderedConfig.ofSpec s₂).data := by
      simp [Children.configMapFor, ConfigMap.configFile?]
    rw [ConfigMap.drifted_eq_false_iff, hfile, hdesired, Option.some_inj, hdata]
    rfl

-- A model with its provider in its name; a spec that differs from this one in an empty provider and
-- in much that is not rendered; and one that names the provider twice
def namedSpec : GatewaySpec := { models := [{ name := "openai/gpt-4" }] }

def emptySpec : GatewaySpec :=
  { models := [{ name := "openai/gpt-4", provider := some "" }], type := some "litellm",
    port := 8080, env := [{ name := "DEBUG" }] }

def doubledSpec : GatewaySpec :=
  { models := [{ name := "openai/gpt-4", provider := some "openai" }] }

theorem rendering_tells_models_of_named :
    (RenderedConfig.ofSpec namedSpec).hash = (RenderedConfig.ofSpec emptySpec).hash ∧
    (RenderedConfig.ofSpec namedSpec).data ≠ (RenderedConfig.ofSpec doubledSpec).data := by
  have hnamed : namedSpec.render = .ok (.ofSpec namedSpec) := rfl
  have hempty : emptySpec.render = .ok (.ofSpec emptySpec) := rfl
  have hdoubled : doubledSpec.render = .ok (.ofSpec doubledSpec) := rfl
  have hsame := rendering_tells_models hnamed hempty
  have hother := rendering_tells_models hnamed hdoubled
  refine ⟨(hsame.2.1 ?_).2, fun hdata => ?_⟩
  · exact .cons ⟨rfl, by decide⟩ .nil
  · obtain ⟨⟨-, hprovider⟩, -⟩ := List.forall₂_cons.mp (hother.2.2.1.mp hdata)
    exact absurd hprovider (by decide)

end GatewaySpec

end GatewayOperator
