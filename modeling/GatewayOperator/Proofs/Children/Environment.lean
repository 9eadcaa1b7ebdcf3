import GatewayOperator.Proofs.Children.WellFormed
import GatewayOperator.Proofs.Text.Bytes

namespace GatewayOperator

namespace ApiKey

variable {models : List Model} {variableName : String}

theorem mem_required : variableName ∈ required models ↔
    ∃ m ∈ models, ofModel m = some variableName := by
  rw [required, ← List.mem_filterMap]
  exact (Dict.mem_keys_ofList _ variableName).trans (by simp)

theorem ascending_required (models : List Model) :
    (required models).Pairwise fun a b => a.toUTF8.data.toList < b.toUTF8.data.toList := by
  have hdict := (Dict.ofList ((models.filterMap ofModel).map fun v => (v, ()))).ascending
  exact List.pairwise_map.mpr (hdict.imp fun h => (Utf8.bytes_lt_iff _ _).mpr h)

theorem nodup_required (models : List Model) : (required models).Nodup :=
  (ascending_required models).imp fun {a b} hlt (heq : a = b) =>
    List.lt_irrefl _ (heq ▸ hlt)

-- A variable is one of the known ones, or it is made from the name of the provider with an ending
-- that the variable for the log level does not have.
theorem variableOf_ne_logLevelVariable (provider : String) :
    variableOf provider ≠ some Children.logLevelVariable := by
  intro h
  simp only [variableOf] at h
  split at h
  · cases h
  · have hname := Option.some.inj h
    cases hknown : knownVariables.lookup (lowercase provider) with
    | some known =>
      obtain ⟨before, after, hsplit, -⟩ := List.lookup_eq_some_iff.mp hknown
      have hmem : (lowercase provider, known) ∈ knownVariables := by simp [hsplit]
      have hother : ∀ e ∈ knownVariables, e.2 ≠ Children.logLevelVariable := by decide
      rw [hknown, Option.getD_some] at hname
      exact hother _ hmem hname
    | none =>
      rw [hknown, Option.getD_none] at hname
      have hlast := congrArg (fun s => s.toList.getLast?) hname
      simp [Children.logLevelVariable] at hlast

end ApiKey

namespace Children

variable {g : Gateway} {rendered : RenderedConfig} {settings : ProxySettings} {c : Children}

theorem exists_reference_iff (models : List Model) (variableName : String) :
    (∃ e ∈ (ProxyConfig.ofModels models).models,
        e.apiKey = some (ModelEntry.keyReference variableName)) ↔
      variableName ∈ ApiKey.required models := by
  rw [ApiKey.mem_required]
  constructor
  · rintro ⟨e, he, hkey⟩
    obtain ⟨m, hm, rfl⟩ := List.mem_map.mp he
    obtain ⟨v, hv, hsame⟩ := Option.map_eq_some_iff.mp hkey
    have heq : v = variableName := (String.append_right_inj _).mp hsame
    exact ⟨m, hm, heq ▸ hv⟩
  · rintro ⟨m, hm, hv⟩
    exact ⟨_, List.mem_map_of_mem hm, Option.map_eq_some_iff.mpr ⟨variableName, hv, rfl⟩⟩

-- Whatever the models are: the configuration refers to exactly the variables that the models need,
-- and the proxy has these in its environment, each once and from the key of its name in the secret,
-- after the log level and in front of what the spec adds. So it has what each reference asks for.
theorem environment_serves (hrender : g.spec.render = .ok rendered)
    (h : ofGateway g rendered settings = .ok c) :
    (∀ v, (∃ e ∈ rendered.config.models, e.apiKey = some ("os.environ/" ++ v)) ↔
      v ∈ ApiKey.required g.spec.models) ∧
    (ApiKey.required g.spec.models).Pairwise
      (fun a b => a.toUTF8.data.toList < b.toUTF8.data.toList) ∧
    ("LITELLM_LOG" :: ApiKey.required g.spec.models).Nodup ∧
    ∃ spec pod container env, c.deployment.spec = some spec ∧ spec.template.spec = some pod ∧
      pod.containers = [container] ∧ container.env = some env ∧
      env = ({ name := "LITELLM_LOG", value := some "INFO" } : EnvVar) ::
        (ApiKey.required g.spec.models).map (fun v =>
          { name := v
            source := some
              { secretKey := some
                  { key := v, name := settings.apiKeySecret, optional := some true } } }) ++
        g.spec.env ∧
      ∀ e ∈ rendered.config.models, ∀ reference ∈ e.apiKey,
        ∃ entry ∈ env, reference = "os.environ/" ++ entry.name := by
  cases GatewaySpec.eq_ofSpec_of_render hrender
  obtain ⟨ns, owner, -, -, hdeployment, -⟩ := ofGateway_eq_ok h
  have hreferences : ∀ v, (∃ e ∈ (RenderedConfig.ofSpec g.spec).config.models,
      e.apiKey = some ("os.environ/" ++ v)) ↔ v ∈ ApiKey.required g.spec.models :=
    exists_reference_iff g.spec.models
  have hlog : "LITELLM_LOG" ∉ ApiKey.required g.spec.models := by
    intro hmem
    obtain ⟨m, -, hm⟩ := ApiKey.mem_required.mp hmem
    exact ApiKey.variableOf_ne_logLevelVariable _ hm
  refine ⟨hreferences, ApiKey.ascending_required _,
    List.nodup_cons.mpr ⟨hlog, ApiKey.nodup_required _⟩, _, _, container g settings,
    environment g settings, by rw [hdeployment]; rfl, rfl, rfl, rfl, rfl, ?_⟩
  intro e he reference hreference
  obtain ⟨m, -, rfl⟩ := List.mem_map.mp he
  obtain ⟨v, hv, rfl⟩ := Option.map_eq_some_iff.mp hreference
  have hrequired : v ∈ ApiKey.required g.spec.models := (hreferences v).mp ⟨_, he, hreference⟩
  refine ⟨apiKeyVariable settings.apiKeySecret v, ?_, rfl⟩
  exact List.mem_append_left _ (List.mem_cons_of_mem _ (List.mem_map_of_mem hrequired))

-- A gateway whose models name their providers in every way there is
def mixedGateway : Gateway :=
  { metadata := { name := some "gw", ns := some "default", uid := some "1" }
    spec :=
      { models :=
          [{ name := "gpt-4", provider := some "OpenAI" }, { name := "openai/gpt-4o" },
           { name := "Mistral/large", provider := some "" },
           { name := "llama3", provider := some "ollama" }, { name := "gpt-4" },
           { name := "gpt-4", provider := some "openai" }]
        env := [{ name := "MISTRAL_API_KEY", value := some "secret" }] } }

-- The user's own variable stands behind the one of its name that comes from the secret.
theorem environment_serves_mixed :
    ∃ rendered c, mixedGateway.spec.render = .ok rendered ∧
      ofGateway mixedGateway rendered {} = .ok c ∧
      (∀ v, (∃ e ∈ rendered.config.models, e.apiKey = some ("os.environ/" ++ v)) ↔
        v ∈ ["GPT-4_API_KEY", "MISTRAL_API_KEY", "OPENAI_API_KEY"]) ∧
      ∃ spec pod container env, c.deployment.spec = some spec ∧ spec.template.spec = some pod ∧
        pod.containers = [container] ∧ container.env = some env ∧
        env.map (·.name) =
          ["LITELLM_LOG", "GPT-4_API_KEY", "MISTRAL_API_KEY", "OPENAI_API_KEY",
            "MISTRAL_API_KEY"] := by
  have hrequired : ApiKey.required mixedGateway.spec.models =
      ["GPT-4_API_KEY", "MISTRAL_API_KEY", "OPENAI_API_KEY"] := by
    decide +kernel
  have hrender : mixedGateway.spec.render = .ok (.ofSpec mixedGateway.spec) := rfl
  have hchildren : ∃ c, ofGateway mixedGateway (.ofSpec mixedGateway.spec) {} = .ok c := ⟨_, rfl⟩
  obtain ⟨c, hc⟩ := hchildren
  obtain ⟨hreferences, -, -, spec, pod, container, env, hspec, hpod, hcontainer, henv, hentries,
    -⟩ := environment_serves hrender hc
  rw [hrequired] at hreferences hentries
  exact ⟨_, c, hrender, hc, hreferences, spec, pod, container, env, hspec, hpod, hcontainer, henv,
    hentries ▸ rfl⟩

end Children

end GatewayOperator
