import GatewayOperator.Proofs.Children.Environment
import GatewayOperator.Proofs.Proxy.Route

namespace GatewayOperator

open Case

namespace ApiKey

variable {p q variableName : String} {a b : Model}

-- One of the listed variables does not follow from the name of its provider.
theorem getD_lookup_known (p : String) :
    (knownVariables.lookup p).getD (uppercase p ++ "_API_KEY") =
      if p = "bedrock" then "AWS_ACCESS_KEY_ID" else uppercase p ++ "_API_KEY" := by
  cases hknown : knownVariables.lookup p with
  | some known =>
    obtain ⟨before, after, hsplit, -⟩ := List.lookup_eq_some_iff.mp hknown
    have hmem : (p, known) ∈ knownVariables := by simp [hsplit]
    have hall : ∀ e ∈ knownVariables,
        e.2 = if e.1 = "bedrock" then "AWS_ACCESS_KEY_ID" else uppercase e.1 ++ "_API_KEY" := by
      decide +kernel
    exact hall _ hmem
  | none =>
    have hother : p ≠ "bedrock" := by
      rintro rfl
      cases hknown
    simp [hother]

theorem variableOf_eq (p : String) : variableOf p =
    if lowercase p = "" ∨ lowercase p = "ollama" then none
    else some (if lowercase p = "bedrock" then "AWS_ACCESS_KEY_ID"
      else uppercase (lowercase p) ++ "_API_KEY") := by
  rw [variableOf, getD_lookup_known]

-- A variable with another ending than all that follow from a name
theorem ne_append_apiKey (p : String) : "AWS_ACCESS_KEY_ID" ≠ p ++ "_API_KEY" := by
  intro heq
  have hlast := congrArg (fun s => s.toList.getLast?) heq
  simp at hlast

theorem slashes_of_variableOf (h : variableOf p = some variableName) :
    slashes variableName = slashes p := by
  rw [variableOf_eq] at h
  split at h
  · cases h
  · cases h
    split
    next hbedrock =>
      rw [← slashes_lowercase p, hbedrock]
      rfl
    next =>
      rw [slashes_append, slashes_uppercase, slashes_lowercase]
      rfl

theorem slashes_of_variableOf_eq_none (h : variableOf p = none) : slashes p = 0 := by
  rw [variableOf_eq] at h
  split at h
  next hnone =>
    rw [← slashes_lowercase p]
    rcases hnone with hp | hp <;> rw [hp] <;> rfl
  next => cases h

theorem slashes_eq_of_variableOf_eq (h : variableOf p = variableOf q) :
    slashes p = slashes q := by
  cases hq : variableOf q with
  | none =>
    rw [slashes_of_variableOf_eq_none hq, slashes_of_variableOf_eq_none (h.trans hq)]
  | some v =>
    rw [← slashes_of_variableOf hq, ← slashes_of_variableOf (h.trans hq)]

theorem apiKey_ofModel_eq_iff (a b : Model) :
    (ModelEntry.ofModel a).apiKey = (ModelEntry.ofModel b).apiKey ↔
      variableOf (Route.ofModel a).provider = variableOf (Route.ofModel b).provider := by
  have hinjective : Function.Injective ModelEntry.keyReference :=
    fun _ _ => (String.append_right_inj _).mp
  exact (Option.map_injective hinjective).eq_iff

-- Two models that are routed to one target have the same provider, and the same key, exactly if
-- their providers are spelled with as many slashes. A provider in the name of its model is spelled
-- without any, so that all is well where no provider with a slash is given beside the name.
theorem apiKey_eq_iff_of_target_eq
    (h : (Route.ofModel a).target = (Route.ofModel b).target) :
    ((Route.ofModel a).provider = (Route.ofModel b).provider ↔
      slashes a.writtenProvider = slashes b.writtenProvider) ∧
    ((ModelEntry.ofModel a).apiKey = (ModelEntry.ofModel b).apiKey ↔
      slashes a.writtenProvider = slashes b.writtenProvider) ∧
    ((∀ given ∈ a.givenProvider?, slashes given = 0) →
      (∀ given ∈ b.givenProvider?, slashes given = 0) →
      (Route.ofModel a).provider = (Route.ofModel b).provider ∧
        (ModelEntry.ofModel a).apiKey = (ModelEntry.ofModel b).apiKey) := by
  have hwritten := Route.writtenProvider_eq_iff h
  have hprovider : (Route.ofModel a).provider = (Route.ofModel b).provider ↔
      slashes a.writtenProvider = slashes b.writtenProvider := by
    rw [Route.provider_ofModel, Route.provider_ofModel]
    constructor
    · intro heq
      rw [← slashes_lowercase, heq, slashes_lowercase]
    · intro hcount
      rw [hwritten.mpr hcount]
  have hkey : (ModelEntry.ofModel a).apiKey = (ModelEntry.ofModel b).apiKey ↔
      slashes a.writtenProvider = slashes b.writtenProvider := by
    rw [apiKey_ofModel_eq_iff]
    constructor
    · intro heq
      have hcount := slashes_eq_of_variableOf_eq heq
      simpa only [Route.provider_ofModel, slashes_lowercase] using hcount
    · intro hcount
      rw [hprovider.mpr hcount]
  have hspelled {m : Model} (hm : ∀ given ∈ m.givenProvider?, slashes given = 0) :
      slashes m.writtenProvider = 0 := by
    cases hgiven : m.givenProvider? with
    | none => exact Route.slashes_writtenProvider_of_none hgiven
    | some given => simpa [Model.writtenProvider, hgiven] using hm given hgiven
  refine ⟨hprovider, hkey, fun ha hb => ?_⟩
  have hcount := (hspelled ha).trans (hspelled hb).symm
  exact ⟨hprovider.mpr hcount, hkey.mpr hcount⟩

-- A model of a provider that passes requests on to another provider, and the same target in a name
def relayedModel : Model := { name := "claude", provider := some "openrouter/anthropic" }

def relayedName : Model := { name := "openrouter/anthropic/claude" }

theorem apiKey_eq_iff_of_relayed :
    (Route.ofModel relayedModel).target = (Route.ofModel relayedName).target ∧
    ((ModelEntry.ofModel relayedModel).apiKey = (ModelEntry.ofModel relayedName).apiKey ↔
      slashes relayedModel.writtenProvider = slashes relayedName.writtenProvider) := by
  have htarget : (Route.ofModel relayedModel).target = (Route.ofModel relayedName).target := by
    decide +kernel
  exact ⟨htarget, (apiKey_eq_iff_of_target_eq htarget).2.1⟩

-- Both names are there and the targets are the same, but neither the providers nor the keys are.
theorem apiKey_ne_of_relayed :
    relayedModel.name ≠ "" ∧ relayedName.name ≠ "" ∧
    (Route.ofModel relayedModel).target = (Route.ofModel relayedName).target ∧
    (Route.ofModel relayedModel).provider ≠ (Route.ofModel relayedName).provider ∧
    (ModelEntry.ofModel relayedModel).apiKey ≠ (ModelEntry.ofModel relayedName).apiKey := by
  decide +kernel

-- Nobody and Ollama need no key.
def Keyless (p : String) : Prop := EqualUpToCase p "" ∨ EqualUpToCase p "ollama"

instance (p : String) : Decidable (Keyless p) :=
  inferInstanceAs (Decidable (EqualUpToCase p "" ∨ EqualUpToCase p "ollama"))

-- In ASCII, a name in lower case is met by what equals it up to case.
theorem lowercase_eq_iff_of_lower {known : String} (hp : IsAscii p) (hascii : IsAscii known)
    (hlower : lowercase known = known) : lowercase p = known ↔ EqualUpToCase p known := by
  rw [← lowercase_eq_iff hp hascii, hlower]

theorem keyless_iff (hp : IsAscii p) :
    (lowercase p = "" ∨ lowercase p = "ollama") ↔ Keyless p :=
  or_congr (lowercase_eq_iff_of_lower hp (by decide) (by decide +kernel))
    (lowercase_eq_iff_of_lower hp (by decide) (by decide +kernel))

theorem variableOf_eq_none_iff (hp : IsAscii p) : variableOf p = none ↔ Keyless p := by
  rw [variableOf_eq, ← keyless_iff hp]
  split <;> simp [*]

theorem variableOf_of_not_keyless (hp : IsAscii p) (h : ¬ Keyless p) : variableOf p =
    some (if lowercase p = "bedrock" then "AWS_ACCESS_KEY_ID"
      else uppercase (lowercase p) ++ "_API_KEY") := by
  rw [variableOf_eq, if_neg (mt (keyless_iff hp).mp h)]

-- The part in front of the ending tells the name, and the one variable without this ending is that
-- of one name.
theorem equalUpToCase_of_variableOf_eq (hp : IsAscii p) (hq : IsAscii q) (hkey : ¬ Keyless p)
    (h : variableOf p = variableOf q) : EqualUpToCase p q := by
  have hkey' : ¬ Keyless q := by
    rw [← variableOf_eq_none_iff hq, ← h, variableOf_eq_none_iff hp]
    exact hkey
  rw [variableOf_of_not_keyless hp hkey, variableOf_of_not_keyless hq hkey',
    Option.some.injEq] at h
  rw [← lowercase_eq_iff hp hq]
  by_cases hbp : lowercase p = "bedrock"
  · by_cases hbq : lowercase q = "bedrock"
    · rw [hbp, hbq]
    · rw [if_pos hbp, if_neg hbq] at h
      exact absurd h (ne_append_apiKey _)
  · by_cases hbq : lowercase q = "bedrock"
    · rw [if_neg hbp, if_pos hbq] at h
      exact absurd h.symm (ne_append_apiKey _)
    · rw [if_neg hbp, if_neg hbq] at h
      have hlower := equalUpToCase_of_uppercase (isAscii_lowercase hp) (isAscii_lowercase hq)
        ((String.append_left_inj _).mp h)
      rw [← lowercase_eq_iff (isAscii_lowercase hp) (isAscii_lowercase hq),
        lowercase_lowercase hp, lowercase_lowercase hq] at hlower
      exact hlower

theorem variableOf_eq_of_equalUpToCase (hp : IsAscii p) (hq : IsAscii q)
    (h : EqualUpToCase p q) : variableOf p = variableOf q := by
  rw [variableOf_eq, variableOf_eq, (lowercase_eq_iff hp hq).mpr h]

theorem variableOf_eq_iff (hp : IsAscii p) (hq : IsAscii q) :
    variableOf p = variableOf q ↔ EqualUpToCase p q ∨ Keyless p ∧ Keyless q := by
  constructor
  · intro h
    by_cases hkey : Keyless p
    · refine .inr ⟨hkey, ?_⟩
      rw [← variableOf_eq_none_iff hq, ← h, variableOf_eq_none_iff hp]
      exact hkey
    · exact .inl (equalUpToCase_of_variableOf_eq hp hq hkey h)
  · rintro (h | ⟨hkeyP, hkeyQ⟩)
    · exact variableOf_eq_of_equalUpToCase hp hq h
    · rw [(variableOf_eq_none_iff hp).mpr hkeyP, (variableOf_eq_none_iff hq).mpr hkeyQ]

-- The provider of a route is in lower case already.
theorem ofModel_eq_variableOf (h : IsAscii a.writtenProvider) :
    ofModel a = variableOf a.writtenProvider := by
  rw [ofModel, Route.provider_ofModel, variableOf_eq, lowercase_lowercase h, ← variableOf_eq]

-- Whatever it is, a name in ASCII that is not listed has another variable than those that are.
theorem variableOf_ne_of_unlisted (hp : IsAscii p)
    (hunlisted : ∀ known ∈ knownVariables, ¬ EqualUpToCase p known.1) :
    ∀ known ∈ knownVariables, variableOf p ≠ some known.2 := by
  intro known hmem h
  have hlisted : ∀ e ∈ knownVariables,
      IsAscii e.1 ∧ ¬ Keyless e.1 ∧ variableOf e.1 = some e.2 := by
    decide +kernel
  obtain ⟨hascii, hkey, hvariable⟩ := hlisted known hmem
  rcases (variableOf_eq_iff hp hascii).mp (h.trans hvariable.symm) with hsame | ⟨-, hother⟩
  · exact hunlisted known hmem hsame
  · exact hkey hother

-- Names in ASCII, of any length: they have the same variable exactly if they are equal up to case
-- or both need no key, and none exactly if they need no key. So of the models that need a key two
-- have the same variable among those required exactly if their providers are equal up to case, and
-- no name that is not listed has a listed variable or the one for the log level.
theorem variables_apart :
    (∀ p q, IsAscii p → IsAscii q →
      (variableOf p = variableOf q ↔ EqualUpToCase p q ∨ Keyless p ∧ Keyless q)) ∧
    (∀ p, IsAscii p → (variableOf p = none ↔ Keyless p)) ∧
    (∀ models, ∀ a ∈ models, ∀ b ∈ models,
      IsAscii a.writtenProvider → IsAscii b.writtenProvider →
      ¬ Keyless a.writtenProvider → ¬ Keyless b.writtenProvider →
      ∃ v ∈ required models, ∃ w ∈ required models, ofModel a = some v ∧ ofModel b = some w ∧
        (v = w ↔ EqualUpToCase a.writtenProvider b.writtenProvider)) ∧
    (∀ p, IsAscii p → (∀ known ∈ knownVariables, ¬ EqualUpToCase p known.1) →
      ∀ known ∈ knownVariables, variableOf p ≠ some known.2) ∧
    ∀ p, variableOf p ≠ some "LITELLM_LOG" := by
  refine ⟨fun p q => variableOf_eq_iff, fun p => variableOf_eq_none_iff, ?_,
    fun p => variableOf_ne_of_unlisted, variableOf_ne_logLevelVariable⟩
  intro models a ha b hb hascii hascii' hkey hkey'
  obtain ⟨v, hv⟩ : ∃ v, ofModel a = some v := by
    rw [← Option.ne_none_iff_exists', ofModel_eq_variableOf hascii]
    exact mt (variableOf_eq_none_iff hascii).mp hkey
  obtain ⟨w, hw⟩ : ∃ w, ofModel b = some w := by
    rw [← Option.ne_none_iff_exists', ofModel_eq_variableOf hascii']
    exact mt (variableOf_eq_none_iff hascii').mp hkey'
  refine ⟨v, mem_required.mpr ⟨a, ha, hv⟩, w, mem_required.mpr ⟨b, hb, hw⟩, hv, hw, ?_⟩
  rw [← Option.some_inj, ← hv, ← hw, ofModel_eq_variableOf hascii, ofModel_eq_variableOf hascii',
    variableOf_eq_iff hascii hascii']
  exact or_iff_left fun h => hkey h.1

-- Bedrock is listed with a variable of another form; the beginning of that, as a name, is far from
-- it.
theorem variables_apart_bedrock :
    (variableOf "bedrock" = variableOf "BedRock" ↔
      EqualUpToCase "bedrock" "BedRock" ∨ Keyless "bedrock" ∧ Keyless "BedRock") ∧
    (variableOf "OLLAMA" = none ↔ Keyless "OLLAMA") ∧
    ∀ known ∈ knownVariables, variableOf "aws_access_key_id" ≠ some known.2 := by
  obtain ⟨hsame, hnone, -, hunlisted, -⟩ := variables_apart
  exact ⟨hsame "bedrock" "BedRock" (by decide) (by decide), hnone "OLLAMA" (by decide),
    hunlisted "aws_access_key_id" (by decide) (by decide)⟩

end ApiKey

end GatewayOperator
