import GatewayOperator.Proofs.Children.Comparison
import GatewayOperator.Proofs.Children.Environment
import Mathlib.Data.List.Nodup
import Mathlib.Data.Prod.Lex
import Mathlib.Data.String.Basic
import Mathlib.Order.WithBot

namespace GatewayOperator

section Optional

variable {α : Type} {equal : α → α → Bool}

theorem optionalEqual_none_left (o : Option α) : optionalEqual equal none o = true ↔ o = none := by
  cases o <;> simp [optionalEqual]

theorem optionalEqual_none_right (o : Option α) :
    optionalEqual equal o none = true ↔ o = none := by
  cases o <;> simp [optionalEqual]

theorem equivalence_optionalEqual (h : Equivalence fun a b => equal a b = true) :
    Equivalence fun a b => optionalEqual equal a b = true where
  refl
    | none => rfl
    | some a => h.refl a
  symm {a b} hab :=
    match a, b, hab with
    | none, none, _ => rfl
    | some _, some _, hab => h.symm hab
  trans {a b c} hab hbc :=
    match a, b, c, hab, hbc with
    | none, none, none, _, _ => rfl
    | some _, some _, some _, hab, hbc => h.trans hab hbc

end Optional

-- Absent values come before all present ones.
def optionRank (o : Option String) : WithBot String := o.elim ⊥ WithBot.some

theorem optionRank_inj {a b : Option String} : optionRank a = optionRank b ↔ a = b := by
  cases a <;> cases b <;> simp [optionRank]

theorem optionLe_iff (a b : Option String) :
    optionLe a b = true ↔ optionRank a ≤ optionRank b := by
  cases a <;> cases b <;> simp [optionLe, optionRank]

namespace Model

def rank (m : Model) : WithBot String ×ₗ String := toLex (optionRank m.provider, m.name)

theorem rank_injective : Function.Injective rank := by
  intro x y h
  obtain ⟨hprovider, hname⟩ := Prod.mk.inj (toLex.injective h)
  cases x
  cases y
  exact congrArg₂ Model.mk hname (optionRank_inj.mp hprovider)

theorem comparesBy_rank : ComparesBy le rank := by
  intro x y
  rw [rank, rank, Prod.Lex.toLex_le_toLex]
  by_cases h : x.provider = y.provider
  · simp [le, h]
  · have hne : optionRank x.provider ≠ optionRank y.provider := mt optionRank_inj.mp h
    simp only [le, h, if_false, optionLe_iff, hne, false_and, or_false]
    exact hne.le_iff_lt

theorem listsEqual_iff_perm (a b : List Model) :
    listsEqual (some a) (some b) = true ↔ a.Perm b :=
  sortedEqual_iff_perm comparesBy_rank fun _ _ _ _ h => rank_injective h

theorem equivalence_listsEqual :
    Equivalence fun a b : Option (List Model) => listsEqual a b = true := by
  refine equivalence_optionalEqual ?_
  have hperm (a b : List Model) : sortedEqual le a b = true ↔ a.Perm b := listsEqual_iff_perm a b
  simp only [hperm]
  exact List.Perm.eqv Model

-- Lists of models are equal exactly if one is a permutation of the other: each model stands equally
-- often in both, where an absent provider is not an empty one. An absent list is equal to an absent
-- list only. So this is an equivalence, and reordering either side makes no difference.
theorem lists_compare_as_multisets :
    (∀ a b : List Model, listsEqual (some a) (some b) = true ↔ a.Perm b) ∧
    (∀ a b : List Model, listsEqual (some a) (some b) = true ↔
      ∀ name provider, a.count ⟨name, provider⟩ = b.count ⟨name, provider⟩) ∧
    (∀ o, (listsEqual none o = true ↔ o = none) ∧ (listsEqual o none = true ↔ o = none)) ∧
    Equivalence (fun a b : Option (List Model) => listsEqual a b = true) ∧
    ∀ a a' b b' : List Model, a.Perm a' → b.Perm b' →
      listsEqual (some a) (some b) = listsEqual (some a') (some b') := by
  refine ⟨listsEqual_iff_perm, fun a b => ?_,
    fun o => ⟨optionalEqual_none_left o, optionalEqual_none_right o⟩, equivalence_listsEqual, ?_⟩
  · rw [listsEqual_iff_perm, List.perm_iff_count]
    exact ⟨fun h name provider => h ⟨name, provider⟩, fun h m => h m.name m.provider⟩
  · intro a a' b b' ha hb
    rw [Bool.eq_iff_iff, listsEqual_iff_perm, listsEqual_iff_perm, ha.congr_left, hb.congr_right]

-- A model without a provider and the same model with an empty one
def bareModel : Model := { name := "gpt-4" }

def blankModel : Model := { name := "gpt-4", provider := some "" }

theorem lists_compare_as_multisets_of_bare :
    listsEqual (some [bareModel, blankModel]) (some [blankModel, bareModel]) =
      listsEqual (some [bareModel, blankModel]) (some [bareModel, blankModel]) ∧
    listsEqual (some [bareModel, bareModel]) (some [bareModel, blankModel]) ≠ true := by
  obtain ⟨-, hcount, -, -, hreorder⟩ := lists_compare_as_multisets
  refine ⟨hreorder _ _ _ _ (.refl _) (.swap _ _ _), fun h => ?_⟩
  exact absurd ((hcount _ _).mp h "gpt-4" none) (by decide)

end Model

namespace EnvVar

theorem comparesBy_name : ComparesBy (fun x y : EnvVar => x.name ≤ y.name) name :=
  fun _ _ => decide_eq_true_iff

theorem listsEqual_iff_filter (a b : List EnvVar) :
    listsEqual (some a) (some b) = true ↔
      ∀ name, a.filter (fun v => v.name = name) = b.filter fun v => v.name = name :=
  sortedEqual_iff_filter comparesBy_name a b

theorem listsEqual_iff_perm_of_nodup {a : List EnvVar} (h : (a.map name).Nodup)
    (b : List EnvVar) : listsEqual (some a) (some b) = true ↔ a.Perm b :=
  sortedEqual_iff_perm comparesBy_name fun _ hx _ hy => List.inj_on_of_nodup_map h hx hy

-- The last variable of a name is the one that a container gets.
def effective? (vars : List EnvVar) (name : String) : Option EnvVar :=
  vars.reverse.find? fun v => v.name = name

theorem effective?_eq_getLast? (vars : List EnvVar) (name : String) :
    effective? vars name = (vars.filter fun v => v.name = name).getLast? := by
  rw [effective?, List.getLast?_eq_head?_reverse, ← List.filter_reverse, List.head?_filter]

theorem effective?_append (vars more : List EnvVar) (name : String) :
    effective? (vars ++ more) name = (effective? more name).or (effective? vars name) := by
  rw [effective?, List.reverse_append, List.find?_append]
  rfl

theorem effective?_eq_of_listsEqual {a b : List EnvVar}
    (h : listsEqual (some a) (some b) = true) (name : String) :
    effective? a name = effective? b name := by
  rw [effective?_eq_getLast?, effective?_eq_getLast?, (listsEqual_iff_filter a b).mp h name]

-- What a spec says of a variable holds over what is said of it for each gateway.
theorem effective?_environment {g : Gateway} {name : String} (h : ∃ v ∈ g.spec.env, v.name = name)
    (settings : ProxySettings) :
    effective? (Children.environment g settings) name = effective? g.spec.env name := by
  obtain ⟨v, hv, hname⟩ := h
  obtain ⟨w, hw⟩ : ∃ w, effective? g.spec.env name = some w := by
    rw [← Option.isSome_iff_exists, effective?, List.find?_isSome]
    exact ⟨v, List.mem_reverse.mpr hv, decide_eq_true hname⟩
  rw [Children.environment, effective?_append, hw]
  rfl

-- Lists of variables are equal exactly if they have the same entries of each name, in the same
-- order. So without repeated names they are equal exactly if one is a permutation of the other, and
-- with them equal lists agree in the last entry of each name: a container whose variables count as
-- those of a gateway has each variable of the spec as the spec defines it last, also where the spec
-- defines a variable anew that every gateway gets. An absent list is equal to an absent list only.
theorem lists_compare_by_name :
    (∀ a b : List EnvVar, listsEqual (some a) (some b) = true ↔
      ∀ name, a.filter (fun v => v.name = name) = b.filter fun v => v.name = name) ∧
    (∀ a b : List EnvVar, (a.map name).Nodup →
      (listsEqual (some a) (some b) = true ↔ a.Perm b)) ∧
    (∀ a b : List EnvVar, listsEqual (some a) (some b) = true →
      ∀ name, effective? a name = effective? b name) ∧
    (∀ (running : List EnvVar) (g : Gateway) (settings : ProxySettings),
      listsEqual (some running) (some (Children.environment g settings)) = true →
      ∀ name, (∃ v ∈ g.spec.env, v.name = name) →
        effective? running name = effective? g.spec.env name) ∧
    ∀ o, (listsEqual none o = true ↔ o = none) ∧ (listsEqual o none = true ↔ o = none) := by
  refine ⟨listsEqual_iff_filter, fun a b h => listsEqual_iff_perm_of_nodup h b,
    fun a b => effective?_eq_of_listsEqual, fun running g settings h name hname => ?_,
    fun o => ⟨optionalEqual_none_left o, optionalEqual_none_right o⟩⟩
  rw [effective?_eq_of_listsEqual h name, effective?_environment hname]

-- The variables of a gateway that defines one of its keys anew, with the log level moved to the end
def shiftedEnvironment : List EnvVar :=
  ["GPT-4_API_KEY", "MISTRAL_API_KEY", "OPENAI_API_KEY"].map
      (Children.apiKeyVariable "api-key-secrets") ++
    [{ name := "MISTRAL_API_KEY", value := some "secret" },
     { name := "LITELLM_LOG", value := some "INFO" }]

theorem lists_compare_by_name_of_shifted :
    listsEqual (some shiftedEnvironment)
      (some (Children.environment Children.mixedGateway {})) = true ∧
    effective? shiftedEnvironment "MISTRAL_API_KEY" =
      some { name := "MISTRAL_API_KEY", value := some "secret" } := by
  obtain ⟨hfilter, -, -, heffective, -⟩ := lists_compare_by_name
  have henvironment : Children.environment Children.mixedGateway {} =
      { name := "LITELLM_LOG", value := some "INFO" } :: shiftedEnvironment.dropLast := by
    decide +kernel
  have hequal : listsEqual (some shiftedEnvironment)
      (some (Children.environment Children.mixedGateway {})) = true := by
    rw [hfilter, henvironment]
    intro name
    by_cases h : "LITELLM_LOG" = name
    · subst h
      decide
    · simp [shiftedEnvironment, List.filter_cons, h]
  refine ⟨hequal, ?_⟩
  rw [heffective _ _ _ hequal "MISTRAL_API_KEY" (by decide)]
  rfl

end EnvVar

namespace EnvImport

theorem comparesBy_key : ComparesBy (fun x y : EnvImport => x.key ≤ y.key) key :=
  fun _ _ => decide_eq_true_iff

-- Two imports of one config map or, where no config map is imported, of one secret or of nothing
def SameSource (i j : EnvImport) : Prop :=
  i.configMap.map BulkReference.name = j.configMap.map BulkReference.name ∧
    (i.configMap = none → i.secret.map BulkReference.name = j.secret.map BulkReference.name)

instance (i j : EnvImport) : Decidable (SameSource i j) :=
  inferInstanceAs (Decidable (_ ∧ (_ → _)))

-- What is imported shows in the first letter of the key.
theorem secretKey_ne (secret configMap : String) : "secret:" ++ secret ≠ "cm:" ++ configMap := by
  intro h
  have hletters := congrArg String.toList h
  simp at hletters

theorem key_eq_iff (i j : EnvImport) : i.key = j.key ↔ i.SameSource j := by
  obtain ⟨configMap, keyPrefix, secret⟩ := i
  obtain ⟨configMap', keyPrefix', secret'⟩ := j
  cases configMap <;> cases secret <;> cases configMap' <;> cases secret' <;>
    simp [key, SameSource, secretKey_ne, (secretKey_ne _ _).symm]

theorem listsEqual_iff_filter (a b : List EnvImport) :
    listsEqual (some a) (some b) = true ↔
      ∀ i : EnvImport, a.filter (fun j => i.SameSource j) = b.filter fun j => i.SameSource j := by
  have hkey := sortedEqual_iff_filter_key comparesBy_key a b
  simp only [key_eq_iff] at hkey
  exact hkey

-- Two imports of one source: the list with the first of them in front and the list with the second
-- in front can both be equal to a third list only if the two are the same import.
theorem eq_of_listsEqual_of_perm {a : List EnvImport}
    (h : ∀ b : List EnvImport, b.Perm a → listsEqual (some a) (some b) = true) {i j : EnvImport}
    (hi : i ∈ a) (hj : j ∈ a) (hsource : i.SameSource j) : i = j := by
  have hfirst {k : EnvImport} (hk : k ∈ a) (hik : i.SameSource k) :
      (a.filter fun j => i.SameSource j).head? = some k := by
    have hequal := h (k :: a.erase k) (List.perm_cons_erase hk).symm
    rw [(listsEqual_iff_filter _ _).mp hequal i]
    simp [hik]
  have hself : i.SameSource i := ⟨rfl, fun _ => rfl⟩
  exact Option.some_inj.mp ((hfirst hi hself).symm.trans (hfirst hj hsource))

-- Lists of imports are equal exactly if one is a permutation of the other and the entries of each
-- source stand in the same order in both. So a list is equal to all its permutations exactly if no
-- two different imports in it have the same source.
theorem lists_compare_by_source (a b : List EnvImport) :
    (listsEqual (some a) (some b) = true ↔ b.Perm a ∧
      ∀ i : EnvImport, a.filter (fun j => i.SameSource j) = b.filter fun j => i.SameSource j) ∧
    ((∀ c : List EnvImport, listsEqual (some a) (some c) = true ↔ c.Perm a) ↔
      ∀ i ∈ a, ∀ j ∈ a, i.SameSource j → i = j) := by
  have hfilter := listsEqual_iff_filter a b
  refine ⟨⟨fun h => ⟨(perm_of_sortedEqual h).symm, hfilter.mp h⟩, fun h => hfilter.mpr h.2⟩,
    fun h i hi j hj hsource => ?_, fun hapart c => ?_⟩
  · exact eq_of_listsEqual_of_perm (fun c => (h c).mpr) hi hj hsource
  · have hkeys : ∀ x ∈ a, ∀ y ∈ a, x.key = y.key → x = y := fun x hx y hy hkey =>
      hapart x hx y hy ((key_eq_iff x y).mp hkey)
    exact (sortedEqual_iff_perm comparesBy_key hkeys).trans List.perm_comm

-- All of a config map under some prefix, and a secret of the same name
def settingsUnder (keyPrefix : String) : EnvImport :=
  { configMap := some ⟨"settings", none⟩, keyPrefix := some keyPrefix, secret := none }

def settingsSecret : EnvImport :=
  { configMap := none, keyPrefix := none, secret := some ⟨"settings", some true⟩ }

theorem lists_compare_by_source_of_distinct :
    listsEqual (some [settingsUnder "A_", settingsSecret])
      (some [settingsSecret, settingsUnder "A_"]) = true := by
  obtain ⟨-, hperm⟩ := lists_compare_by_source [settingsUnder "A_", settingsSecret]
    [settingsSecret, settingsUnder "A_"]
  exact (hperm.mpr (by decide) _).mpr (.swap _ _ _)

-- The same two imports in another order do not count as equal.
theorem not_listsEqual_of_swapped :
    [settingsUnder "B_", settingsUnder "A_"].Perm [settingsUnder "A_", settingsUnder "B_"] ∧
    listsEqual (some [settingsUnder "A_", settingsUnder "B_"])
      (some [settingsUnder "B_", settingsUnder "A_"]) = false := by
  refine ⟨.swap _ _ _, Bool.eq_false_iff.mpr fun h => ?_⟩
  exact absurd ((listsEqual_iff_filter _ _).mp h (settingsUnder "A_")) (by decide)

end EnvImport

end GatewayOperator
