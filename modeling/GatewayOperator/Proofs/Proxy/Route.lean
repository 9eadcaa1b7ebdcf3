import GatewayOperator.Proofs.Text.Case
import GatewayOperator.Proxy.Config

namespace GatewayOperator

open Case

namespace Model

-- The provider that is given beside the name; an empty one is none.
def givenProvider? (m : Model) : Option String := m.provider.filter (· ≠ "")

-- The provider as it is written, beside the name or in it.
def writtenProvider (m : Model) : String := m.givenProvider?.getD (beforeSlash m.name)

-- The models have one name, and the same provider is given for both or none for either.
def Alike (a b : Model) : Prop := a.name = b.name ∧ a.givenProvider? = b.givenProvider?

end Model

namespace Route

variable {a b m : Model}

theorem ofModel_eq (m : Model) : ofModel m =
    ⟨m.givenProvider?.elim m.name (· ++ "/" ++ m.name), lowercase m.writtenProvider⟩ := by
  unfold ofModel Model.writtenProvider Model.givenProvider?
  split
  next provider hprovider =>
    rw [hprovider]
    rfl
  next hprovider =>
    rw [hprovider]
    rfl

@[simp] theorem provider_ofModel (m : Model) :
    (ofModel m).provider = lowercase m.writtenProvider := by
  rw [ofModel_eq]

-- A provider in front makes the target longer than the name.
theorem givenProvider?_eq_of_target_eq (hname : a.name = b.name)
    (h : (ofModel a).target = (ofModel b).target) : a.givenProvider? = b.givenProvider? := by
  rw [ofModel_eq, ofModel_eq, hname] at h
  have hlength (p : String) : b.name ≠ p ++ "/" ++ b.name := by
    intro heq
    have hsize := congrArg String.length heq
    simp only [String.length_append] at hsize
    have hslash : "/".length = 1 := rfl
    omega
  cases ha : a.givenProvider? with
  | none =>
    cases hb : b.givenProvider? with
    | none => rfl
    | some q =>
      rw [ha, hb] at h
      exact absurd h (hlength q)
  | some p =>
    cases hb : b.givenProvider? with
    | none =>
      rw [ha, hb] at h
      exact absurd h.symm (hlength p)
    | some q =>
      rw [ha, hb] at h
      have hjoined : p ++ ("/" ++ b.name) = q ++ ("/" ++ b.name) := by
        simpa only [Option.elim_some, String.append_assoc] using h
      rw [(String.append_left_inj _).mp hjoined]

-- Behind the provider the target ends or goes on with a slash.
theorem exists_target_eq (m : Model) : ∃ rest, (ofModel m).target.toList =
    m.writtenProvider.toList ++ rest ∧ ∀ c ∈ rest.head?, c = '/' := by
  rw [ofModel_eq, Model.writtenProvider]
  cases m.givenProvider? with
  | some p => exact ⟨'/' :: m.name.toList, by simp, by simp⟩
  | none =>
    refine ⟨m.name.toList.dropWhile (· ≠ '/'), by simp [beforeSlash], fun c hc => ?_⟩
    have hfirst := List.head?_dropWhile_not (· ≠ '/') m.name.toList
    rw [show (m.name.toList.dropWhile _).head? = some c from hc] at hfirst
    simpa using hfirst

-- Two beginnings of a text, each of which ends in front of a slash or at the end of the text, are
-- the same if they hold as many slashes.
theorem eq_of_append_eq {as bs rest more : List Char} (h : as ++ rest = bs ++ more)
    (hrest : ∀ c ∈ rest.head?, c = '/') (hmore : ∀ c ∈ more.head?, c = '/')
    (hcount : as.count '/' = bs.count '/') : as = bs := by
  rcases List.append_eq_append_iff.mp h with ⟨mid, rfl, rfl⟩ | ⟨mid, rfl, rfl⟩
  · cases mid with
    | nil => simp
    | cons c mid =>
      cases hrest c rfl
      simp at hcount
  · cases mid with
    | nil => simp
    | cons c mid =>
      cases hmore c rfl
      simp at hcount

theorem writtenProvider_eq_iff (h : (ofModel a).target = (ofModel b).target) :
    a.writtenProvider = b.writtenProvider ↔
      slashes a.writtenProvider = slashes b.writtenProvider := by
  refine ⟨fun heq => by rw [heq], fun hcount => ?_⟩
  obtain ⟨rest, ha, hrest⟩ := exists_target_eq a
  obtain ⟨more, hb, hmore⟩ := exists_target_eq b
  exact String.toList_inj.mp (eq_of_append_eq (ha.symm.trans ((congrArg _ h).trans hb)) hrest hmore
    hcount)

-- The name of a provider that stands in the name of its model ends at a slash.
theorem slashes_writtenProvider_of_none (h : m.givenProvider? = none) :
    slashes m.writtenProvider = 0 := by
  have hnone : '/' ∉ m.name.toList.takeWhile (· ≠ '/') := fun hmem => by
    simpa using List.mem_takeWhile_imp hmem
  simpa [Model.writtenProvider, h, beforeSlash, slashes] using List.count_eq_zero_of_not_mem hnone

end Route

namespace ModelEntry

-- Its entry in the configuration tells the name and the provider of a model.
theorem ofModel_eq_iff (a b : Model) : ofModel a = ofModel b ↔ a.Alike b := by
  constructor
  · intro h
    have hname : a.name = b.name := congrArg modelName h
    exact ⟨hname, Route.givenProvider?_eq_of_target_eq hname (congrArg model h)⟩
  · rintro ⟨hname, hprovider⟩
    have hroute : Route.ofModel a = Route.ofModel b := by
      rw [Route.ofModel_eq, Route.ofModel_eq, Model.writtenProvider, Model.writtenProvider, hname,
        hprovider]
    rw [ofModel, ofModel, hname, hroute]

end ModelEntry

end GatewayOperator
