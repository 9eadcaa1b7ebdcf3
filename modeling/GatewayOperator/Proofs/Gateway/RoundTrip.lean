import GatewayOperator.Proofs.Gateway.Basic
import GatewayOperator.Proofs.Proxy.Config

namespace GatewayOperator

namespace Json

variable {α : Type} {read : Reader α} {write : α → Json} {Held : α → Prop}

-- The values that `Held` describes are those that a document can hold: each of them reads back from
-- what is written for it, and no other value is ever read. So what was read can be written and read
-- again, and no two values are written alike.
structure RoundTrips (read : Reader α) (write : α → Json) (Held : α → Prop) : Prop where
  read_write : ∀ a, Held a → read (write a) = .ok a
  held : ∀ j a, read j = .ok a → Held a
  reread : ∀ j a, read j = .ok a → read (write a) = .ok a
  write_injective : ∀ a b, Held a → Held b → write a = write b → a = b

theorem roundTrips_of_faithful (hfaithful : ∀ a, Held a → Faithful read write a)
    (hensures : Ensures read Held) : RoundTrips read write Held := by
  refine ⟨fun a ha => (hfaithful a ha).read_write, hensures,
    fun j a hj => (hfaithful a (hensures j a hj)).read_write, fun a b ha hb hsame => ?_⟩
  have hread := (hfaithful a ha).read_write
  rw [hsame, (hfaithful b hb).read_write] at hread
  exact (Except.ok.inj hread).symm

end Json

open Json

-- A time whose year is one that times can have, and which is a leap second only at the end of a
-- minute. The years from 0000 to 9999 are among them.
def Instant.Dated (t : Instant) : Prop :=
  (leastYear ≤ t.date.year ∧ t.date.year ≤ greatestYear) ∧ (t.leap = true → t.seconds % 60 = 59)

namespace GatewayClass

def specToJson (controller : String) : Json := .object [("controller", .string controller)]

theorem field?_toJson_spec (c : GatewayClass) :
    c.toJson.field? "spec" = some (specToJson c.controller) := by
  simp [toJson, Json.ofRecord, Json.field?, specToJson]

theorem faithful_controller (controller : String) :
    Faithful readController specToJson controller :=
  Schema.faithful_readStrict rfl
    (by simp [Fields.get?_cons, (faithful_string controller).valueOf?_required none])

end GatewayClass

namespace GatewayStatus

-- The bounds of the times and of the generations in a status
structure Held (s : GatewayStatus) : Prop where
  transitions : ∀ c ∈ s.conditions, c.lastTransition.Dated
  generations : ∀ c ∈ s.conditions, ∀ n ∈ c.observedGeneration,
    -9223372036854775808 ≤ n ∧ n ≤ 9223372036854775807
  lastUpdated : ∀ t ∈ s.lastUpdated, t.Dated

theorem held_iff_wellFormed (s : GatewayStatus) : s.Held ↔ s.WellFormed := by
  constructor
  · intro h
    refine ⟨fun c hc => ⟨Instant.proper_iff.mpr (h.transitions c hc), fun n hn => ?_⟩,
      fun t ht => Instant.proper_iff.mpr (h.lastUpdated t ht)⟩
    exact (faithful_int_iff _ _ n).mpr (h.generations c hc n hn)
  · intro h
    refine ⟨fun c hc => Instant.proper_iff.mp (h.conditions c hc).lastTransition,
      fun c hc n hn => ?_, fun t ht => Instant.proper_iff.mp (h.lastUpdated t ht)⟩
    exact (faithful_int_iff _ _ n).mp ((h.conditions c hc).observedGeneration n hn)

end GatewayStatus

-- Models and class specs hold any texts, specs any port and proxy configurations any timeout of 32
-- bits, and statuses times in whole seconds: a fraction of a second that stands in a document is
-- cut off, whatever zone follows.
theorem documents_roundTrip :
    RoundTrips Model.read Model.toJson (fun _ => True) ∧
    RoundTrips GatewaySpec.read GatewaySpec.toJson
      (fun s => -2147483648 ≤ s.port ∧ s.port ≤ 2147483647) ∧
    (RoundTrips GatewayClass.readController GatewayClass.specToJson (fun _ => True) ∧
      ∀ c : GatewayClass, c.toJson.field? "spec" = some (GatewayClass.specToJson c.controller)) ∧
    RoundTrips ProxyConfig.read ProxyConfig.toJson (fun c => c.requestTimeout ≤ 4294967295) ∧
    RoundTrips GatewayStatus.read GatewayStatus.toJson GatewayStatus.Held ∧
    ∀ (t : Instant) (whole digits zone : String), t.Dated → t.toText = whole ++ "Z" →
      digits ≠ "" → (∀ c ∈ digits.toList, c.isDigit = true) →
      (∀ c ∈ zone.toList.head?, c.isDigit = false ∧ c ≠ '.') →
      Instant.read (.string (whole ++ "." ++ digits ++ zone)) =
        Instant.read (.string (whole ++ zone)) := by
  have hport (s : GatewaySpec) :
      s.WellFormed ↔ -2147483648 ≤ s.port ∧ s.port ≤ 2147483647 :=
    ⟨fun h => (faithful_int_iff _ _ _).mp h.port, fun h => ⟨(faithful_int_iff _ _ _).mpr h⟩⟩
  refine ⟨roundTrips_of_faithful (fun m _ => m.faithful) fun _ _ _ => trivial,
    roundTrips_of_faithful (fun s hs => ((hport s).mpr hs).faithful)
      fun j s hj => (hport s).mp (GatewaySpec.ensures_wellFormed j s hj),
    ⟨roundTrips_of_faithful (fun c _ => GatewayClass.faithful_controller c) fun _ _ _ => trivial,
      GatewayClass.field?_toJson_spec⟩,
    roundTrips_of_faithful (fun _ => ProxyConfig.faithful) ProxyConfig.ensures_timeout,
    roundTrips_of_faithful (fun s hs => (s.held_iff_wellFormed.mp hs).faithful)
      fun j s hj => s.held_iff_wellFormed.mpr (GatewayStatus.ensures_wellFormed j s hj), ?_⟩
  intro t whole digits zone ht hwhole hne hdigits hzone
  have hparse := Instant.parse_fraction (Instant.proper_iff.mpr ht) hwhole hne hdigits hzone
  simp only [Instant.read, Instant.ofText?, hparse]

-- Empty texts and an empty import where there could be nothing, and a port that no proxy can have
def sparseSpec : GatewaySpec :=
  { className := some "", port := -1, models := [{ name := "" }], env := [{ name := "" }]
    envFrom := [⟨none, none, none⟩] }

def leapSecond : Instant := ⟨1483228799, true⟩

def leapStatus : GatewayStatus :=
  { conditions := [⟨"", "", "", "", leapSecond, some (-1)⟩], configHash := some "" }

theorem documents_roundTrip_sparse :
    GatewaySpec.read sparseSpec.toJson = .ok sparseSpec ∧
    GatewayStatus.read leapStatus.toJson = .ok leapStatus ∧
    Instant.read (.string ("2016-12-31T23:59:60" ++ "." ++ "25" ++ "+00:00")) =
      Instant.read (.string ("2016-12-31T23:59:60" ++ "+00:00")) := by
  have hdated : leapSecond.Dated := by
    unfold Instant.Dated
    decide
  have hheld : leapStatus.Held := by
    refine ⟨?_, ?_, by simp [leapStatus]⟩ <;> simp [leapStatus, hdated]
  obtain ⟨-, hspec, -, -, hstatus, hfraction⟩ := documents_roundTrip
  have hdigits : ∀ c ∈ "25".toList, c.isDigit = true := List.all_eq_true.mp (by decide)
  have hport : -2147483648 ≤ sparseSpec.port ∧ sparseSpec.port ≤ 2147483647 := by decide
  exact ⟨hspec.read_write sparseSpec hport, hstatus.read_write leapStatus hheld,
    hfraction leapSecond "2016-12-31T23:59:60" "25" "+00:00" hdated (by decide +kernel) (by decide)
      hdigits (by rintro c ⟨rfl⟩; decide)⟩

end GatewayOperator
