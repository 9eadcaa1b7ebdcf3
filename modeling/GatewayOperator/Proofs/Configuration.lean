import GatewayOperator.Configuration
import GatewayOperator.Proofs.Text.Numeral

namespace GatewayOperator

namespace Configuration

namespace Variable

-- What the field of a variable holds
abbrev Value : Variable → Type
  | image | apiKeySecret => String
  | logFormat => LogFormat
  | metricsAddress => SocketAddress
  | resyncSeconds | errorRequeueSeconds => Nat

-- The variables that can be refused, in the order in which they are read
def order : List Variable := [logFormat, metricsAddress, resyncSeconds, errorRequeueSeconds]

def earlier (v : Variable) : List Variable := order.takeWhile (· ≠ v)

end Variable

def get (c : Configuration) : (v : Variable) → v.Value
  | .image => c.settings.image
  | .apiKeySecret => c.settings.apiKeySecret
  | .logFormat => c.logFormat
  | .metricsAddress => c.metricsAddress
  | .resyncSeconds => c.resyncSeconds
  | .errorRequeueSeconds => c.errorRequeueSeconds

-- A time in seconds as it can be written: it fits into 64 bits and is not zero.
def Seconds (text : String) (n : Nat) : Prop :=
  Numeral.Denotes text n ∧ 1 ≤ n ∧ n ≤ Nat.pow 2 64 - 1

namespace Variable

def default (v : Variable) : v.Value := ({} : Configuration).get v

-- What the text of a variable says about its field
def Says : (v : Variable) → String → v.Value → Prop
  | image, text, value => value = if text = "" then default image else text
  | apiKeySecret, text, value => value = if text = "" then default apiKeySecret else text
  | logFormat, text, .text => lowercase text = "text" ∨ lowercase text = ""
  | logFormat, text, .json => lowercase text = "json"
  | metricsAddress, text, value => SocketAddress.ofText? text = some value
  | resyncSeconds, text, value | errorRequeueSeconds, text, value => Seconds text value

-- The field is the default if the variable is not set, and else what its text says.
def Settles (v : Variable) (text : Option String) (value : v.Value) : Prop :=
  match text with
  | none => value = v.default
  | some text => v.Says text value

-- The texts that say nothing
def Offends (v : Variable) (text : String) : Prop :=
  match v with
  | image | apiKeySecret => False
  | logFormat => lowercase text ∉ ["text", "json", ""]
  | metricsAddress => SocketAddress.ofText? text = none
  | resyncSeconds | errorRequeueSeconds => ¬ ∃ n, Seconds text n

-- How each of them is refused
def Refuses (v : Variable) (text : String) (f : Fault) : Prop :=
  match v with
  | image | apiKeySecret => False
  | logFormat =>
    lowercase text ∉ ["text", "json", ""] ∧ f = .unknownLogFormat (lowercase text)
  | metricsAddress => SocketAddress.ofText? text = none ∧ f = .noSocketAddress text
  | resyncSeconds | errorRequeueSeconds =>
    Numeral.Denotes text 0 ∧ f = .zero v ∨
      ∃ cause, Numeral.Unreadable greatestSeconds text cause ∧ f = .noNumber v text cause

def reading (v : Variable) (text : Option String) : Except Fault v.Value :=
  match v with
  | image => .ok (textField text (default image))
  | apiKeySecret => .ok (textField text (default apiKeySecret))
  | logFormat => field text (default logFormat) readLogFormat
  | metricsAddress => field text (default metricsAddress) readAddress
  | resyncSeconds => field text (default resyncSeconds) (readSeconds resyncSeconds)
  | errorRequeueSeconds =>
    field text (default errorRequeueSeconds) (readSeconds errorRequeueSeconds)

variable {text : String}

theorem readLogFormat_eq_ok_iff (format : LogFormat) :
    readLogFormat text = .ok format ↔ Says logFormat text format := by
  dsimp only [readLogFormat]
  split
  next h =>
    have hjson : lowercase text ≠ "json" := by
      rcases h with h | h <;> rw [h] <;> decide
    cases format <;> simp [Says, h, hjson]
  next h =>
    split
    next hjson => cases format <;> simp [Says, hjson]
    next hjson => cases format <;> simp [Says, h, hjson]

theorem readLogFormat_eq_error_iff (f : Fault) :
    readLogFormat text = .error f ↔ Refuses logFormat text f := by
  simp only [readLogFormat, Refuses, List.mem_cons, List.not_mem_nil, or_false, not_or]
  split
  next h => rcases h with h | h <;> simp [h]
  next h =>
    obtain ⟨htext, hempty⟩ := not_or.mp h
    split
    next hjson => simp [hjson]
    next hjson =>
      simp only [htext, hjson, hempty, not_false_eq_true, and_self, true_and, Except.error.injEq]
      exact eq_comm

theorem readAddress_eq_ok_iff (address : SocketAddress) :
    readAddress text = .ok address ↔ SocketAddress.ofText? text = some address := by
  unfold readAddress
  split
  next found hfound => rw [hfound, Except.ok.injEq, Option.some.injEq]
  next hnone => simp only [hnone, reduceCtorEq]

theorem readAddress_eq_error_iff (f : Fault) :
    readAddress text = .error f ↔ Refuses metricsAddress text f := by
  unfold readAddress Refuses
  split
  next found hfound => simp only [hfound, reduceCtorEq, false_and]
  next hnone =>
    rw [Except.error.injEq, eq_comm]
    exact (and_iff_right hnone).symm

theorem readSeconds_eq_ok_iff (key : Variable) (n : Nat) :
    readSeconds key text = .ok n ↔ Seconds text n := by
  have hread : readSeconds key text = .ok n ↔
      Numeral.parse greatestSeconds text = .ok n ∧ 1 ≤ n := by
    unfold readSeconds
    cases Numeral.parse greatestSeconds text with
    | error cause => simp
    | ok m =>
      cases m with
      | zero =>
        simp only [reduceCtorEq, Except.ok.injEq, false_iff]
        omega
      | succ m =>
        simp only [Except.ok.injEq]
        omega
  rw [hread, Numeral.parse_eq_ok_iff]
  exact and_assoc.trans (and_congr_right fun _ => and_comm)

theorem readSeconds_eq_error_iff (key : Variable) (f : Fault) :
    readSeconds key text = .error f ↔
      Numeral.Denotes text 0 ∧ f = .zero key ∨
        ∃ cause, Numeral.Unreadable greatestSeconds text cause ∧ f = .noNumber key text cause := by
  have hzero : Numeral.Denotes text 0 ↔ Numeral.parse greatestSeconds text = .ok 0 := by
    simp [Numeral.parse_eq_ok_iff]
  simp only [hzero, ← Numeral.parse_eq_error_iff, readSeconds]
  cases Numeral.parse greatestSeconds text with
  | error cause => simp [eq_comm]
  | ok m => cases m <;> simp [eq_comm]

theorem textField_eq (text default : String) :
    textField (some text) default = if text = "" then default else text := by
  by_cases h : text = "" <;> simp [textField, Option.filter, h]

theorem reading_eq_ok_iff (v : Variable) (text : Option String) (value : v.Value) :
    v.reading text = .ok value ↔ v.Settles text value := by
  cases text with
  | none => cases v <;> simp [reading, Settles, field, textField, eq_comm]
  | some text =>
    cases v with
    | image | apiKeySecret => simp [reading, Settles, Says, textField_eq, eq_comm]
    | logFormat => exact readLogFormat_eq_ok_iff value
    | metricsAddress => exact readAddress_eq_ok_iff value
    | resyncSeconds | errorRequeueSeconds => exact readSeconds_eq_ok_iff _ value

theorem reading_eq_error_iff (v : Variable) (text : Option String) (f : Fault) :
    v.reading text = .error f ↔ ∃ t, text = some t ∧ v.Refuses t f := by
  cases text with
  | none => cases v <;> simp [reading, field]
  | some text =>
    simp only [Option.some.injEq, exists_eq_left']
    cases v with
    | image | apiKeySecret => simp [reading, Refuses]
    | logFormat => exact readLogFormat_eq_error_iff f
    | metricsAddress => exact readAddress_eq_error_iff f
    | resyncSeconds | errorRequeueSeconds => exact readSeconds_eq_error_iff _ f

theorem offends_iff_no_value (v : Variable) (text : String) :
    v.Offends text ↔ ∀ value, ¬ v.Says text value := by
  cases v with
  | image | apiKeySecret => simp [Offends, Says]
  | logFormat =>
    simp only [Offends, List.mem_cons, List.not_mem_nil, or_false]
    constructor
    · intro h format hvalue
      cases format with
      | text => exact h (hvalue.imp_right .inr)
      | json => exact h (.inr (.inl hvalue))
    · rintro h (htext | hjson | hempty)
      · exact h .text (.inl htext)
      · exact h .json hjson
      · exact h .text (.inr hempty)
  | metricsAddress => simp [Offends, Says, Option.eq_none_iff_forall_ne_some]
  | resyncSeconds | errorRequeueSeconds => simp [Offends, Says]

theorem offends_iff_exists_refuses (v : Variable) (text : String) :
    v.Offends text ↔ ∃ f, v.Refuses text f := by
  have hok (value : v.Value) := reading_eq_ok_iff v (some text) value
  have herror (f : Fault) := reading_eq_error_iff v (some text) f
  simp only [Option.some.injEq, exists_eq_left'] at herror
  simp only [Settles] at hok
  rw [offends_iff_no_value]
  simp only [← hok, ← herror]
  cases v.reading (some text) <;> simp

-- The error names the variable it is about.
theorem key_of_refuses {v : Variable} {f : Fault} (h : v.Refuses text f) : f.key = v := by
  cases v with
  | image | apiKeySecret => exact h.elim
  | logFormat | metricsAddress => exact h.2 ▸ rfl
  | resyncSeconds | errorRequeueSeconds =>
    obtain ⟨-, rfl⟩ | ⟨cause, -, rfl⟩ := h <;> rfl

theorem exists_reading_iff (v : Variable) (text : Option String) :
    (∃ value, v.reading text = .ok value) ↔ ∀ t, text = some t → ¬ v.Offends t := by
  simp only [offends_iff_exists_refuses]
  constructor
  · rintro ⟨value, hvalue⟩ t ht ⟨f, hrefuses⟩
    cases hvalue.symm.trans ((reading_eq_error_iff v text f).mpr ⟨t, ht, hrefuses⟩)
  · intro h
    cases hread : v.reading text with
    | ok value => exact ⟨value, rfl⟩
    | error f =>
      obtain ⟨t, ht, hrefuses⟩ := (reading_eq_error_iff v text f).mp hread
      exact absurd ⟨f, hrefuses⟩ (h t ht)

theorem pos_of_settles {text : Option String} {n : Nat}
    (h : resyncSeconds.Settles text n ∨ errorRequeueSeconds.Settles text n) : 0 < n := by
  cases text with
  | none => rcases h with rfl | rfl <;> decide
  | some t => rcases h with h | h <;> exact h.2.1

end Variable

open Variable (reading)

def ofFields (value : (v : Variable) → v.Value) : Configuration where
  settings := { image := value .image, apiKeySecret := value .apiKeySecret }
  logFormat := value .logFormat
  metricsAddress := value .metricsAddress
  resyncSeconds := value .resyncSeconds
  errorRequeueSeconds := value .errorRequeueSeconds

theorem get_ofFields (value : (v : Variable) → v.Value) (v : Variable) :
    (ofFields value).get v = value v := by
  cases v <;> rfl

variable {lookup : Variable → Option String}

theorem ofVariables_eq (lookup : Variable → Option String) :
    ofVariables lookup = (do
      let logFormat ← reading .logFormat (lookup .logFormat)
      let metricsAddress ← reading .metricsAddress (lookup .metricsAddress)
      let resyncSeconds ← reading .resyncSeconds (lookup .resyncSeconds)
      let errorRequeueSeconds ← reading .errorRequeueSeconds (lookup .errorRequeueSeconds)
      return {
        settings :=
          { image := textField (lookup .image) (Variable.default .image)
            apiKeySecret := textField (lookup .apiKeySecret) (Variable.default .apiKeySecret) }
        logFormat, metricsAddress, resyncSeconds, errorRequeueSeconds }) := rfl

theorem ofVariables_of_reading_ok {c : Configuration}
    (h : ∀ v, reading v (lookup v) = .ok (c.get v)) : ofVariables lookup = .ok c := by
  have himage := Except.ok.inj (h .image)
  have hsecret := Except.ok.inj (h .apiKeySecret)
  rw [ofVariables_eq, h, h, h, h, himage, hsecret]
  rfl

theorem ofVariables_of_reading_error {v : Variable} {f : Fault}
    (h : reading v (lookup v) = .error f)
    (hearlier : ∀ w ∈ v.earlier, ∃ value, reading w (lookup w) = .ok value) :
    ofVariables lookup = .error f := by
  rw [ofVariables_eq]
  cases v with
  | image | apiKeySecret => cases h
  | logFormat => rw [h]; rfl
  | metricsAddress =>
    obtain ⟨_, hformat⟩ := hearlier .logFormat (by decide)
    rw [hformat, h]; rfl
  | resyncSeconds =>
    obtain ⟨_, hformat⟩ := hearlier .logFormat (by decide)
    obtain ⟨_, haddress⟩ := hearlier .metricsAddress (by decide)
    rw [hformat, haddress, h]; rfl
  | errorRequeueSeconds =>
    obtain ⟨_, hformat⟩ := hearlier .logFormat (by decide)
    obtain ⟨_, haddress⟩ := hearlier .metricsAddress (by decide)
    obtain ⟨_, hresync⟩ := hearlier .resyncSeconds (by decide)
    rw [hformat, haddress, hresync, h]; rfl

-- Where not all entries of a list have a property, one is the first that has not.
theorem exists_first_of_not_forall {α : Type} [DecidableEq α] {p : α → Prop} {items : List α}
    (h : ¬ ∀ x ∈ items, p x) : ∃ x, ¬ p x ∧ ∀ y ∈ items.takeWhile (· ≠ x), p y := by
  induction items with
  | nil => exact absurd (List.forall_mem_nil p) h
  | cons x rest ih =>
    by_cases hx : p x
    · have hrest : ¬ ∀ y ∈ rest, p y := fun hrest => h (List.forall_mem_cons.mpr ⟨hx, hrest⟩)
      obtain ⟨y, hy, hbefore⟩ := ih hrest
      have hne : x ≠ y := fun heq => hy (heq ▸ hx)
      refine ⟨y, hy, ?_⟩
      rw [List.takeWhile_cons_of_pos (by simpa using hne)]
      exact List.forall_mem_cons.mpr ⟨hx, hbefore⟩
    · refine ⟨x, hx, ?_⟩
      rw [List.takeWhile_cons_of_neg (by simp)]
      exact List.forall_mem_nil p

-- Either all variables say something about their fields, or there is a first one that is refused.
theorem exists_reading_or_first_error (lookup : Variable → Option String) :
    (∃ c : Configuration, ∀ v, reading v (lookup v) = .ok (c.get v)) ∨
      ∃ v f, reading v (lookup v) = .error f ∧
        ∀ w ∈ v.earlier, ∃ value, reading w (lookup w) = .ok value := by
  by_cases h : ∀ v ∈ Variable.order, ∃ value, reading v (lookup v) = .ok value
  · have hall (v : Variable) : ∃ value, reading v (lookup v) = .ok value := by
      cases v with
      | image | apiKeySecret => exact ⟨_, rfl⟩
      | _ => exact h _ (by decide)
    choose value hvalue using hall
    exact .inl ⟨ofFields value, fun v => (get_ofFields value v).symm ▸ hvalue v⟩
  · obtain ⟨v, hv, hearlier⟩ := exists_first_of_not_forall h
    cases hread : reading v (lookup v) with
    | ok value => exact absurd ⟨value, hread⟩ hv
    | error f => exact .inr ⟨v, f, hread, hearlier⟩

theorem ofVariables_eq_ok_iff (c : Configuration) :
    ofVariables lookup = .ok c ↔ ∀ v, reading v (lookup v) = .ok (c.get v) := by
  refine ⟨fun h => ?_, ofVariables_of_reading_ok⟩
  obtain ⟨d, hd⟩ | ⟨v, f, hread, hearlier⟩ := exists_reading_or_first_error lookup
  · obtain rfl := Except.ok.inj (h.symm.trans (ofVariables_of_reading_ok hd))
    exact hd
  · cases h.symm.trans (ofVariables_of_reading_error hread hearlier)

theorem ofVariables_eq_error_iff (f : Fault) :
    ofVariables lookup = .error f ↔ ∃ v, reading v (lookup v) = .error f ∧
      ∀ w ∈ v.earlier, ∃ value, reading w (lookup w) = .ok value := by
  refine ⟨fun h => ?_, fun ⟨v, hread, hearlier⟩ => ofVariables_of_reading_error hread hearlier⟩
  obtain ⟨d, hd⟩ | ⟨v, g, hread, hearlier⟩ := exists_reading_or_first_error lookup
  · cases h.symm.trans (ofVariables_of_reading_ok hd)
  · obtain rfl := Except.error.inj (h.symm.trans (ofVariables_of_reading_error hread hearlier))
    exact ⟨v, hread, hearlier⟩

theorem ofVariables_eq_ok_iff_settles (c : Configuration) :
    ofVariables lookup = .ok c ↔ ∀ v : Variable, v.Settles (lookup v) (c.get v) := by
  simp only [ofVariables_eq_ok_iff, Variable.reading_eq_ok_iff]

theorem ofVariables_eq_error_iff_refuses (f : Fault) :
    ofVariables lookup = .error f ↔
      ∃ text, lookup f.key = some text ∧ f.key.Refuses text f ∧
        ∀ w ∈ f.key.earlier, ∀ t, lookup w = some t → ¬ w.Offends t := by
  simp only [ofVariables_eq_error_iff, Variable.reading_eq_error_iff, Variable.exists_reading_iff]
  constructor
  · rintro ⟨v, ⟨text, htext, hrefuses⟩, hearlier⟩
    obtain rfl := Variable.key_of_refuses hrefuses
    exact ⟨text, htext, hrefuses, hearlier⟩
  · rintro ⟨text, htext, hrefuses, hearlier⟩
    exact ⟨f.key, ⟨text, htext, hrefuses⟩, hearlier⟩

theorem exists_error_iff_offends (lookup : Variable → Option String) :
    (∃ f, ofVariables lookup = .error f) ↔
      ∃ (v : Variable) (text : String), lookup v = some text ∧ v.Offends text := by
  constructor
  · rintro ⟨f, hf⟩
    obtain ⟨text, htext, hrefuses, -⟩ := (ofVariables_eq_error_iff_refuses f).mp hf
    exact ⟨f.key, text, htext, (Variable.offends_iff_exists_refuses _ _).mpr ⟨f, hrefuses⟩⟩
  · rintro ⟨v, text, htext, hoffends⟩
    cases hall : ofVariables lookup with
    | error f => exact ⟨f, rfl⟩
    | ok c =>
      have hread := (ofVariables_eq_ok_iff c).mp hall v
      exact absurd hoffends ((Variable.exists_reading_iff v _).mp ⟨_, hread⟩ text htext)

-- What a configuration takes from the variables of the environment, whatever they are. There is
-- none exactly if some variable offends. The error is then that of the first one in their order,
-- and what stands behind it does not matter. Otherwise each field is the default if its variable
-- is not set and else what its text says, so that no other variable matters for it, and the times
-- are the numbers as they are written, never zero.
theorem ofVariables_by_variable (lookup : Variable → Option String) :
    ((∃ f, ofVariables lookup = .error f) ↔
      ∃ (v : Variable) (text : String), lookup v = some text ∧ v.Offends text) ∧
    (∀ f, ofVariables lookup = .error f ↔
      ∃ text, lookup f.key = some text ∧ f.key.Refuses text f ∧
        ∀ w ∈ f.key.earlier, ∀ t, lookup w = some t → ¬ w.Offends t) ∧
    (∀ c, ofVariables lookup = .ok c ↔ ∀ v : Variable, v.Settles (lookup v) (c.get v)) ∧
    (∀ c, ofVariables lookup = .ok c → 0 < c.resyncSeconds ∧ 0 < c.errorRequeueSeconds) ∧
    ∀ (other : Variable → Option String) (c d : Configuration) (v : Variable),
      ofVariables lookup = .ok c → ofVariables other = .ok d → lookup v = other v →
        c.get v = d.get v := by
  refine ⟨exists_error_iff_offends lookup, ofVariables_eq_error_iff_refuses,
    ofVariables_eq_ok_iff_settles, fun c hc => ?_, fun other c d v hc hd hsame => ?_⟩
  · have hsettles := (ofVariables_eq_ok_iff_settles c).mp hc
    exact ⟨Variable.pos_of_settles (.inl (hsettles .resyncSeconds)),
      Variable.pos_of_settles (.inr (hsettles .errorRequeueSeconds))⟩
  · have hcv := (ofVariables_eq_ok_iff c).mp hc v
    have hdv := (ofVariables_eq_ok_iff d).mp hd v
    exact Except.ok.inj (hcv.symm.trans (hsame ▸ hdv))

-- An address that is none, behind a format in capital letters and in front of a time that is none
def crossedVariables : Variable → Option String
  | .logFormat => some "JSON"
  | .metricsAddress => some "nowhere"
  | .resyncSeconds => some "soon"
  | _ => none

-- Times with a sign and with zeros in front, and an empty name
def paddedVariables : Variable → Option String
  | .image => some ""
  | .resyncSeconds => some "+0060"
  | .errorRequeueSeconds => some "18446744073709551615"
  | _ => none

theorem ofVariables_by_variable_of_crossed :
    ofVariables crossedVariables = .error (.noSocketAddress "nowhere") ∧
    ∃ c, ofVariables paddedVariables = .ok c ∧
      c.resyncSeconds = 60 ∧ c.errorRequeueSeconds = 18446744073709551615 := by
  obtain ⟨-, herror, -⟩ := ofVariables_by_variable crossedVariables
  obtain ⟨-, -, hok, -⟩ := ofVariables_by_variable paddedVariables
  constructor
  · refine (herror _).mpr ⟨"nowhere", rfl, ⟨by decide, rfl⟩, fun w hw t ht => ?_⟩
    obtain rfl : w = .logFormat := List.mem_singleton.mp hw
    obtain rfl : "JSON" = t := Option.some.inj ht
    simp only [Variable.Offends]
    decide
  · refine ⟨{ resyncSeconds := 60, errorRequeueSeconds := 18446744073709551615 },
      (hok _).mpr fun v => ?_, rfl, rfl⟩
    cases v with
    | resyncSeconds | errorRequeueSeconds => exact ⟨by decide, by decide, by decide⟩
    | _ => rfl

end Configuration

end GatewayOperator
