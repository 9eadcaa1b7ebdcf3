import Mathlib.Data.String.Basic

namespace GatewayOperator

namespace Utf8

-- The lists differ at a place that both have, and there the second one is greater.
def Precedes : List UInt8 → List UInt8 → Prop
  | a :: as, b :: bs => a < b ∨ a = b ∧ Precedes as bs
  | _, _ => False

theorem Precedes.append_lt {as bs : List UInt8} (h : Precedes as bs) (more others : List UInt8) :
    as ++ more < bs ++ others := by
  induction as generalizing bs with
  | nil => cases h
  | cons a as ih =>
    cases bs with
    | nil => cases h
    | cons b bs =>
      refine List.cons_lt_cons_iff.mpr ?_
      exact h.imp id fun hrest => ⟨hrest.1, ih hrest.2⟩

theorem append_lt_append (shared : List UInt8) {as bs : List UInt8} (h : as < bs) :
    shared ++ as < shared ++ bs := by
  induction shared with
  | nil => exact h
  | cons a shared ih => exact List.cons_lt_cons_iff.mpr (.inr ⟨rfl, ih⟩)

theorem toNat_val_lt (c : Char) : c.val.toNat < 0x110000 := by
  have hvalid : c.val.toNat < 0xd800 ∨ 0xdfff < c.val.toNat ∧ c.val.toNat < 0x110000 := c.valid
  omega

theorem ofNat_lt_iff {a b : Nat} (ha : a < 256) (hb : b < 256) :
    UInt8.ofNat a < UInt8.ofNat b ↔ a < b := UInt8.ofNat_lt_iff_lt ha hb

theorem ofNat_eq_iff {a b : Nat} (ha : a < 256) (hb : b < 256) :
    UInt8.ofNat a = UInt8.ofNat b ↔ a = b := by
  rw [← UInt8.toNat_inj, UInt8.toNat_ofNat_of_lt' ha, UInt8.toNat_ofNat_of_lt' hb]

-- The first byte tells how many follow, and more follow for a greater character. Among characters
-- with as many bytes, the bytes are the digits of the code point.
theorem precedes_utf8EncodeChar {c d : Char} (h : c < d) :
    Precedes (String.utf8EncodeChar c) (String.utf8EncodeChar d) := by
  have hlt : c.val.toNat < d.val.toNat := UInt32.lt_iff_toNat_lt.mp h
  have hbound := toNat_val_lt d
  generalize hm : c.val.toNat = m at hlt
  generalize hn : d.val.toNat = n at hlt hbound
  simp only [String.utf8EncodeChar, hm, hn]
  have hleadM : m / 262144 % 8 = m / 262144 := by omega
  have hleadN : n / 262144 % 8 = n / 262144 := by omega
  rw [hleadM, hleadN]
  split_ifs <;> simp (disch := omega) only [Precedes, ofNat_lt_iff, ofNat_eq_iff] <;> omega

def encode (cs : List Char) : List UInt8 := cs.flatMap String.utf8EncodeChar

theorem encode_lt {cs ds : List Char} (h : cs < ds) : encode cs < encode ds := by
  induction cs generalizing ds with
  | nil =>
    cases ds with
    | nil => exact absurd h (List.lt_irrefl [])
    | cons d ds =>
      have hne : encode (d :: ds) ≠ [] := by simp [encode]
      obtain ⟨b, bs, hbytes⟩ := List.exists_cons_of_ne_nil hne
      rw [hbytes]
      exact List.nil_lt_cons b bs
  | cons c cs ih =>
    cases ds with
    | nil => exact absurd h (List.not_lt_nil _)
    | cons d ds =>
      have hcons : ∀ e es, encode (e :: es) = String.utf8EncodeChar e ++ encode es :=
        fun _ _ => List.flatMap_cons
      rw [hcons, hcons]
      rcases List.cons_lt_cons_iff.mp h with hlt | ⟨rfl, hrest⟩
      · exact (precedes_utf8EncodeChar hlt).append_lt _ _
      · exact append_lt_append (String.utf8EncodeChar c) (ih hrest)

theorem data_toUTF8 (s : String) : s.toUTF8.data.toList = encode s.toList := by
  conv => lhs; rw [← String.ofList_toList (s := s)]
  rw [String.toUTF8_eq_toByteArray, String.toByteArray_ofList]
  exact List.toList_data_toByteArray

theorem bytes_lt_iff (s t : String) :
    s.toUTF8.data.toList < t.toUTF8.data.toList ↔ s < t := by
  rw [data_toUTF8, data_toUTF8, String.lt_iff]
  refine ⟨fun h => ?_, encode_lt⟩
  rcases lt_trichotomy s.toList t.toList with hlt | heq | hgt
  · exact hlt
  · rw [heq] at h
    exact absurd h (List.lt_irrefl _)
  · exact absurd h (List.lt_asymm (encode_lt hgt))

end Utf8

end GatewayOperator
