import GatewayOperator.Proofs.Yaml.Scalar

namespace GatewayOperator.Yaml

variable {indent n : Nat} {name : String} {s t : String} {value : Json} {f g : String × Json}
  {fields others : Fields} {lead rest more : List Char}

theorem Dedents.mono {text : List Char} (h : Dedents indent text) (hle : indent ≤ n) :
    Dedents n text := by
  obtain ⟨k, hk, hat⟩ := h
  exact ⟨k, Nat.lt_of_lt_of_le hk hle, hat⟩

-- A line at the margin does not begin with a space.
theorem Dedents.ne_space_cons {text : List Char} (h : Dedents 1 text) (tail : List Char) :
    text ≠ ' ' :: tail := by
  obtain ⟨k, hk, c, rest, rfl, hspace, -⟩ := h
  cases Nat.lt_one_iff.mp hk
  intro heq
  exact hspace (List.cons.inj heq).1

theorem scalar_of_plain (h : styleOf name = .plain) : scalar indent name = name.toList := by
  rw [scalar, h]

-- Behind the indent stands the first character of a name.
theorem dedents_fieldLines (hname : styleOf name = .plain) :
    Dedents (indent + 1)
      (fieldLines indent (spaces indent) ((name, value) :: fields) ++ rest) := by
  obtain ⟨c, cs, hname', hspace, hbreak, -⟩ := exists_cons_of_plain hname
  refine ⟨indent, Nat.lt_succ_self indent, c,
    cs ++ ':' :: fieldValue indent value ++ (fieldLines indent (spaces indent) fields ++ rest),
    ?_, hspace, hbreak⟩
  rw [fieldLines, scalar_of_plain hname, hname']
  simp

theorem fieldLines_string (hname : styleOf name = .plain) :
    fieldLines indent lead ((name, .string s) :: fields) =
      lead ++ (name.toList ++ (':' :: ' ' :: (endLine (scalar (indent + 2) s) ++
        fieldLines indent (spaces indent) fields))) := by
  rw [fieldLines, fieldValue]
  · simp [scalar_of_plain hname, flatText]
  · intro _ _ heq; cases heq
  · intro _ _ heq; cases heq

theorem fieldLines_object (hname : styleOf name = .plain) :
    fieldLines indent lead ((name, .object (f :: fields)) :: others) =
      lead ++ (name.toList ++ (':' :: '\n' ::
        (fieldLines (indent + 2) (spaces (indent + 2)) (f :: fields) ++
          fieldLines indent (spaces indent) others))) := by
  rw [fieldLines, fieldValue]
  simp [scalar_of_plain hname]

theorem fieldLines_list {item : Json} {items : List Json} (hname : styleOf name = .plain) :
    fieldLines indent lead ((name, .array (item :: items)) :: fields) =
      lead ++ (name.toList ++ (':' :: '\n' ::
        (itemLines indent (spaces indent) (item :: items) ++
          fieldLines indent (spaces indent) fields))) := by
  rw [fieldLines, fieldValue]
  simp [scalar_of_plain hname]

theorem fieldLines_emptyList (hname : styleOf name = .plain) :
    fieldLines indent lead ((name, .array []) :: fields) =
      lead ++ (name.toList ++ (':' :: ' ' :: '[' :: ']' :: '\n' ::
        fieldLines indent (spaces indent) fields)) := by
  rw [fieldLines, fieldValue]
  · simp [scalar_of_plain hname, flatText, endLine, isBreak]
  · intro _ _ heq; cases heq
  · intro _ _ heq; cases heq

theorem fieldLines_nat (hname : styleOf name = .plain) (count : Nat) :
    fieldLines indent lead ((name, .nat count) :: fields) =
      lead ++ (name.toList ++ (':' :: ' ' :: (endLine (Nat.toDigits 10 count) ++
        fieldLines indent (spaces indent) fields))) := by
  have hdigits : (Number.integer count).text.toList = Nat.toDigits 10 count := Nat.toList_repr
  rw [Json.nat, Json.int, fieldLines, fieldValue, flatText, hdigits]
  · simp [scalar_of_plain hname]
  · intro _ _ heq; cases heq
  · intro _ _ heq; cases heq

-- With a text behind its colon a field tells the text, and it tells all that follows.
theorem eq_of_fieldLines_string_eq (hname : styleOf name = .plain)
    (hfields : Dedents (indent + 2) (fieldLines indent (spaces indent) fields ++ rest))
    (hothers : Dedents (indent + 2) (fieldLines indent (spaces indent) others ++ more))
    (h : fieldLines indent lead ((name, .string s) :: fields) ++ rest =
      fieldLines indent lead ((name, .string t) :: others) ++ more) :
    s = t ∧ fieldLines indent (spaces indent) fields ++ rest =
      fieldLines indent (spaces indent) others ++ more := by
  rw [fieldLines_string hname, fieldLines_string hname] at h
  simp only [List.append_assoc, List.append_cancel_left_eq, List.cons_append, List.cons.injEq,
    true_and] at h
  exact eq_of_endLine_scalar_eq hfields hothers h

theorem eq_of_fieldLines_object_eq (hname : styleOf name = .plain)
    (h : fieldLines indent lead [(name, .object (f :: fields))] ++ rest =
      fieldLines indent lead [(name, .object (g :: others))] ++ more) :
    fieldLines (indent + 2) (spaces (indent + 2)) (f :: fields) ++ rest =
      fieldLines (indent + 2) (spaces (indent + 2)) (g :: others) ++ more := by
  rw [fieldLines_object hname, fieldLines_object hname] at h
  simp only [List.append_assoc, List.append_cancel_left_eq, List.cons_append, List.cons.injEq,
    true_and] at h
  exact h

theorem endsInBreak_toDigits (count : Nat) : endsInBreak (Nat.toDigits 10 count) = false := by
  refine eq_false_of_ne_true fun hlast => ?_
  obtain ⟨c, hc, hbreak⟩ := exists_of_endsInBreak hlast
  have hdigit : c.isDigit = true :=
    Nat.isDigit_of_mem_toDigits (by decide) (by decide) (List.mem_of_getLast? hc)
  simp only [isBreak, Bool.or_eq_true, decide_eq_true_eq] at hbreak
  rcases hbreak with (((rfl | rfl) | rfl) | rfl) | rfl <;> cases hdigit

theorem eq_of_fieldLines_nat_eq {a b : Nat} (hname : styleOf name = .plain)
    (h : fieldLines indent lead [(name, .nat a)] = fieldLines indent lead [(name, .nat b)]) :
    a = b := by
  rw [fieldLines_nat hname, fieldLines_nat hname] at h
  simp only [fieldLines, List.append_nil, List.append_cancel_left_eq, List.cons.injEq,
    true_and] at h
  have hdigits := eq_of_endLine_eq ((endsInBreak_toDigits a).trans (endsInBreak_toDigits b).symm) h
  have hread := congrArg (Nat.ofDigitChars 10 · 0) hdigits
  simpa only [Nat.ofDigitChars_ten_toDigits] using hread

end GatewayOperator.Yaml
