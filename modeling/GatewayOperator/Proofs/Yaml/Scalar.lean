import GatewayOperator.Proofs.Yaml.Coding

namespace GatewayOperator.Yaml

variable {indent : Nat} {c : Char} {cs rest more : List Char} {s t : String}

-- The first character tells the style.
def styleMarked : List Char → Style
  | '\'' :: _ => .singleQuoted
  | '"' :: _ => .doubleQuoted
  | '|' :: _ => .literal
  | _ => .plain

-- What is known of a text that is written in a style.
def Style.Allows (s : String) : Style → Prop
  | .plain => '\n' ∉ s.toList ∧ isAmbiguous s = false ∧ plainAllowed s.toList = true
  | .singleQuoted => singleQuotesAllowed s.toList = true
  | .doubleQuoted => True
  | .literal => '\n' ∈ s.toList

theorem allows_styleOf (s : String) : (styleOf s).Allows s := by
  simp only [styleOf]
  split
  next hlines =>
    split
    · simpa [Style.Allows] using hlines
    · trivial
  next hlines =>
    split
    next hplain =>
      rw [Bool.and_eq_true, Bool.not_eq_true'] at hplain
      exact ⟨by simpa using hlines, hplain⟩
    next =>
      split
      next hquotes => exact hquotes
      next => trivial

theorem allows_of_styleOf_eq {style : Style} (h : styleOf s = style) : style.Allows s :=
  h ▸ allows_styleOf s

theorem lineFeed_not_mem_of_plain (h : styleOf s = .plain) : '\n' ∉ s.toList :=
  (allows_of_styleOf_eq h).1

theorem endLine_scalar_plain (h : styleOf s = .plain) :
    endLine (scalar indent s) = s.toList ++ ['\n'] := by
  obtain ⟨-, -, hplain⟩ := allows_of_styleOf_eq h
  have hend : endsInBreak s.toList = false := by
    have hnone : hasBreak s.toList = false := by
      simp only [plainAllowed, Bool.not_eq_true', Bool.or_eq_false_iff] at hplain
      exact hplain.1.1.1.1.1.2
    refine eq_false_of_ne_true fun hlast => ?_
    obtain ⟨c, hc, hbreak⟩ := exists_of_endsInBreak hlast
    exact List.any_eq_false.mp hnone c (List.mem_of_getLast? hc) hbreak
  simp [scalar, h, endLine_of_not_break hend]

theorem flush_of_singleQuoted (h : styleOf s = .singleQuoted) : Flush false s.toList := by
  have hallows := allows_of_styleOf_eq h
  simp only [Style.Allows, singleQuotesAllowed, Bool.not_eq_true', Bool.or_eq_false_iff] at hallows
  exact ⟨hallows.1.2, nofun⟩

theorem endLine_scalar_singleQuoted (h : styleOf s = .singleQuoted) :
    endLine (scalar indent s) = '\'' :: ((singleQuoted indent).written false s.toList ++
      ((if brokenAfter false s.toList then spaces indent else []) ++ ['\'', '\n'])) := by
  simp only [scalar, h]
  rw [endLine_append (List.cons_ne_nil _ _), singleQuotedBody_eq (flush_of_singleQuoted h)]
  simp [endLine, isBreak]

theorem endLine_scalar_doubleQuoted (h : styleOf s = .doubleQuoted) :
    endLine (scalar indent s) = '"' :: (doubleQuoted.written false s.toList ++ ['"', '\n']) := by
  rw [written_doubleQuoted]
  simp only [scalar, h]
  rw [endLine_append (List.cons_ne_nil _ _)]
  rfl

theorem endLine_scalar_literal (h : styleOf s = .literal) :
    endLine (scalar indent s) =
      literalHeader s.toList ++ '\n' :: (literal indent).written true (endLine s.toList) := by
  have hlines : '\n' ∈ s.toList := allows_of_styleOf_eq h
  have hbody : (literal indent).written true s.toList ≠ [] := by
    cases hs : s.toList with
    | nil => rw [hs] at hlines; cases hlines
    | cons c cs => exact List.append_ne_nil_of_left_ne_nil (write_literal_ne_nil _ _) _
  simp only [scalar, h]
  rw [literalBody_eq, ← List.singleton_append, ← List.append_assoc, endLine_append hbody,
    endLine_written_literal, List.append_assoc, List.singleton_append]

theorem lineFeed_not_mem_literalHeader (cs : List Char) : '\n' ∉ literalHeader cs := by
  simp only [literalHeader, List.cons_append, List.mem_cons, List.mem_append, not_or]
  refine ⟨by decide, ?_, ?_⟩
  · split <;> simp
  · split
    · simp
    · split <;> simp
    · split
      · simp
      · split <;> simp

-- A last break that is stripped is not there.
theorem dash_mem_literalHeader (cs : List Char) :
    '-' ∈ literalHeader cs ↔ endsInBreak cs = false := by
  have hlead :
      '-' ∉ if (cs.head?.any fun c => c = ' ' || isBreak c) = true then ['2'] else [] := by
    split <;> simp
  simp only [literalHeader, List.cons_append, List.mem_cons, List.mem_append, hlead, endsInBreak,
    ← List.head?_reverse]
  split
  next hnil => simp [hnil]
  next c hone => cases hc : isBreak c <;> simp [hone, hc]
  next c d rest hmore =>
    cases hc : isBreak c <;> cases isBreak d <;> simp [hmore, hc]

-- A plain text begins with a character that is neither blank nor opens another style.
theorem exists_cons_of_plain (h : styleOf s = .plain) : ∃ c cs, s.toList = c :: cs ∧
    c ≠ ' ' ∧ isBreak c = false ∧ c ∉ indicators := by
  obtain ⟨-, hclear, hallowed⟩ := allows_of_styleOf_eq h
  simp only [plainAllowed, Bool.not_eq_true', Bool.or_eq_false_iff] at hallowed
  have hedge := hallowed.1.1.1.1.2
  have hstart := hallowed.1.1.2
  cases hs : s.toList with
  | nil => simp [isAmbiguous, isNullWord, hs] at hclear
  | cons c cs =>
    rw [hs] at hstart hedge
    simp only [edgeIsBlank, List.head?_cons, Option.any_some, Bool.or_eq_false_iff,
      decide_eq_false_iff_not] at hedge
    simp only [startsWithIndicator, Bool.or_eq_false_iff] at hstart
    exact ⟨c, cs, rfl, hedge.1.1, hedge.1.2, by simpa using hstart.1⟩

theorem styleMarked_of_plain (h : styleOf s = .plain) (rest : List Char) :
    styleMarked (s.toList ++ rest) = .plain := by
  obtain ⟨c, cs, hs, -, -, hother⟩ := exists_cons_of_plain h
  rw [hs]
  unfold styleMarked
  split <;> simp_all [indicators]

theorem styleMarked_line (indent : Nat) (s : String) (rest : List Char) :
    styleMarked (endLine (scalar indent s) ++ rest) = styleOf s := by
  cases hstyle : styleOf s with
  | plain => rw [endLine_scalar_plain hstyle, List.append_assoc, styleMarked_of_plain hstyle]
  | singleQuoted => rw [endLine_scalar_singleQuoted hstyle]; rfl
  | doubleQuoted => rw [endLine_scalar_doubleQuoted hstyle]; rfl
  | literal => rw [endLine_scalar_literal hstyle]; rfl

-- A scalar with the end of its line, in front of a line with less indent, tells the text and where
-- it ends.
theorem eq_of_endLine_scalar_eq (hrest : Dedents indent rest) (hmore : Dedents indent more)
    (h : endLine (scalar indent s) ++ rest = endLine (scalar indent t) ++ more) :
    s = t ∧ rest = more := by
  have hstyle : styleOf s = styleOf t := by
    rw [← styleMarked_line indent s rest, h, styleMarked_line]
  rw [← String.toList_inj]
  cases ht : styleOf t with
  | plain =>
    have hs := hstyle.trans ht
    rw [endLine_scalar_plain hs, endLine_scalar_plain ht, List.append_assoc, List.append_assoc] at h
    exact eq_of_line_eq (lineFeed_not_mem_of_plain hs) (lineFeed_not_mem_of_plain ht) h
  | singleQuoted =>
    have hs := hstyle.trans ht
    rw [endLine_scalar_singleQuoted hs, endLine_scalar_singleQuoted ht] at h
    simp only [List.cons_append, List.append_assoc, List.cons.injEq, true_and, List.nil_append] at h
    obtain ⟨heq, hbehind⟩ := Coding.eq_of_written_append_eq
      (legible_singleQuoted (flush_of_singleQuoted hs) rest)
      (legible_singleQuoted (flush_of_singleQuoted ht) more) h
    rw [heq, List.append_cancel_left_eq] at hbehind
    simp only [List.cons.injEq, true_and] at hbehind
    exact ⟨heq, hbehind⟩
  | doubleQuoted =>
    rw [endLine_scalar_doubleQuoted (hstyle.trans ht), endLine_scalar_doubleQuoted ht] at h
    simp only [List.cons_append, List.append_assoc, List.cons.injEq, true_and, List.nil_append] at h
    obtain ⟨heq, hbehind⟩ := Coding.eq_of_written_append_eq
      (legible_doubleQuoted false s.toList ('\n' :: rest))
      (legible_doubleQuoted false t.toList ('\n' :: more)) h
    simp only [List.cons.injEq, true_and] at hbehind
    exact ⟨heq, hbehind⟩
  | literal =>
    rw [endLine_scalar_literal (hstyle.trans ht), endLine_scalar_literal ht, List.append_assoc,
      List.append_assoc] at h
    obtain ⟨hheader, hbody⟩ := eq_of_line_eq (lineFeed_not_mem_literalHeader _)
      (lineFeed_not_mem_literalHeader _) h
    obtain ⟨hlines, hbehind⟩ := Coding.eq_of_written_append_eq
      (legible_literal hrest true s.toList) (legible_literal hmore true t.toList) hbody
    have hend : endsInBreak s.toList = endsInBreak t.toList := by
      rw [Bool.eq_iff_iff, ← Bool.not_eq_false, ← Bool.not_eq_false, ← dash_mem_literalHeader,
        ← dash_mem_literalHeader, hheader]
    exact ⟨eq_of_endLine_eq hend hlines, hbehind⟩

end GatewayOperator.Yaml
