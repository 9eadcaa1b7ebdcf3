import GatewayOperator.Yaml.Printer

namespace GatewayOperator.Yaml

variable {indent : Nat} {broken : Bool} {c : Char} {cs ds rest more : List Char}

def startsWithBreak (cs : List Char) : Bool := cs.head?.any isBreak

def endsInBreak (cs : List Char) : Bool := cs.getLast?.any isBreak

-- Whether the last character was a break, before which `broken` says this.
def brokenAfter (broken : Bool) (cs : List Char) : Bool := cs.getLast?.elim broken isBreak

-- The text goes on with less than the given indent.
def Dedents (indent : Nat) (text : List Char) : Prop :=
  ∃ k < indent, ∃ c rest, text = spaces k ++ c :: rest ∧ c ≠ ' ' ∧ isBreak c = false

theorem brokenAfter_cons (broken : Bool) (c : Char) (cs : List Char) :
    brokenAfter broken (c :: cs) = brokenAfter (isBreak c) cs := by
  cases cs with
  | nil => rfl
  | cons d ds => simp [brokenAfter, List.getLast?_eq_some_getLast]

theorem isBreak_lineFeed : isBreak '\n' = true := rfl

theorem exists_of_endsInBreak (h : endsInBreak cs = true) :
    ∃ c, cs.getLast? = some c ∧ isBreak c = true := by
  unfold endsInBreak at h
  cases hlast : cs.getLast? with
  | none => rw [hlast] at h; cases h
  | some c => rw [hlast] at h; exact ⟨c, rfl, h⟩

theorem endsInBreak_append (h : ds ≠ []) : endsInBreak (cs ++ ds) = endsInBreak ds := by
  simp [endsInBreak, List.getLast?_append, List.getLast?_eq_some_getLast h]

theorem endLine_of_break (h : endsInBreak cs = true) : endLine cs = cs := if_pos h

theorem endLine_of_not_break (h : endsInBreak cs = false) : endLine cs = cs ++ ['\n'] :=
  if_neg (Bool.not_eq_true _ ▸ h)

theorem endLine_append (h : ds ≠ []) : endLine (cs ++ ds) = cs ++ endLine ds := by
  cases hbreak : endsInBreak ds with
  | true => rw [endLine_of_break hbreak, endLine_of_break ((endsInBreak_append h).trans hbreak)]
  | false =>
    rw [endLine_of_not_break hbreak, endLine_of_not_break ((endsInBreak_append h).trans hbreak),
      List.append_assoc]

theorem eq_of_endLine_eq (hend : endsInBreak cs = endsInBreak ds) (h : endLine cs = endLine ds) :
    cs = ds := by
  cases hds : endsInBreak ds with
  | true => rwa [endLine_of_break (hend.trans hds), endLine_of_break hds] at h
  | false =>
    rw [endLine_of_not_break (hend.trans hds), endLine_of_not_break hds] at h
    exact List.append_cancel_right h

theorem brokenAfter_endLine (broken : Bool) (cs : List Char) :
    brokenAfter broken (endLine cs) = true := by
  cases hbreak : endsInBreak cs with
  | true =>
    rw [endLine_of_break hbreak]
    obtain ⟨c, hlast, hc⟩ := exists_of_endsInBreak hbreak
    rw [brokenAfter, hlast]
    exact hc
  | false =>
    rw [endLine_of_not_break hbreak]
    simp [brokenAfter, isBreak]

theorem startsWithBreak_spaces_append (h : startsWithBreak cs = false) :
    startsWithBreak (spaces indent ++ cs) = false := by
  cases indent with
  | zero => exact h
  | succ n => rfl

theorem drop_spaces_append (indent : Nat) (cs : List Char) :
    (spaces indent ++ cs).drop indent = cs :=
  List.drop_left' List.length_replicate

-- How characters are written one by one, and how one is read off. Both may depend on whether the
-- last character was a break.
structure Coding where
  write : Bool → Char → List Char
  readOff? : Bool → List Char → Option (Char × List Char)

namespace Coding

variable (k : Coding)

def written (broken : Bool) : List Char → List Char
  | [] => []
  | c :: rest => k.write broken c ++ written (isBreak c) rest

-- Each character of the text is read off what it is written as, and none is read off `more`, which
-- stands behind the text.
def Legible (more : List Char) (broken : Bool) : List Char → Prop
  | [] => k.readOff? broken more = none
  | c :: rest => (∀ behind, k.readOff? broken (k.write broken c ++ behind) = some (c, behind)) ∧
      Legible more (isBreak c) rest

theorem written_append (broken : Bool) (cs ds : List Char) :
    k.written broken (cs ++ ds) = k.written broken cs ++ k.written (brokenAfter broken cs) ds := by
  induction cs generalizing broken with
  | nil => rfl
  | cons c cs ih => rw [List.cons_append, written, written, ih, brokenAfter_cons, List.append_assoc]

variable {k}

theorem legible_of_forall
    (hread : ∀ broken c behind, k.readOff? broken (k.write broken c ++ behind) = some (c, behind))
    (hend : k.readOff? (brokenAfter broken cs) more = none) : k.Legible more broken cs := by
  induction cs generalizing broken with
  | nil => exact hend
  | cons c cs ih => exact ⟨hread broken c, ih (brokenAfter_cons broken c cs ▸ hend)⟩

-- What is written for a legible text tells the text and what stands behind it.
theorem eq_of_written_append_eq (hcs : k.Legible rest broken cs) (hds : k.Legible more broken ds)
    (h : k.written broken cs ++ rest = k.written broken ds ++ more) : cs = ds ∧ rest = more := by
  induction cs generalizing broken ds with
  | nil =>
    cases ds with
    | nil => exact ⟨rfl, h⟩
    | cons d ds =>
      have hread := hds.1 (k.written (isBreak d) ds ++ more)
      rw [← List.append_assoc, ← written, ← h] at hread
      cases hcs.symm.trans hread
  | cons c cs ih =>
    have hread := hcs.1 (k.written (isBreak c) cs ++ rest)
    rw [← List.append_assoc, ← written, h] at hread
    cases ds with
    | nil => cases hds.symm.trans hread
    | cons d ds =>
      have hread' := hds.1 (k.written (isBreak d) ds ++ more)
      rw [← List.append_assoc, ← written, hread, Option.some.injEq, Prod.mk.injEq] at hread'
      obtain ⟨rfl, hbehind⟩ := hread'
      obtain ⟨rfl, hmore⟩ := ih hcs.2 hds.2 hbehind
      exact ⟨rfl, hmore⟩

end Coding

-- A text without line feeds ends where its line does.
def line : Coding where
  write _ c := [c]
  readOff? _
    | [] => none
    | c :: rest => if c = '\n' then none else some (c, rest)

theorem written_line (broken : Bool) (cs : List Char) : line.written broken cs = cs := by
  induction cs generalizing broken with
  | nil => rfl
  | cons c cs ih => rw [Coding.written, ih]; rfl

theorem legible_line (broken : Bool) (h : '\n' ∉ cs) (rest : List Char) :
    line.Legible ('\n' :: rest) broken cs := by
  induction cs generalizing broken with
  | nil => rfl
  | cons c cs ih =>
    rw [List.mem_cons, not_or] at h
    exact ⟨fun behind => if_neg (Ne.symm h.1), ih _ h.2⟩

theorem eq_of_line_eq (hcs : '\n' ∉ cs) (hds : '\n' ∉ ds)
    (h : cs ++ '\n' :: rest = ds ++ '\n' :: more) : cs = ds ∧ rest = more := by
  rw [← written_line false cs, ← written_line false ds] at h
  obtain ⟨rfl, hrest⟩ :=
    Coding.eq_of_written_append_eq (legible_line _ hcs rest) (legible_line _ hds more) h
  exact ⟨rfl, (List.cons.inj hrest).2⟩

-- The quote that ends the text is followed by no other.
def unquote? : List Char → Option (Char × List Char)
  | '\'' :: '\'' :: rest => some ('\'', rest)
  | '\'' :: _ => none
  | c :: rest => some (c, rest)
  | [] => none

def singleQuoted (indent : Nat) : Coding where
  write broken c :=
    if isBreak c ∨ c = ' ' then [c]
    else (if broken then spaces indent else []) ++ if c = '\'' then ['\'', '\''] else [c]
  readOff? broken text :=
    unquote? (if broken && !startsWithBreak text then text.drop indent else text)

-- No line begins with a space, so that all spaces after a break are those of the indent.
def Flush (broken : Bool) (cs : List Char) : Prop :=
  breakThenSpace cs = false ∧ (broken = true → cs.head? ≠ some ' ')

theorem Flush.cons (h : Flush broken (c :: cs)) :
    (broken = true → c ≠ ' ') ∧ Flush (isBreak c) cs := by
  refine ⟨fun hb hc => h.2 hb (congrArg some hc), ?_⟩
  cases cs with
  | nil => exact ⟨rfl, fun _ => nofun⟩
  | cons d ds =>
    have hpair := h.1
    simp only [breakThenSpace, adjacent, Bool.or_eq_false_iff, Bool.and_eq_false_iff] at hpair
    refine ⟨hpair.2, fun hb hd => ?_⟩
    simp_all

theorem singleQuotedBody_eq (h : Flush broken cs) :
    singleQuotedBody indent broken cs = (singleQuoted indent).written broken cs ++
      if brokenAfter broken cs then spaces indent else [] := by
  induction cs generalizing broken with
  | nil => rfl
  | cons c cs ih =>
    obtain ⟨hc, hcs⟩ := h.cons
    have hrest := ih hcs
    rw [brokenAfter_cons, Coding.written, List.append_assoc, ← hrest, singleQuotedBody]
    by_cases hbreak : isBreak c = true
    · simp [singleQuoted, hbreak]
    · by_cases hspace : c = ' '
      · have hflat : broken = false := eq_false_of_ne_true fun hb => hc hb hspace
        have hblank : isBreak ' ' = false := rfl
        simp [singleQuoted, hspace, hflat, hblank]
      · simp [singleQuoted, hbreak, hspace]

theorem unquote?_quote (c : Char) (behind : List Char) :
    unquote? ((if c = '\'' then ['\'', '\''] else [c]) ++ behind) = some (c, behind) := by
  split
  next hc => rw [hc]; rfl
  next hc => simp [unquote?, hc]

theorem readOff?_singleQuoted (hc : broken = true → c ≠ ' ') (behind : List Char) :
    (singleQuoted indent).readOff? broken ((singleQuoted indent).write broken c ++ behind) =
      some (c, behind) := by
  by_cases hbreak : isBreak c = true
  · have hquote : c ≠ '\'' := by
      rintro rfl
      cases hbreak
    simp [singleQuoted, hbreak, startsWithBreak, unquote?, hquote]
  · by_cases hspace : c = ' '
    · have hflat : broken = false := eq_false_of_ne_true fun hb => hc hb hspace
      simp [singleQuoted, hspace, hflat, unquote?]
    · have hfirst :
          startsWithBreak ((if c = '\'' then ['\'', '\''] else [c]) ++ behind) = false := by
        split
        next => rfl
        next => simpa [startsWithBreak] using hbreak
      have hstart : startsWithBreak (spaces indent ++
          ((if c = '\'' then ['\'', '\''] else [c]) ++ behind)) = false :=
        startsWithBreak_spaces_append hfirst
      cases broken with
      | false => simp [singleQuoted, hbreak, hspace, unquote?_quote]
      | true =>
        simp only [singleQuoted, hbreak, hspace, or_self, Bool.false_eq_true, if_false, if_true,
          List.append_assoc, hstart, Bool.true_and, Bool.not_false, drop_spaces_append,
          unquote?_quote]

theorem legible_singleQuoted (h : Flush broken cs) (rest : List Char) :
    (singleQuoted indent).Legible
      ((if brokenAfter broken cs then spaces indent else []) ++ '\'' :: '\n' :: rest)
      broken cs := by
  induction cs generalizing broken with
  | nil =>
    cases broken with
    | false => rfl
    | true =>
      have hquote : startsWithBreak (spaces indent ++ '\'' :: '\n' :: rest) = false :=
        startsWithBreak_spaces_append rfl
      simp [Coding.Legible, brokenAfter, singleQuoted, hquote, drop_spaces_append, unquote?]
  | cons c cs ih =>
    obtain ⟨hc, hcs⟩ := h.cons
    rw [brokenAfter_cons]
    exact ⟨readOff?_singleQuoted hc, ih hcs⟩

-- What a letter behind a backslash stands for
def escapes : List (Char × Char) :=
  [('0', '\x00'), ('a', '\x07'), ('b', '\x08'), ('t', '\t'), ('n', '\n'), ('v', '\x0b'),
   ('f', '\x0c'), ('r', '\r'), ('e', '\x1b'), ('N', '\u0085'), ('L', '\u2028'), ('P', '\u2029'),
   ('"', '"'), ('\\', '\\')]

def unescape? : List Char → Option (Char × List Char)
  | '\\' :: 'x' :: a :: b :: rest => (numeral? 16 [a, b]).map fun n => (Char.ofNat n, rest)
  | '\\' :: 'u' :: a :: b :: c :: d :: rest =>
    (numeral? 16 [a, b, c, d]).map fun n => (Char.ofNat n, rest)
  | '\\' :: letter :: rest => (escapes.lookup letter).map (·, rest)
  | '\\' :: _ => none
  | '"' :: _ => none
  | c :: rest => some (c, rest)
  | [] => none

def doubleQuoted : Coding where
  write _ c := escape c
  readOff? _ := unescape?

theorem written_doubleQuoted (broken : Bool) (cs : List Char) :
    doubleQuoted.written broken cs = cs.flatMap escape := by
  induction cs generalizing broken with
  | nil => rfl
  | cons c cs ih => rw [Coding.written, ih]; rfl

theorem unescape?_self (hslash : c ≠ '\\') (hquote : c ≠ '"') (rest : List Char) :
    unescape? (c :: rest) = some (c, rest) := by
  unfold unescape?
  split <;> simp_all

-- How much is read off does not depend on what is left.
theorem unescape?_append (h : unescape? cs = some (c, rest)) (behind : List Char) :
    unescape? (cs ++ behind) = some (c, rest ++ behind) := by
  unfold unescape? at h
  split at h
  next a b left =>
    obtain ⟨n, hn, heq⟩ := Option.map_eq_some_iff.mp h
    cases heq
    simp [unescape?, hn]
  next a b d e left =>
    obtain ⟨n, hn, heq⟩ := Option.map_eq_some_iff.mp h
    cases heq
    simp [unescape?, hn]
  next letter left _ _ =>
    obtain ⟨d, hd, heq⟩ := Option.map_eq_some_iff.mp h
    cases heq
    have hx : letter ≠ 'x' := by
      rintro rfl
      cases hd
    have hu : letter ≠ 'u' := by
      rintro rfl
      cases hd
    simp [unescape?, hx, hu, hd]
  next => cases h
  next => cases h
  next d left _ _ _ hslash hquote =>
    cases h
    exact unescape?_self hslash hquote _
  next => cases h

-- Codes among which are those of all characters that do not stand for themselves
def escapable : List Nat := List.range 0xa0 ++ [0x2028, 0x2029, 0xfeff, 0xfffe, 0xffff]

theorem escape_of_not_mem (h : c.toNat ∉ escapable) : escape c = [c] := by
  have hquote : c ≠ '"' := by
    rintro rfl
    exact h (by decide)
  have hslash : c ≠ '\\' := by
    rintro rfl
    exact h (by decide)
  simp only [escapable, List.mem_append, List.mem_range, List.mem_cons, List.not_mem_nil, or_false,
    not_or] at h
  -- between these two bounds there is no character
  have hvalid : c.toNat < 0xd800 ∨ 0xdfff < c.toNat := c.valid.imp id And.left
  have hprintable : isPrintable c = true := by
    simp only [isPrintable, Bool.or_eq_true, Bool.and_eq_true, decide_eq_true_eq]
    omega
  simp only [escape, hquote, hslash, hprintable, if_true, if_false]
  repeat rw [if_neg (by omega)]

theorem unescape?_escape (c : Char) : unescape? (escape c) = some (c, []) := by
  by_cases hmem : c.toNat ∈ escapable
  · have hall : ∀ n ∈ escapable, unescape? (escape (Char.ofNat n)) = some (Char.ofNat n, []) := by
      decide +kernel
    have hc := hall c.toNat hmem
    rwa [Char.ofNat_toNat] at hc
  · rw [escape_of_not_mem hmem, unescape?_self]
    · rintro rfl
      exact hmem (by decide)
    · rintro rfl
      exact hmem (by decide)

theorem legible_doubleQuoted (broken : Bool) (cs rest : List Char) :
    doubleQuoted.Legible ('"' :: rest) broken cs :=
  Coding.legible_of_forall (fun _ c => unescape?_append (unescape?_escape c)) rfl

def firstOf? : List Char → Option (Char × List Char)
  | [] => none
  | c :: rest => some (c, rest)

def literal (indent : Nat) : Coding where
  write broken c := if isBreak c then [c] else (if broken then spaces indent else []) ++ [c]
  readOff? broken text :=
    if broken && !startsWithBreak text then
      if (spaces indent).isPrefixOf text then firstOf? (text.drop indent) else none
    else firstOf? text

theorem literalBody_eq (indent : Nat) (broken : Bool) (cs : List Char) :
    literalBody indent broken cs = (literal indent).written broken cs := by
  induction cs generalizing broken with
  | nil => rfl
  | cons c cs ih =>
    rw [literalBody, ih, ih, Coding.written]
    by_cases hbreak : isBreak c = true <;> simp [literal, hbreak]

theorem readOff?_literal (broken : Bool) (c : Char) (behind : List Char) :
    (literal indent).readOff? broken ((literal indent).write broken c ++ behind) =
      some (c, behind) := by
  by_cases hbreak : isBreak c = true
  · simp [literal, hbreak, startsWithBreak, firstOf?]
  · have hstart : startsWithBreak (spaces indent ++ c :: behind) = false :=
      startsWithBreak_spaces_append (by simpa [startsWithBreak] using hbreak)
    cases broken with
    | false => simp [literal, hbreak, firstOf?]
    | true => simp [literal, hbreak, hstart, drop_spaces_append, firstOf?]

theorem readOff?_literal_of_dedents (h : Dedents indent more) :
    (literal indent).readOff? true more = none := by
  obtain ⟨k, hk, c, rest, rfl, hspace, hbreak⟩ := h
  have hstart : startsWithBreak (spaces k ++ c :: rest) = false :=
    startsWithBreak_spaces_append hbreak
  have hindent : ¬ spaces indent <+: spaces k ++ c :: rest := by
    rintro ⟨behind, hsame⟩
    have hat := congrArg (·[k]?) hsame
    simp [spaces, List.getElem?_append, hk] at hat
    exact hspace hat.symm
  simp [literal, hstart, hindent]

theorem legible_literal (h : Dedents indent more) (broken : Bool) (cs : List Char) :
    (literal indent).Legible more broken (endLine cs) := by
  refine Coding.legible_of_forall readOff?_literal ?_
  rw [brokenAfter_endLine]
  exact readOff?_literal_of_dedents h

theorem write_literal_ne_nil (broken : Bool) (c : Char) : (literal indent).write broken c ≠ [] := by
  by_cases hbreak : isBreak c = true <;> simp [literal, hbreak]

theorem endLine_write_literal (indent : Nat) (broken : Bool) (c : Char) :
    endLine ((literal indent).write broken c) = (literal indent).written broken (endLine [c]) := by
  by_cases hbreak : isBreak c = true
  · simp [Coding.written, literal, endLine, hbreak]
  · have hwritten : (literal indent).write broken c =
        (if broken then spaces indent else []) ++ [c] := if_neg hbreak
    rw [hwritten, endLine_append (List.cons_ne_nil _ _)]
    simp [Coding.written, literal, endLine, hbreak, isBreak_lineFeed]

theorem endLine_written_literal (broken : Bool) (cs : List Char) :
    endLine ((literal indent).written broken cs) =
      (literal indent).written broken (endLine cs) := by
  rcases List.eq_nil_or_concat cs with rfl | ⟨front, c, rfl⟩
  · rfl
  · have hlast := endLine_write_literal indent (brokenAfter broken front) c
    rw [List.concat_eq_append, endLine_append (List.cons_ne_nil _ _), Coding.written_append,
      Coding.written_append, ← hlast, Coding.written, Coding.written, List.append_nil,
      endLine_append (write_literal_ne_nil _ _)]

end GatewayOperator.Yaml
