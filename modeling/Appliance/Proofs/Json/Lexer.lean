import Appliance.Json.Value
import Mathlib.Data.Bool.AllAny
import Mathlib.Data.List.Basic

/-!
# Written values are read token by token

The automaton that reads tokens looks at one character at a time. This file follows it over
what is written: a bracket, a comma or a colon is one token, and so are the words, a string
literal and a numeral. What has been read before only stays where it is, so it is enough to
know what a text is read as on its own; and a numeral, the only token without an end of its
own, ends where a comma or a closing bracket follows.

* `lex` — the rest of a text, read after some tokens.
* `pieces`, `lex_stringText`, `decodePieces_pieces` — a string literal, and what it stands for.
* `run_done` — what has been read before stays where it is.
* `lex_number` — a numeral followed by a comma, a closing bracket or nothing.
* **`tokens?_intText`** — the digits of an integer are a numeral of that value.
-/

namespace Appliance.Json

namespace Lexer

variable {done : List Token} {cs : List Char}

/-- Reads the rest of a text after the tokens `done`, the last one first. -/
def lex (done : List Token) (cs : List Char) : Option (List Token) :=
  (run ⟨.idle, done⟩ cs).bind finish

theorem lex_nil : lex done [] = some done.reverse := rfl

theorem tokens?_eq_lex (cs : List Char) : tokens? cs = lex [] cs := rfl

/-! ## Marks and words -/

theorem lex_openBrace : lex done ('\x7b' :: cs) = lex (.openBrace :: done) cs := rfl

theorem lex_closeBrace : lex done ('\x7d' :: cs) = lex (.closeBrace :: done) cs := rfl

theorem lex_openBracket : lex done ('[' :: cs) = lex (.openBracket :: done) cs := rfl

theorem lex_closeBracket : lex done (']' :: cs) = lex (.closeBracket :: done) cs := rfl

theorem lex_comma : lex done (',' :: cs) = lex (.comma :: done) cs := rfl

theorem lex_colon : lex done (':' :: cs) = lex (.colon :: done) cs := rfl

theorem lex_null : lex done ("null".toList ++ cs) = lex (.word .null :: done) cs := rfl

theorem lex_true : lex done ("true".toList ++ cs) = lex (.word .yes :: done) cs := rfl

theorem lex_false : lex done ("false".toList ++ cs) = lex (.word .no :: done) cs := rfl

/-! ## String literals -/

/-- Whether a character is written by the number of its code. -/
def isNumbered (c : Char) : Bool :=
  c.toNat < 0x20 && !(['\x08', '\x0c', '\n', '\r', '\t'].contains c)

/-- The piece that a character is written as. -/
def piece (c : Char) : Piece := if isNumbered c then .unit c.toNat else .char c

/-- The pieces that a string is written as. -/
def pieces (s : String) : List Piece := s.toList.map piece

theorem hexValue?_hexDigit : ∀ n < 16, Text.hexValue? (Text.hexDigit n) = some n := by decide

/-- **How a character is written**: as it is, as a backslash and a letter, or by its number. -/
theorem escapeChar_cases (c : Char) :
    (Value.escapeChar c = [c] ∧ piece c = .char c ∧ c ≠ '"' ∧ c ≠ '\\' ∧ 0x20 ≤ c.toNat) ∨
    (∃ x, Value.escapeChar c = ['\\', x] ∧ piece c = .char c ∧ x ≠ 'u' ∧
      shortEscape? x = some c) ∨
    (Value.escapeChar c =
        ['\\', 'u', '0', '0', Text.hexDigit (c.toNat / 16), Text.hexDigit (c.toNat % 16)] ∧
      piece c = .unit c.toNat ∧ c.toNat < 0x20) := by
  by_cases hquote : c = '"'
  · subst hquote
    exact .inr (.inl ⟨'"', rfl, rfl, by decide, rfl⟩)
  by_cases hslash : c = '\\'
  · subst hslash
    exact .inr (.inl ⟨'\\', rfl, rfl, by decide, rfl⟩)
  by_cases hb : c = '\x08'
  · subst hb
    exact .inr (.inl ⟨'b', rfl, rfl, by decide, rfl⟩)
  by_cases hf : c = '\x0c'
  · subst hf
    exact .inr (.inl ⟨'f', rfl, rfl, by decide, rfl⟩)
  by_cases hn : c = '\n'
  · subst hn
    exact .inr (.inl ⟨'n', rfl, rfl, by decide, rfl⟩)
  by_cases hr : c = '\r'
  · subst hr
    exact .inr (.inl ⟨'r', rfl, rfl, by decide, rfl⟩)
  by_cases ht : c = '\t'
  · subst ht
    exact .inr (.inl ⟨'t', rfl, rfl, by decide, rfl⟩)
  by_cases hlow : c.toNat < 0x20
  · refine .inr (.inr ⟨?_, ?_, hlow⟩)
    · simp [Value.escapeChar, hquote, hslash, hb, hf, hn, hr, ht, hlow]
    · simp [piece, isNumbered, hb, hf, hn, hr, ht, hlow]
  · refine .inl ⟨?_, ?_, hquote, hslash, by omega⟩
    · simp [Value.escapeChar, hquote, hslash, hb, hf, hn, hr, ht, hlow]
    · simp [piece, isNumbered, hlow]

/-- One character of a string is read as its piece. -/
theorem run_escapeChar (rev : List Piece) (c : Char) (cs : List Char) :
    run ⟨.text rev, done⟩ (Value.escapeChar c ++ cs) = run ⟨.text (piece c :: rev), done⟩ cs := by
  rcases escapeChar_cases c with ⟨hwritten, hpiece, hquote, hslash, hlow⟩ |
    ⟨x, hwritten, hpiece, hx, hshort⟩ | ⟨hwritten, hpiece, hlow⟩
  · have hlow : ¬ c.toNat < 0x20 := by omega
    rw [hwritten, hpiece]
    simp [run, step, hquote, hslash, hlow]
  · rw [hwritten, hpiece]
    simp [run, step, hx, hshort]
  · have hfirst : Text.hexValue? '0' = some 0 := by decide
    have hhigh := hexValue?_hexDigit (c.toNat / 16) (by omega)
    have hunit := hexValue?_hexDigit (c.toNat % 16) (by omega)
    have hcode : 16 * (c.toNat / 16) + c.toNat % 16 = c.toNat := Nat.div_add_mod _ _
    rw [hwritten, hpiece]
    simp [run, step, hfirst, hhigh, hunit, hcode]

theorem run_escaped (rev : List Piece) (s cs : List Char) :
    run ⟨.text rev, done⟩ (s.flatMap Value.escapeChar ++ cs) =
      run ⟨.text ((s.map piece).reverse ++ rev), done⟩ cs := by
  induction s generalizing rev with
  | nil => rfl
  | cons c s ih =>
    rw [List.flatMap_cons, List.append_assoc, run_escapeChar, ih]
    simp

/-- **A string literal is read as its pieces.** -/
theorem lex_stringText (s : String) :
    lex done (Value.stringText s ++ cs) = lex (.text (pieces s) :: done) cs := by
  have hopen : run ⟨.idle, done⟩ (Value.stringText s ++ cs) =
      run ⟨.text [], done⟩ (s.toList.flatMap Value.escapeChar ++ '"' :: cs) := by
    simp only [Value.stringText, List.cons_append, List.append_assoc, List.nil_append]
    rfl
  rw [lex, hopen, run_escaped]
  simp [run, step, lex, pieces]

/-- A unit outside the surrogates is a character, whatever follows it. -/
theorem decodePieces_unit {n : Nat} (h : n < 0xD800) (ps : List Piece) :
    decodePieces (.unit n :: ps) = (decodePieces ps).map (Char.ofNat n :: ·) := by
  have hhigh : ¬ (0xD800 ≤ n ∧ n ≤ 0xDBFF) := by omega
  have hlow : ¬ (0xDC00 ≤ n ∧ n ≤ 0xDFFF) := by omega
  have hnone : ¬ (0xD800 ≤ n ∧ n ≤ 0xDFFF) := by omega
  cases ps with
  | nil => simp [decodePieces, hnone]
  | cons p ps => cases p <;> simp [decodePieces, hhigh, hlow, hnone]

/-- **The pieces of a string stand for that string.** -/
theorem decodePieces_pieces (s : String) : decodePieces (pieces s) = some s.toList := by
  unfold pieces
  induction s.toList with
  | nil => rfl
  | cons c cs ih =>
    rw [List.map_cons, piece]
    split
    · next hnumbered =>
      have hlow : c.toNat < 0xD800 := by
        have hcode : c.toNat < 0x20 := of_decide_eq_true (Bool.and_eq_true_iff.1 hnumbered).1
        omega
      rw [decodePieces_unit hlow, ih, Char.ofNat_toNat]
      rfl
    · rw [decodePieces, ih]
      rfl

/-! ## What has been read before -/

/-- The automaton with more tokens read before. -/
def State.after (base : List Token) (s : State) : State := ⟨s.mode, s.done ++ base⟩

theorem fresh_done (base done : List Token) (c : Char) :
    fresh (done ++ base) c = (fresh done c).map (State.after base) := by
  unfold fresh
  simp only [apply_ite (Option.map (State.after base)), Option.map_map, Option.map_some]
  rfl

theorem step_done (base : List Token) (s : State) (c : Char) :
    step (s.after base) c = (step s c).map (State.after base) := by
  obtain ⟨mode, done⟩ := s
  cases mode with
  | idle => exact fresh_done base done c
  | word w rest =>
    match rest with
    | [] => rfl
    | [x] => simp only [step, State.after]; split <;> rfl
    | x :: y :: rest => simp only [step, State.after]; split <;> rfl
  | number d =>
    simp only [step, State.after]
    cases d.extend? c with
    | some d' => rfl
    | none =>
      simp only
      split
      · exact fresh_done base (.number d.numeral :: done) c
      · rfl
  | text rev =>
    simp only [step, State.after, apply_ite (Option.map (State.after base))]
    rfl
  | escape rev =>
    simp only [step, State.after]
    split
    · rfl
    · simp [State.after, Function.comp_def]
  | unit rev count value =>
    simp only [step, State.after]
    cases Text.hexValue? c with
    | none => rfl
    | some h => simp only; split <;> rfl

/-- **What has been read before stays where it is.** -/
theorem run_done (base : List Token) (s : State) (cs : List Char) :
    run (s.after base) cs = (run s cs).map (State.after base) := by
  induction cs generalizing s with
  | nil => rfl
  | cons c cs ih =>
    rw [run, step_done, run]
    cases step s c with
    | none => rfl
    | some s' => exact ih s'

/-! ## Numerals -/

/-- What may follow a value: nothing, a comma, or the end of what it stands in. -/
def Ends (rest : List Char) : Prop := ∀ c ∈ rest.head?, c = ',' ∨ c = ']' ∨ c = '\x7d'

theorem ends_nil : Ends [] := by simp [Ends]

theorem ends_comma (rest : List Char) : Ends (',' :: rest) := by simp [Ends]

theorem ends_closeBracket (rest : List Char) : Ends (']' :: rest) := by simp [Ends]

theorem ends_closeBrace (rest : List Char) : Ends ('\x7d' :: rest) := by simp [Ends]

/-- A numeral does not go on with what may follow it. -/
theorem extend?_of_ends {c : Char} (h : c = ',' ∨ c = ']' ∨ c = '\x7d') (d : Draft) :
    d.extend? c = none := by
  have hdigit : c.isDigit = false := by rcases h with rfl | rfl | rfl <;> rfl
  have hother : c ≠ '0' ∧ c ≠ '.' ∧ c ≠ 'e' ∧ c ≠ 'E' ∧ c ≠ '+' ∧ c ≠ '-' := by
    rcases h with rfl | rfl | rfl <;> decide
  obtain ⟨hzero, hpoint, he, hE, hplus, hminus⟩ := hother
  unfold Draft.extend?
  split <;> simp [hdigit, hzero, hpoint, he, hE, hplus, hminus]

/-- A draft that may end is a numeral, where something follows that may. -/
theorem lex_draft {d : Draft} (hd : d.complete = true) {rest : List Char} (h : Ends rest) :
    (run ⟨.number d, done⟩ rest).bind finish = lex (.number d.numeral :: done) rest := by
  cases rest with
  | nil => simp [run, finish, hd, lex_nil]
  | cons c rest =>
    have hc := h c rfl
    have hdigit : c.isDigit = false := by rcases hc with rfl | rfl | rfl <;> rfl
    rw [lex, run, run]
    simp [step, extend?_of_ends hc, hd, hdigit]

/-- **A text that is one numeral is that numeral**, wherever it ends. -/
theorem lex_number {text : List Char} {n : Numeral} (htext : tokens? text = some [.number n])
    {rest : List Char} (h : Ends rest) :
    lex done (text ++ rest) = lex (.number n :: done) rest := by
  obtain ⟨s, hs, hfinish⟩ := Option.bind_eq_some_iff.1 htext
  have hrun : run ⟨.idle, done⟩ text = some (s.after done) := by
    have hdone := run_done done ⟨.idle, []⟩ text
    rw [hs] at hdone
    exact hdone
  rw [lex, run_append, hrun, Option.bind_some]
  obtain ⟨mode, read⟩ := s
  cases mode with
  | idle =>
    have hread : read = [.number n] := by simpa [finish] using hfinish
    rw [hread]
    rfl
  | number d =>
    cases hd : d.complete with
    | false => simp [finish, hd] at hfinish
    | true =>
      have hread : read.reverse ++ [Token.number d.numeral] = [] ++ [Token.number n] := by
        simpa [finish, hd] using hfinish
      obtain ⟨hempty, hnumeral⟩ := List.append_inj' hread rfl
      obtain rfl : read = [] := by simpa using hempty
      obtain rfl : d.numeral = n := by simpa using hnumeral
      exact lex_draft hd h
  | word w rest => cases hfinish
  | text rev => cases hfinish
  | escape rev => cases hfinish
  | unit rev count value => cases hfinish

/-! ## Integers -/

/-- The numeral of an integer. -/
def integerNumeral (n : Int) : Numeral := ⟨decide (n < 0), Number.natText n.natAbs, [], none⟩

/-- A digit begins a numeral. -/
theorem fresh_of_isDigit {c : Char} (h : c.isDigit = true) :
    fresh done c = ((start false).extend? c).map fun d => ⟨.number d, done⟩ := by
  have hnone : ∀ x ∈ " \t\n\r\x7b\x7d[],:\"ntf-".toList, x.isDigit = false :=
    List.all_iff_forall_prop.1 (by decide)
  have hmarks : ∀ x ∈ " \t\n\r\x7b\x7d[],:\"ntf-".toList, c ≠ x := by
    rintro x hx rfl
    rw [hnone c hx] at h
    cases h
  simp only [String.reduceToList, List.forall_mem_cons] at hmarks
  simp [fresh, isGap, hmarks]

theorem run_digits {d : Draft} (hd : d.part = .whole) {ds : List Char}
    (h : ∀ c ∈ ds, c.isDigit = true) :
    run ⟨.number d, done⟩ ds =
      some ⟨.number { d with whole := ds.reverse ++ d.whole }, done⟩ := by
  induction ds generalizing d with
  | nil => rfl
  | cons c ds ih =>
    obtain ⟨hc, hds⟩ := List.forall_mem_cons.1 h
    have hextend : d.extend? c = some { d with whole := c :: d.whole } := by
      simp [Draft.extend?, hd, hc]
    rw [run, step]
    simp only [hextend, Option.bind_some]
    rw [@ih { d with whole := c :: d.whole } hd hds]
    simp

/-- A digit other than zero begins the whole part of a numeral. -/
theorem extend?_start (negative : Bool) {c : Char} (hc : c ≠ '0') (hdigit : c.isDigit = true) :
    (start negative).extend? c =
      some { start negative with part := .whole, whole := [c] } := by
  simp [Draft.extend?, start, hc, hdigit]

/-- The digits of a number other than zero do not begin with a zero. -/
theorem natText_cases (n : Nat) : n = 0 ∧ Number.natText n = ['0'] ∨
    ∃ c ds, Number.natText n = c :: ds ∧ c ≠ '0' ∧ ∀ x ∈ c :: ds, x.isDigit = true := by
  have hdigits : ∀ x ∈ Nat.toDigits 10 n, x.isDigit = true := fun x hx =>
    Nat.isDigit_of_mem_toDigits (by decide) (by decide) hx
  rcases Nat.eq_zero_or_pos n with rfl | hpos
  · exact .inl ⟨rfl, rfl⟩
  · right
    have hfirst : ∃ c ds, Nat.toDigits 10 n = c :: ds ∧ c ≠ '0' := by
      clear hdigits
      induction n using Nat.strongRecOn with
      | ind n ih =>
        by_cases hn : n < 10
        · have hchar : ∀ d < 10, 0 < d → d.digitChar ≠ '0' := by decide
          exact ⟨n.digitChar, [], Nat.toDigits_of_lt_base hn, hchar n hn hpos⟩
        · obtain ⟨c, ds, hds, hc⟩ := ih (n / 10) (by omega) (by omega)
          refine ⟨c, ds ++ [(n % 10).digitChar], ?_, hc⟩
          rw [Nat.toDigits_of_base_le (by decide) (by omega), hds, List.cons_append]
    obtain ⟨c, ds, hds, hc⟩ := hfirst
    exact ⟨c, ds, hds, hc, hds ▸ hdigits⟩

/-- A numeral in the making goes on with the digits of a number. -/
theorem run_natText (done : List Token) (negative : Bool) (n : Nat) : ∃ d : Draft,
    run ⟨.number (start negative), done⟩ (Number.natText n) = some ⟨.number d, done⟩ ∧
      d.complete = true ∧ d.numeral = ⟨negative, Number.natText n, [], none⟩ := by
  rcases natText_cases n with ⟨-, htext⟩ | ⟨c, ds, htext, hc, hdigits⟩
  · rw [htext]
    exact ⟨_, rfl, rfl, rfl⟩
  · obtain ⟨hdigit, hds⟩ := List.forall_mem_cons.1 hdigits
    rw [htext, run, step]
    simp only [extend?_start negative hc hdigit, Option.bind_some]
    rw [run_digits rfl hds]
    exact ⟨_, rfl, rfl, by simp [Draft.numeral, start]⟩

/-- **The digits of an integer are a numeral.** -/
theorem tokens?_intText (n : Int) :
    tokens? (Number.intText n) = some [.number (integerNumeral n)] := by
  cases n with
  | negSucc n =>
    obtain ⟨d, hrun, hcomplete, hnumeral⟩ := run_natText [] true (n + 1)
    have hminus : run ⟨.idle, []⟩ ('-' :: Number.natText (n + 1)) =
        run ⟨.number (start true), []⟩ (Number.natText (n + 1)) := rfl
    rw [tokens?, Number.intText, hminus, hrun]
    simp [finish, hcomplete, hnumeral, integerNumeral]
  | ofNat n =>
    obtain ⟨d, hrun, hcomplete, hnumeral⟩ := run_natText [] false n
    have hfirst : run ⟨.idle, []⟩ (Number.natText n) =
        run ⟨.number (start false), []⟩ (Number.natText n) := by
      rcases natText_cases n with ⟨-, htext⟩ | ⟨c, ds, htext, hc, hdigits⟩
      · rw [htext]
        rfl
      · have hdigit := (List.forall_mem_cons.1 hdigits).1
        rw [htext, run, run]
        simp only [step, fresh_of_isDigit hdigit, extend?_start false hc hdigit, Option.map_some]
    rw [tokens?, Number.intText, hfirst, hrun]
    simp [finish, hcomplete, hnumeral, integerNumeral]

end Lexer

end Appliance.Json
