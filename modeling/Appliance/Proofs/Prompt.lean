import Appliance.Prompt
import Mathlib.Data.List.TakeWhile

/-!
# A password is the same, typed or piped in

Typing a password is a history of keys: some enter a character, some take one back, and most
do nothing. What counts in the end is what the keys spell, and that is also what a password is
that is piped in with the same characters in its first line.

* `typed`, `spelled` — what keys spell, as a stack of characters.
* `pressAll`, `chars_pressAll`, `count_pressAll` — the builder holds what is spelled, and its size
  is the number of characters entered less the number taken back.
* `Line`, `Entry.shown_stars` — a terminal shows one star for each character.
* `lineFeed_notMem_ofText`, `ofPipe_of_firstLine` — a line of text, and the password in it.
* **`typed_and_piped_passwords_agree`** — both ways to enter a password give the same octets.
-/

namespace Appliance

namespace Octets

/-- The octets of a text are those of its characters. -/
theorem ofText_eq_flatMap (s : String) : ofText s = s.toList.flatMap String.utf8EncodeChar := by
  rw [ofText, ← String.utf8Encode_toList]
  simp [List.utf8Encode]

theorem ofText_append (s t : String) : ofText (s ++ t) = ofText s ++ ofText t := by
  simp [ofText_eq_flatMap]

end Octets

namespace Prompt

open Secret (Builder)

/-! ## What keys spell -/

/-- What a key leaves of the characters typed so far. A character is added, unless the control
key is held, and backspace takes the last one away; keys that are released and all other keys
leave them as they are. -/
def typed (cs : List Char) : Key → List Char
  | ⟨.char c, false, false⟩ => cs ++ [c]
  | ⟨.backspace, _, false⟩ => cs.dropLast
  | _ => cs

/-- The characters that keys spell. -/
def spelled (keys : List Key) : List Char := keys.foldl typed []

/-- What keys do one after the other: the builder after them, and the outcome of each. -/
def pressAll (b : Builder) : List Key → Builder × List KeyOutcome
  | [] => (b, [])
  | k :: rest =>
    let (next, outcome) := press b k
    let (last, outcomes) := pressAll next rest
    (last, outcome :: outcomes)

/-- What an outcome adds to the number of characters. -/
def KeyOutcome.change : KeyOutcome → Int
  | .appended => 1
  | .erased => -1
  | _ => 0

variable {b : Builder} {k : Key} {keys : List Key}

/-- **What one key does**: the builder holds what is typed, and the outcome says how its size
changes. -/
theorem press_spec (b : Builder) (k : Key) : (press b k).1.chars = typed b.chars k ∧
    ((press b k).1.size : Int) = b.size + (press b k).2.change := by
  obtain ⟨code, control, released⟩ := k
  have hstays : b.chars = b.chars ∧ (b.size : Int) = b.size + 0 := ⟨rfl, (Int.add_zero _).symm⟩
  cases released with
  | true => cases code <;> cases control <;> exact hstays
  | false =>
    cases code with
    | enter => exact hstays
    | escape => exact hstays
    | other => exact hstays
    | backspace =>
      by_cases hempty : b.chars = []
      · have hignored : press b ⟨.backspace, control, false⟩ = (b, .ignored) := by
          simp [press, Builder.isEmpty, hempty]
        rw [hignored]
        exact ⟨by simp [typed, hempty], (Int.add_zero _).symm⟩
      · have herased : press b ⟨.backspace, control, false⟩ = (b.pop .exact, .erased) := by
          simp [press, Builder.isEmpty, hempty]
        have hsize : 0 < b.chars.length := List.length_pos_iff.2 hempty
        rw [herased]
        refine ⟨Builder.chars_pop .exact b, ?_⟩
        simp only [Builder.size, Builder.chars_pop, List.length_dropLast, KeyOutcome.change]
        omega
    | char c =>
      cases control with
      | false => simp [press, typed, Builder.size, Builder.chars_push, KeyOutcome.change]
      | true =>
        by_cases hc : c = 'c'
        · simp [press, typed, hc, KeyOutcome.change]
        · simp [press, typed, hc, KeyOutcome.change]

/-- **The builder holds what keys spell**, if it held what was typed before. -/
theorem chars_pressAll (b : Builder) (keys : List Key) :
    (pressAll b keys).1.chars = keys.foldl typed b.chars := by
  induction keys generalizing b with
  | nil => rfl
  | cons k rest ih => rw [pressAll, ih, (press_spec b k).1, List.foldl_cons]

/-- The size changes by the characters that are entered, less those that are taken back. -/
theorem count_pressAll (b : Builder) (keys : List Key) :
    ((pressAll b keys).1.size : Int) = b.size +
      (((pressAll b keys).2.count .appended : Int) - (pressAll b keys).2.count .erased) := by
  induction keys generalizing b with
  | nil => simp [pressAll]
  | cons k rest ih =>
    have hnext := ih (press b k).1
    have hkey := (press_spec b k).2
    simp only [pressAll, List.count_cons]
    cases houtcome : (press b k).2 <;> simp [houtcome, KeyOutcome.change] at hkey ⊢ <;> omega

/-! ## What a terminal shows -/

/-- The line of a terminal that the cursor stands on: the characters before the cursor, the
nearest one first, and those from the cursor on. -/
structure Line where
  before : List Char
  after : List Char

namespace Line

/-- Shows a character. A backspace moves the cursor back by one place, any other character takes
the place that the cursor stands on. -/
def put (l : Line) (c : Char) : Line :=
  if c = '\x08' then
    match l.before with
    | [] => l
    | d :: rest => ⟨rest, d :: l.after⟩
  else ⟨c :: l.before, l.after.tail⟩

/-- The line after a text has been shown. -/
def shows (l : Line) (text : String) : Line := text.toList.foldl put l

theorem shows_append (l : Line) (s t : String) : l.shows (s ++ t) = (l.shows s).shows t := by
  simp [shows]

/-- `stars label n m`: behind the label there are `n` stars and then the cursor, with `m` places
behind it that have been blanked. -/
def stars (label : List Char) (n m : Nat) : Line :=
  ⟨List.replicate n '*' ++ label, List.replicate m ' '⟩

/-- The stars follow the number of characters. -/
theorem shows_echo {outcome : KeyOutcome} (hsubmit : outcome ≠ .submit) (habort : outcome ≠ .abort)
    {n n' : Nat} (hsize : (n' : Int) = n + outcome.change) (label : List Char) (m : Nat) :
    ∃ m', (stars label n m).shows (Entry.echo outcome) = stars label n' m' := by
  cases outcome with
  | submit => exact absurd rfl hsubmit
  | abort => exact absurd rfl habort
  | ignored =>
    obtain rfl : n' = n := by simp only [KeyOutcome.change] at hsize; omega
    exact ⟨m, rfl⟩
  | appended =>
    obtain rfl : n' = n + 1 := by simp only [KeyOutcome.change] at hsize; omega
    exact ⟨m - 1, by simp [shows, Entry.echo, put, stars, List.replicate_succ]⟩
  | erased =>
    obtain rfl : n = n' + 1 := by simp only [KeyOutcome.change] at hsize; omega
    exact ⟨m + 1, by simp [shows, Entry.echo, put, stars, List.replicate_succ]⟩

end Line

namespace Entry

/-- After its end an entry stays as it is. -/
theorem run_finished (p : Secret) (keys : List Key) :
    (Entry.finished p).run keys = (.finished p, "") := by
  induction keys with
  | nil => rfl
  | cons k rest ih => simp only [run, step, ih]; rfl

theorem run_cancelled (keys : List Key) : Entry.cancelled.run keys = (.cancelled, "") := by
  induction keys with
  | nil => rfl
  | cons k rest ih => simp only [run, step, ih]; rfl

/-- **While an entry goes on**, its builder is the one that the keys lead to, and the terminal
shows a star for each of its characters. -/
theorem shown_stars {b b' : Builder} {keys : List Key}
    (h : ((Entry.going b).run keys).1 = .going b') (label : List Char) (m : Nat) :
    b' = (pressAll b keys).1 ∧ ∃ m', (Line.stars label b.size m).shows
      ((Entry.going b).run keys).2 = Line.stars label b'.size m' := by
  induction keys generalizing b m with
  | nil =>
    cases h
    exact ⟨rfl, m, rfl⟩
  | cons k rest ih =>
    have hsize := (press_spec b k).2
    have hgoing : (press b k).2 ≠ .submit ∧ (press b k).2 ≠ .abort := by
      constructor
      · intro houtcome
        simp [run, step, houtcome, run_finished] at h
      · intro houtcome
        simp [run, step, houtcome, run_cancelled] at h
    have hstep : (Entry.going b).step k = (.going (press b k).1, echo (press b k).2) := by
      simp only [step]
      split
      · next houtcome => exact absurd houtcome hgoing.1
      · next houtcome => exact absurd houtcome hgoing.2
      · rfl
    simp only [run, hstep] at h ⊢
    obtain ⟨m', hshown⟩ := Line.shows_echo hgoing.1 hgoing.2 hsize label m
    obtain ⟨hbuilder, hmore⟩ := ih h m'
    refine ⟨hbuilder, ?_⟩
    rw [Line.shows_append, hshown]
    exact hmore

end Entry

/-! ## What is piped in -/

/-- Carriage return. -/
def carriageReturn : UInt8 := 13

/-- The octets of a character are no line feed, unless it is one: all octets of a longer form are
at least 128. -/
theorem lineFeed_notMem_utf8EncodeChar {c : Char} (h : c ≠ '\n') :
    lineFeed ∉ String.utf8EncodeChar c := by
  have hcode : c.val.toNat ≠ 10 := fun heq => h (Char.toNat_inj.1 heq)
  have hoctet : ∀ n, n % 256 ≠ 10 → lineFeed ≠ UInt8.ofNat n := by
    intro n hn heq
    exact hn (by simpa [lineFeed] using (congrArg UInt8.toNat heq).symm)
  unfold String.utf8EncodeChar
  simp only
  split
  · simp only [List.mem_cons, List.not_mem_nil, or_false]
    exact hoctet _ (by omega)
  · split
    · simp only [List.mem_cons, List.not_mem_nil, or_false, not_or]
      exact ⟨hoctet _ (by omega), hoctet _ (by omega)⟩
    · split
      · simp only [List.mem_cons, List.not_mem_nil, or_false, not_or]
        exact ⟨hoctet _ (by omega), hoctet _ (by omega), hoctet _ (by omega)⟩
      · simp only [List.mem_cons, List.not_mem_nil, or_false, not_or]
        exact ⟨hoctet _ (by omega), hoctet _ (by omega), hoctet _ (by omega), hoctet _ (by omega)⟩

/-- A text without a line feed has no octet that is one. -/
theorem lineFeed_notMem_ofText {w : String} (h : '\n' ∉ w.toList) :
    lineFeed ∉ Octets.ofText w := by
  rw [Octets.ofText_eq_flatMap, List.mem_flatMap]
  rintro ⟨c, hc, hmem⟩
  exact lineFeed_notMem_utf8EncodeChar (fun heq => h (heq ▸ hc)) hmem

/-- The first line ends with the first line feed. -/
theorem firstLine_append {line : Octets} (h : lineFeed ∉ line) (more : Octets) :
    firstLine (line ++ lineFeed :: more) = line ++ [lineFeed] := by
  induction line with
  | nil => simp [firstLine]
  | cons b rest ih =>
    obtain ⟨hb, hrest⟩ := not_or.1 (List.mem_cons.not.1 h)
    rw [List.cons_append, firstLine, if_neg (Ne.symm hb), ih hrest, List.cons_append]

theorem firstLine_eq_self {line : Octets} (h : lineFeed ∉ line) : firstLine line = line := by
  induction line with
  | nil => rfl
  | cons b rest ih =>
    obtain ⟨hb, hrest⟩ := not_or.1 (List.mem_cons.not.1 h)
    rw [firstLine, if_neg (Ne.symm hb), ih hrest]

/-- The secret that characters spell is their text. -/
theorem spell_eq (cs : List Char) : spell cs = Secret.ofText (String.ofList cs) := by
  have hchars : ∀ b : Builder, (cs.foldl (Builder.push .exact) b).chars = b.chars ++ cs := by
    induction cs with
    | nil => simp
    | cons c cs ih => intro b; simp [ih, Builder.chars_push]
  rw [spell, Builder.finish, hchars]
  rfl

/-- Behind a character that ends no line, line ends are taken away. -/
theorem withoutEnd_append {cs ends : List Char} (hcs : ∀ c ∈ cs.getLast?, isLineEnd c = false)
    (hends : ends.all isLineEnd = true) : withoutEnd (cs ++ ends) = cs := by
  have hnone : ends.reverse.dropWhile isLineEnd = [] :=
    List.dropWhile_eq_nil_iff.2 (by simpa using hends)
  have hkept : cs.reverse.dropWhile isLineEnd = cs.reverse := by
    cases hreversed : cs.reverse with
    | nil => rfl
    | cons c rest =>
      have hc : isLineEnd c = false := hcs c (by rw [← List.head?_reverse, hreversed]; rfl)
      exact List.dropWhile_cons_of_neg (by simp [hc])
  rw [withoutEnd, List.reverse_append, List.dropWhile_append, hnone, List.isEmpty_nil, if_pos rfl,
    hkept, List.reverse_reverse]

/-- **A password in the first line of what is piped in** is read as its text, if it has any. -/
theorem ofPipe_of_firstLine {input : Octets} {w ending : String}
    (hline : firstLine input = Octets.ofText (w ++ ending)) (hw : w ≠ "")
    (hlast : ∀ c ∈ w.toList.getLast?, isLineEnd c = false)
    (hending : ending.toList.all isLineEnd = true) : ofPipe input = .ok (Secret.ofText w) := by
  have htext : (firstLine input).text? = some (w ++ ending) := by
    rw [hline, Octets.text?_ofText]
  have hcontent : withoutEnd (w ++ ending).toList = w.toList := by
    rw [String.toList_append, withoutEnd_append hlast hending]
  simp only [ofPipe, htext, hcontent]
  split
  · next hempty => exact absurd (String.toList_eq_nil_iff.1 hempty) hw
  · rw [spell_eq, String.ofList_toList]

/-! ## Both ways -/

/-- **A password is the same, typed or piped in.**  For all keys the builder holds the characters
that they spell; it has as many as have been entered less those that have been taken back; and as
long as the entry goes on, the terminal shows a star for each of them behind the label of the
prompt, and blanks after that. Now let the keys spell a text that is not empty, holds no line feed
and does not end in a carriage return, whatever was typed and taken back on the way. Then they
give the octets of this text, and so does the text when it is piped in: alone, or ended by a line
feed or by a carriage return and a line feed, with any octets after that. -/
theorem typed_and_piped_passwords_agree (keys : List Key) :
    let b := (pressAll (.empty .exact) keys).1
    let outcomes := (pressAll (.empty .exact) keys).2
    b.chars = spelled keys ∧
    (outcomes.count .appended : Int) - outcomes.count .erased = b.size ∧
    (∀ b' label, (Entry.fresh.run keys).1 = .going b' →
      b' = b ∧ ∃ blanks, (Line.stars label 0 0).shows (Entry.fresh.run keys).2 =
        Line.stars label b.size blanks) ∧
    ∀ w : String, w ≠ "" → '\n' ∉ w.toList → w.toList.getLast? ≠ some '\r' →
      spelled keys = w.toList →
        b.finish.octets = Octets.ofText w ∧
        ofPipe (Octets.ofText w) = .ok b.finish ∧
        ∀ more, ofPipe (Octets.ofText w ++ lineFeed :: more) = .ok b.finish ∧
          ofPipe (Octets.ofText w ++ carriageReturn :: lineFeed :: more) = .ok b.finish := by
  intro b outcomes
  have hchars : b.chars = spelled keys := chars_pressAll _ keys
  have hcount : (b.size : Int) = (Builder.empty .exact).size +
      ((outcomes.count .appended : Int) - outcomes.count .erased) := count_pressAll _ keys
  refine ⟨hchars, ?_, ?_, ?_⟩
  · have hempty : (Builder.empty .exact).size = 0 := rfl
    omega
  · intro b' label hgoing
    obtain ⟨rfl, hshown⟩ := Entry.shown_stars hgoing label 0
    exact ⟨rfl, hshown⟩
  · intro w hw hline hreturn hspelled
    have hfinish : b.finish = Secret.ofText w := by
      rw [Builder.finish, hchars, hspelled, String.ofList_toList]
    have hoctets := lineFeed_notMem_ofText hline
    have hlast : ∀ c ∈ w.toList.getLast?, isLineEnd c = false := by
      intro c hc
      have hfeed : c ≠ '\n' := fun heq => hline (heq ▸ List.mem_of_getLast? hc)
      have hcarriage : c ≠ '\r' := fun heq => hreturn (heq ▸ hc)
      simp [isLineEnd, hfeed, hcarriage]
    rw [hfinish]
    refine ⟨rfl, ?_, fun more => ⟨?_, ?_⟩⟩
    · have hfirst : firstLine (Octets.ofText w) = Octets.ofText (w ++ "") := by
        rw [firstLine_eq_self hoctets, String.append_empty]
      exact ofPipe_of_firstLine hfirst hw hlast rfl
    · have hfirst : firstLine (Octets.ofText w ++ lineFeed :: more) =
          Octets.ofText (w ++ "\n") := by
        rw [firstLine_append hoctets, Octets.ofText_append]
        rfl
      exact ofPipe_of_firstLine hfirst hw hlast rfl
    · have hreturned : lineFeed ∉ Octets.ofText w ++ [carriageReturn] := by
        simpa [carriageReturn, lineFeed] using hoctets
      have hfirst : firstLine (Octets.ofText w ++ carriageReturn :: lineFeed :: more) =
          Octets.ofText (w ++ "\r\n") := by
        have hsplit : Octets.ofText w ++ carriageReturn :: lineFeed :: more =
            (Octets.ofText w ++ [carriageReturn]) ++ lineFeed :: more := by simp
        rw [hsplit, firstLine_append hreturned, Octets.ofText_append, List.append_assoc]
        rfl
      exact ofPipe_of_firstLine hfirst hw hlast rfl

/-- A password with a letter mistyped and taken back is the one that is piped in, whatever octets
follow. -/
theorem mistyped_letter_makes_no_difference :
    let keys : List Key := [⟨.char 'a', false, false⟩, ⟨.char 'a', false, true⟩,
      ⟨.char 's', false, false⟩, ⟨.backspace, false, false⟩, ⟨.char 'ß', false, false⟩]
    ofPipe (Octets.ofText "aß" ++ carriageReturn :: lineFeed :: [255]) =
      .ok (pressAll (.empty .exact) keys).1.finish := by
  intro keys
  obtain ⟨-, -, hmore⟩ := (typed_and_piped_passwords_agree keys).2.2.2 "aß" (by decide) (by decide)
    (by decide) (by decide)
  exact (hmore [255]).2

end Prompt

end Appliance
