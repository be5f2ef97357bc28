import Appliance.CommandLine.Run
import Appliance.Proofs.Secrecy.Prompt
import Appliance.Proofs.Secrecy.Session

/-!
# The command that gets a token does not tell secrets apart

Two worlds are alike if they give the program alike secrets, answer alike what it asks of the
token service, and agree in everything else; what the program prints there is alike. A part of
the program respects this if it ends alike in two such worlds and leaves them alike, and parts
that respect it may come one after another.

What a password that is piped in and is not UTF-8 leaves behind is the place and the length of
its first fault, in the last line of the report. For two such passwords everything else is the
same.

* `Respects`               : a part of the program keeps worlds alike
* `Line.Alike`, `lines_eq` : what is printed
* `World.Alike`            : worlds that are alike
* `connect_alike`          : the session of a connection
* **`run_alike`**          : the whole program with a command that gets a token
-/

namespace Appliance

namespace CommandLine

open TokenService (Failure)

variable {σ τ : Type}

/-! ## Parts of the program -/

/-- A part of the program in two worlds: it ends as `Q` relates it and keeps `R`. -/
def Respects {α β : Type} (R : σ → τ → Prop) (Q : α → β → Prop) (x : StateM σ α)
    (y : StateM τ β) : Prop :=
  ∀ s t, R s t → Q (x s).1 (y t).1 ∧ R (x s).2 (y t).2

namespace Respects

variable {α β γ δ ε : Type} {R : σ → τ → Prop} {Q : α → β → Prop} {S : γ → δ → Prop}
  {E : ε → ε → Prop}

theorem pure {a : α} {b : β} (h : Q a b) :
    Respects R Q (Pure.pure a : StateM σ α) (Pure.pure b : StateM τ β) :=
  fun _ _ hst => ⟨h, hst⟩

/-- One part after another. -/
theorem bind {x : StateM σ α} {y : StateM τ β} (h : Respects R Q x y) {f : α → StateM σ γ}
    {g : β → StateM τ δ} (hfg : ∀ a b, Q a b → Respects R S (f a) (g b)) :
    Respects R S (x >>= f) (y >>= g) := by
  intro s t hst
  obtain ⟨hab, hst'⟩ := h s t hst
  exact hfg _ _ hab _ _ hst'

theorem map {x : StateM σ α} {y : StateM τ β} (h : Respects R Q x y) {f : α → γ} {g : β → δ}
    (hfg : ∀ a b, Q a b → S (f a) (g b)) : Respects R S (f <$> x) (g <$> y) := by
  intro s t hst
  obtain ⟨hab, hst'⟩ := h s t hst
  exact ⟨hfg _ _ hab, hst'⟩

theorem mono {x : StateM σ α} {y : StateM τ β} (h : Respects R Q x y) {Q' : α → β → Prop}
    (hQ : ∀ a b, Q a b → Q' a b) : Respects R Q' x y := by
  intro s t hst
  obtain ⟨hab, hst'⟩ := h s t hst
  exact ⟨hQ _ _ hab, hst'⟩

/-- One part after another, each of which may end the program. -/
theorem andThen {x : ExceptT ε (StateM σ) α} {y : ExceptT ε (StateM τ) β}
    (h : Respects R (EndsAlike E Q) x.run y.run) {f : α → ExceptT ε (StateM σ) γ}
    {g : β → ExceptT ε (StateM τ) δ}
    (hfg : ∀ a b, Q a b → Respects R (EndsAlike E S) (f a).run (g b).run) :
    Respects R (EndsAlike E S) (x >>= f).run (y >>= g).run := by
  rw [ExceptT.run_bind, ExceptT.run_bind]
  refine h.bind fun a b hab => ?_
  cases hab with
  | error he => exact .pure (.error he)
  | ok hab => exact hfg _ _ hab

/-- A part that cannot end the program. -/
theorem lift {x : StateM σ α} {y : StateM τ β} (h : Respects R Q x y) :
    Respects R (EndsAlike E Q) (ExceptT.lift x).run (ExceptT.lift y).run :=
  h.map fun _ _ hab => .ok hab

theorem mapResult {x : ExceptT ε (StateM σ) α} {y : ExceptT ε (StateM τ) β}
    (h : Respects R (EndsAlike E Q) x.run y.run) {f : α → γ} {g : β → δ}
    (hfg : ∀ a b, Q a b → S (f a) (g b)) :
    Respects R (EndsAlike E S) (f <$> x).run (g <$> y).run := by
  rw [ExceptT.run_map, ExceptT.run_map]
  refine h.map fun a b hab => ?_
  cases hab with
  | error he => exact .error he
  | ok hab => exact .ok (hfg _ _ hab)

end Respects

/-! ## What is printed -/

/-- The report of a password that is piped in and is not UTF-8. -/
def unreadable (f : Text.Utf8.Fault) : Report := ⟨(Prompt.Fault.notText f).message, [f.message]⟩

/-- Its last line. -/
def faultLine (f : Text.Utf8.Fault) : Line := .err ("    " ++ f.message)

theorem newline_notMem_toDigits (n : Nat) : '\n' ∉ Nat.toDigits 10 n := by
  intro h
  have hdigit := Nat.isDigit_of_mem_toDigits (by decide) (by decide) h
  exact absurd hdigit (by decide)

theorem newline_notMem_message (f : Text.Utf8.Fault) : '\n' ∉ f.message.toList := by
  have hvalid := newline_notMem_toDigits f.valid
  rw [Text.Utf8.Fault.message]
  cases f.width with
  | none => simpa using hvalid
  | some n =>
    have hwidth := newline_notMem_toDigits n
    simpa using ⟨hwidth, hvalid⟩

/-- Only the last line depends on the fault. -/
theorem report_unreadable (f : Text.Utf8.Fault) :
    Line.report (unreadable f) =
      [.err "Error: Password is not valid UTF-8", .err "", .err "Caused by:", faultLine f] := by
  have hcontext : Report.linesOf ("Error: " ++ (unreadable f).context) =
      ["Error: Password is not valid UTF-8"] := by
    change Report.linesOf "Error: Password is not valid UTF-8" = _
    decide +kernel
  have hcause : Report.linesOf f.message = [f.message] := by
    rw [Report.linesOf, List.splitOn_eq_singleton (newline_notMem_message f)]
    simp
  rw [Line.report, Report.lines, hcontext]
  simp [unreadable, Report.causeLines, Report.indented, hcause, faultLine]

variable (Q : Text.Utf8.Fault → Text.Utf8.Fault → Prop)

/-- The same line, or the last lines of the reports of two passwords whose first faults `Q`
relates. -/
inductive Line.Alike : Line → Line → Prop where
  | same (l : Line) : Alike l l
  | fault {f f' : Text.Utf8.Fault} : Q f f' → Alike (faultLine f) (faultLine f')

/-- The same report, or the reports of two passwords whose first faults `Q` relates. -/
inductive Report.Alike : Report → Report → Prop where
  | same (r : Report) : Alike r r
  | unreadable {f f' : Text.Utf8.Fault} : Q f f' → Alike (unreadable f) (unreadable f')

/-- The program ends with the same code, and what it prints at the end is alike. -/
structure Outcome.Alike (o o' : Outcome) : Prop where
  lines : List.Forall₂ (Line.Alike Q) o.lines o'.lines
  code : o.code = o'.code

variable {Q}

theorem lines_refl (lines : List Line) : List.Forall₂ (Line.Alike Q) lines lines :=
  List.forall₂_same.2 fun l _ => .same l

/-- Where the first faults agree, all that is printed is the same. -/
theorem lines_eq {lines lines' : List Line} (h : List.Forall₂ (Line.Alike Q) lines lines')
    (hQ : ∀ f f', Q f f' → f = f') : lines = lines' := by
  induction h with
  | nil => rfl
  | cons hl _ ih =>
    cases hl with
    | same => rw [ih]
    | fault hf => rw [hQ _ _ hf, ih]

theorem Outcome.Alike.refl (o : Outcome) : Outcome.Alike Q o o := ⟨lines_refl _, rfl⟩

theorem Outcome.Alike.failure {r r' : Report} (h : Report.Alike Q r r') :
    Outcome.Alike Q (.failure r) (.failure r') := by
  cases h with
  | same => exact .refl _
  | @unreadable f f' hf =>
    refine ⟨?_, rfl⟩
    simp only [Outcome.failure, report_unreadable]
    exact .cons (.same _) (.cons (.same _) (.cons (.same _) (.cons (.fault hf) .nil)))

/-! ## Worlds that are alike -/

variable (P : Secret → Secret → Prop) (Q : Text.Utf8.Fault → Text.Utf8.Fault → Prop)
  (R : σ → τ → Prop)

/-- Worlds that give passwords which `P` relates, give and open archives alike, answer alike what
they are asked, and agree in everything else that a command needs that gets a token. -/
structure World.Alike (w : World (StateM σ)) (w' : World (StateM τ)) : Prop where
  password : ∀ {p p' : Secret}, P p p' → p.Alike p'
  platform : w.platform = w'.platform
  now : Respects R (· = ·) w.now w'.now
  stamps : Respects R (· = ·) w.stamps w'.stamps
  print : ∀ {lines lines' : List Line}, List.Forall₂ (Line.Alike Q) lines lines' →
    Respects R (· = ·) (w.print lines) (w'.print lines')
  piped : Respects R (Prompt.Alike P Q) w.piped w'.piped
  typed : ∀ label, Respects R (ExceptAlike P) (w.typed label) (w'.typed label)
  file : ∀ path, Respects R
    (ExceptAlike fun d d' => ∀ p p', P p p' →
      ClientCertificate.Alike w.platform ⟨⟨d⟩, p⟩ ⟨⟨d'⟩, p'⟩)
    (w.file path) (w'.file path)
  certificates : ∀ folder {c c' : Credential}, c.Alike w.platform c' →
    Respects R (· = ·) (w.certificates folder c) (w'.certificates folder c')
  ask : ∀ options {r r' : TokenService.Request}, r.Alike r' →
    Respects R TokenService.Reply.Alike (w.ask options r) (w'.ask options r')

variable {P Q R} {w : World (StateM σ)} {w' : World (StateM τ)}

/-! ## Credentials -/

/-- A report ends the program. -/
theorem reported_alike {α β : Type} {S : α → β → Prop} {x : ExceptT Report (StateM σ) α}
    {y : ExceptT Report (StateM τ) β} (h : Respects R (EndsAlike (Report.Alike Q) S) x.run y.run) :
    Respects R (EndsAlike (Outcome.Alike Q) S) (reported x).run (reported y).run := by
  refine h.map fun a b hab => ?_
  cases hab with
  | error hr => exact .error (.failure hr)
  | ok hab => exact .ok hab

/-! ## Tokens -/

/-- Sessions that are alike, with what their refreshes need. -/
inductive Entered.Alike (platform : TokenService.Platform) : Entered → Entered → Prop where
  | mk (address : Address) (service : TokenService.Options) {s s' : Session} :
    s.Alike platform s' → Alike platform ⟨address, service, s⟩ ⟨address, service, s'⟩

/-- What is printed of a token that is not shown. -/
theorem tokenOutcome_eq {platform : TokenService.Platform} (c : TokenCommand)
    (hshow : c.showToken = false) {e e' : Entered} (he : e.Alike platform e') (stamps : Stamps)
    (now : Instant) :
    tokenOutcome c e stamps now = tokenOutcome c e' stamps now := by
  obtain @⟨address, service, s, s', hs⟩ := he
  have htoken := hs.accessToken
  have hseconds := hs.secondsLeft now
  simp only [tokenOutcome, heldToken, hshow, ← hseconds]
  generalize s.accessToken = x at htoken ⊢
  generalize s'.accessToken = y at htoken ⊢
  cases htoken with
  | none => rfl
  | some ht => rfl

/-! ## Parts of the program that end alike -/

variable (hw : World.Alike P Q R w w')
include hw

theorem passwordFor_alike (c : Connection) (wanted : Connection.Wanted) :
    Respects R (EndsAlike (Report.Alike Q) P) (passwordFor w c wanted)
      (passwordFor w' c wanted) := by
  rw [passwordFor, passwordFor]
  by_cases hread : c.readPassword = true
  · rw [if_pos hread, if_pos hread]
    refine hw.piped.bind fun i i' hi => .pure ?_
    have hends := Prompt.ofPipe_alike hi
    generalize Prompt.ofPipe i = x at hends ⊢
    generalize Prompt.ofPipe i' = y at hends ⊢
    cases hends with
    | ok hp => exact .ok hp
    | error hf =>
      cases hf with
      | same f => exact .error (.same _)
      | notText hf => exact .error (.unreadable hf)
  · rw [if_neg hread, if_neg hread]
    exact (hw.typed wanted.label).mono fun x y hxy => .of_exceptAlike .same hxy

theorem completed_alike (wanted : Connection.Wanted) {p p' : Secret} (hp : P p p') :
    Respects R (EndsAlike (Report.Alike Q) (Credential.Alike w.platform)) (completed w wanted p)
      (completed w' wanted p') := by
  cases wanted with
  | user name =>
    refine .pure (.of_exceptAlike .same ?_)
    exact (Credential.password_alike name (hw.password hp)).mapError _
  | certificate path =>
    refine (hw.file path).bind fun x y hxy => .pure (.of_exceptAlike .same ?_)
    have hcertificate : ExceptAlike
        (fun d d' => ClientCertificate.Alike w.platform ⟨⟨d⟩, p⟩ ⟨⟨d'⟩, p'⟩) x y := by
      cases hxy with
      | error f => exact .error f
      | ok hdata => exact .ok (hdata p p' hp)
    exact (Credential.certificateFile_alike path hcertificate).mapError _

theorem credentialOf_alike (c : Connection) :
    Respects R (EndsAlike (Report.Alike Q) (Credential.Alike w.platform)) (credentialOf w c).run
      (credentialOf w' c).run := by
  simp only [credentialOf]
  refine Respects.andThen (Q := (· = ·)) (.pure (.of_exceptAlike .same (.of_eq rfl))) ?_
  rintro x - rfl
  cases x with
  | inl credential => exact .pure (.ok (.refl credential))
  | inr wanted =>
    refine Respects.andThen (passwordFor_alike hw c wanted) fun p p' hp => ?_
    refine Respects.andThen (completed_alike hw wanted hp) fun x y hxy => ?_
    refine .pure (.ok ?_)
    simp only [Connection.withProvider]
    split
    · exact hxy.withProvider _
    · exact hxy

/-! ## Connecting -/

theorem converse_alike {α β : Type} {S : α → β → Prop} (options : TokenService.Options)
    {d : Dialogue TokenService.Request TokenService.Reply α}
    {d' : Dialogue TokenService.Request TokenService.Reply β}
    (hd : TokenService.Conversation.Alike S d d') :
    Respects R S (w.converse options d) (w'.converse options d') := by
  induction hd with
  | done hab => exact .pure hab
  | ask hq _ ih => exact (hw.ask options hq).bind fun r r' hr => ih r r' hr

/-- A refresh ends in the same way and leaves alike sessions. -/
theorem refresh_alike {e e' : Entered} (he : e.Alike w.platform e') :
    Respects R (fun x y => x.1.Alike w.platform y.1 ∧ x.2 = y.2) (e.refresh w)
      (e'.refresh w') := by
  obtain @⟨address, service, s, s', hs⟩ := he
  rw [Entered.refresh, Entered.refresh, ← hw.platform]
  exact (converse_alike hw service (hs.refresh address service)).bind
    fun x y hxy => .pure ⟨.mk address service hxy.1, hxy.2⟩

theorem renewed_alike (context : String) {e e' : Entered} (he : e.Alike w.platform e') :
    Respects R (EndsAlike (Outcome.Alike Q) (Entered.Alike w.platform)) (e.renewed w context).run
      (e'.renewed w' context).run := by
  refine (refresh_alike hw he).bind ?_
  rintro ⟨x, r⟩ ⟨y, r'⟩ ⟨hxy, heq⟩
  obtain rfl : r = r' := heq
  cases r with
  | ok u => exact .pure (.ok hxy)
  | error f => exact .pure (.error (.refl _))

/-- **The sessions of a connection are alike.** -/
theorem connect_alike (c : Connection) :
    Respects R (EndsAlike (Outcome.Alike Q) (Entered.Alike w.platform)) (connect w c).run
      (connect w' c).run := by
  simp only [connect]
  refine Respects.andThen (Q := (· = ·))
    (reported_alike (.pure (.of_exceptAlike .same (.of_eq rfl)))) ?_
  rintro address - rfl
  refine Respects.andThen (reported_alike (credentialOf_alike hw c)) fun x y hxy => ?_
  refine Respects.andThen (Respects.lift (hw.print (lines_refl _))) fun _ _ _ => ?_
  have hrenewed : ∀ store, Respects R (EndsAlike (Outcome.Alike Q) (Entered.Alike w.platform))
      (Entered.renewed w "Failed to authenticate"
        ⟨address, c.serviceOptions store, Session.ofCredential x⟩).run
      (Entered.renewed w' "Failed to authenticate"
        ⟨address, c.serviceOptions store, Session.ofCredential y⟩).run :=
    fun store => renewed_alike hw _ (.mk address _ (.mk none false (.some hxy) .none))
  cases c.certStore with
  | none => exact hrenewed none
  | some folder =>
    have hstore := Respects.lift (E := Outcome.Alike Q) (hw.certificates folder hxy)
    refine Respects.andThen (hstore.mapResult fun _ _ h => congrArg some h) ?_
    rintro store - rfl
    exact hrenewed store

/-! ## Getting a token -/

theorem getToken_alike (c : TokenCommand) (hshow : c.showToken = false) {e e' : Entered}
    (he : e.Alike w.platform e') :
    Respects R (EndsAlike (Outcome.Alike Q) (Outcome.Alike Q)) (getToken w c e).run
      (getToken w' c e').run := by
  have hend : ∀ {e e' : Entered}, e.Alike w.platform e' →
      Respects R (EndsAlike (Outcome.Alike Q) (Outcome.Alike Q))
        (do return tokenOutcome c e (← w.stamps) (← w.now) : Part (StateM σ) Outcome).run
        (do return tokenOutcome c e' (← w'.stamps) (← w'.now) : Part (StateM τ) Outcome).run := by
    intro e e' he
    refine Respects.andThen (Respects.lift hw.stamps) ?_
    rintro stamps - rfl
    refine Respects.andThen (Respects.lift hw.now) ?_
    rintro now - rfl
    rw [tokenOutcome_eq c hshow he]
    exact .pure (.ok (.refl _))
  simp only [getToken]
  by_cases h : c.refresh = true
  · rw [if_pos h, if_pos h]
    exact (renewed_alike hw _ he).andThen fun _ _ he => hend he
  · rw [if_neg h, if_neg h]
    have hsame : Respects R (EndsAlike (Outcome.Alike Q) (Entered.Alike w.platform))
        (pure e : Part (StateM σ) Entered).run (pure e' : Part (StateM τ) Entered).run :=
      .pure (.ok he)
    exact hsame.andThen fun _ _ he => hend he

/-! ## The whole program -/

/-- **A command that gets a token and does not show it** ends alike in worlds that are alike. -/
theorem run_alike (environment : List (String × String)) (arguments : List String)
    (h : ∀ i, Invocation.read environment arguments = .ok i →
      ∃ c, i.command = .token c ∧ c.showToken = false) :
    Respects R (· = ·) (run w environment arguments) (run w' environment arguments) := by
  have hprint : ∀ {o o' : Outcome}, Outcome.Alike Q o o' → Respects R (· = ·)
      (do w.print o.lines; return o.code : StateM σ Nat)
      (do w'.print o'.lines; return o'.code : StateM τ Nat) :=
    fun ho => (hw.print ho.lines).bind fun _ _ _ => .pure ho.code
  simp only [run]
  cases hread : Invocation.read environment arguments with
  | error f => exact hprint (.refl _)
  | ok i =>
    obtain ⟨c, hcommand, hshow⟩ := h i hread
    have hrun : Respects R (EndsAlike (Outcome.Alike Q) (Outcome.Alike Q))
        (runCommand w i.command).run (runCommand w' i.command).run := by
      rw [hcommand]
      exact Respects.andThen (connect_alike hw c.connection)
        fun e e' he => getToken_alike hw c hshow he
    refine hrun.bind fun x y hxy => ?_
    cases hxy with
    | error ho => exact hprint ho
    | ok ho => exact hprint ho

end CommandLine

end Appliance
