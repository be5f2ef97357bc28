import Appliance.Proofs.Listener.Talk

/-!
# When a token is refreshed

The talk of a listener is a row of attempts. Each begins by looking at the session, and what it
asks for then is told by what it has seen and by how the attempt before it failed: it asks for a
new token at most once, and it opens a channel at most once, with the token that the session
holds at that moment.

* `Attempt`, `attempts` — the attempts of a run, the latest first.
* `Attempt.NeedsRefresh` — the token has run out, or was refused in the attempt before.
* `Leads`, `Conduct` — how an attempt goes on, line by line.
* `Attempt.Obeys` — what that means for refreshes and channels.
* `tallies_speaks`, `tallies_spoken` — by the rules of its talk a listener keeps to it.
* `refresh_policy_is_exact` — **a token is refreshed when it has to be, and not otherwise.**
-/

namespace Appliance.Listener

/-! ## Attempts -/

/-- An attempt to open a channel. -/
structure Attempt where
  /-- Whether it is the first of a start, or one of the loop. -/
  first : Bool
  /-- What the session showed when it began. -/
  seen : Glance
  /-- What it has asked for and was answered since, with what the session showed then. -/
  talk : List (Glance × Entry)

/-- All its lines. -/
def Attempt.lines (a : Attempt) : List (Glance × Entry) :=
  (a.seen, .did (.attempt a.first a.seen)) :: a.talk

/-- One line more in an attempt. -/
def Attempt.say (a : Attempt) (x : Glance × Entry) : Attempt := { a with talk := a.talk ++ [x] }

/-- One line more. -/
def note (as : List Attempt) (x : Glance × Entry) : List Attempt :=
  match x.2 with
  | .did (.attempt first seen) => ⟨first, seen, []⟩ :: as
  | e => if e.isSpoken then as.modifyHead (·.say x) else as

/-- Many lines more. -/
def noteAll (as : List Attempt) (lines : List (Glance × Entry)) : List Attempt :=
  lines.foldl note as

/-- The attempts that some lines tell of, the latest first. -/
def attempts (lines : List (Glance × Entry)) : List Attempt := noteAll [] lines

/-- The lines of attempts, in order of time. -/
def linesOf (as : List Attempt) : List (Glance × Entry) := as.reverse.flatMap Attempt.lines

theorem noteAll_append (as : List Attempt) (lines more : List (Glance × Entry)) :
    noteAll as (lines ++ more) = noteAll (noteAll as lines) more := List.foldl_append

/-- Lines that are not about attempts leave no mark. -/
theorem noteAll_talk (as : List Attempt) (lines : List (Glance × Entry)) :
    noteAll as (talk lines) = noteAll as lines := by
  induction lines generalizing as with
  | nil => rfl
  | cons x rest ih =>
    cases hx : x.2.isSpoken with
    | true =>
      have hkept : talk (x :: rest) = x :: talk rest := List.filter_cons_of_pos hx
      rw [hkept]
      exact ih (note as x)
    | false =>
      have hdropped : talk (x :: rest) = talk rest := List.filter_cons_of_neg (by simp [hx])
      have hsame : note as x = as := by
        unfold note
        split
        · rename_i h
          simp [h, Entry.isSpoken, Effect.isQuiet] at hx
        · simp [hx]
      rw [hdropped, ih as]
      show noteAll as rest = noteAll (note as x) rest
      rw [hsame]

/-! ## What is said in an attempt -/

section Said

variable (lines : List (Glance × Entry))

/-- How often a new token is asked for. -/
def refreshes : Nat := lines.countP fun x =>
  match x.2 with
  | .did .refresh => true
  | _ => false

/-- What the session shows when it has got a new token. -/
def renewals : List Glance := lines.filterMap fun x =>
  match x.2 with
  | .heard (.refreshed (.ok _)) => some x.1
  | _ => none

/-- The tokens with which the transport is called. -/
def presented : List Token := lines.filterMap fun x =>
  match x.2 with
  | .did (.openChannel token) => some token
  | _ => none

/-- The faults with which the session or the transport has answered. -/
def faults : List Fault := lines.filterMap fun x => x.2.fault?

theorem refreshes_append (as bs : List (Glance × Entry)) :
    refreshes (as ++ bs) = refreshes as + refreshes bs := List.countP_append

theorem renewals_append (as bs : List (Glance × Entry)) :
    renewals (as ++ bs) = renewals as ++ renewals bs := List.filterMap_append

theorem presented_append (as bs : List (Glance × Entry)) :
    presented (as ++ bs) = presented as ++ presented bs := List.filterMap_append

theorem faults_append (as bs : List (Glance × Entry)) :
    faults (as ++ bs) = faults as ++ faults bs := List.filterMap_append

theorem mem_presented {lines : List (Glance × Entry)} {g : Glance} {token : Token}
    (h : (g, .did (.openChannel token)) ∈ lines) : token ∈ presented lines :=
  List.mem_filterMap.2 ⟨_, h, rfl⟩

end Said

namespace Attempt

/-- Whether it failed because the token was refused. -/
def wasRefused (a : Attempt) : Bool := (faults a.talk).any Fault.isTokenRefused

/-- The token has run out when the attempt begins, or the loop makes it after one in which the
token was refused. -/
def NeedsRefresh (a : Attempt) (before : Option Attempt) : Prop :=
  a.seen.secondsLeft = 0 ∨ a.first = false ∧ before.any wasRefused = true

instance (a : Attempt) (before : Option Attempt) : Decidable (a.NeedsRefresh before) :=
  inferInstanceAs (Decidable (_ ∨ _))

end Attempt

/-- `Policy needs seen lines`: an attempt that began when the session showed `seen`, and needs a
new token or not, has asked in its lines for what it has to. -/
structure Policy (needs : Prop) [Decidable needs] (seen : Glance)
    (lines : List (Glance × Entry)) : Prop where
  /-- It asks for a new token once if it needs one, and never otherwise. -/
  refreshes : refreshes lines = if needs then 1 else 0
  /-- It gets a new token only if it has asked for one. -/
  renewals : (renewals lines).length ≤ Listener.refreshes lines
  /-- It opens a channel exactly with the token that the session holds, either when the attempt
  begins or when it has got the new token that it needs. -/
  presented : presented lines =
    (if needs then Listener.renewals lines else [seen]).filterMap Glance.token
  /-- It does so then, and not before. -/
  order : ∀ earlier g token later, lines = earlier ++ (g, .did (.openChannel token)) :: later →
    g.token = some token ∧
      if needs then (g, .heard (.refreshed (.ok ()))) ∈ earlier else g = seen
  /-- It fails at most once. -/
  faults : (faults lines).length ≤ 1

/-! ## How an attempt goes on -/

/-- `Leads needs seen lines g`: after the lines an attempt may open a channel, with the token
that the session holds while it shows `g`. -/
inductive Leads (needs : Prop) (seen : Glance) : List (Glance × Entry) → Glance → Prop
  | atOnce (hn : ¬ needs) : Leads needs seen [] seen
  | renewed (hn : needs) (g : Glance) :
      Leads needs seen [(seen, .did .refresh), (g, .heard (.refreshed (.ok ())))] g

/-- `Conduct needs seen waits lines`: an attempt that began when the session showed `seen` may
have said the lines, and may wait for `waits`. -/
inductive Conduct (needs : Prop) (seen : Glance) : Option Stage → List (Glance × Entry) → Prop
  | refreshing (hn : needs) : Conduct needs seen (some .refreshing) [(seen, .did .refresh)]
  | unrenewed (hn : needs) (g : Glance) (failure : TokenService.Failure) :
      Conduct needs seen none
        [(seen, .did .refresh), (g, .heard (.refreshed (.error failure)))]
  | tokenless {lead : List (Glance × Entry)} {g : Glance} (h : Leads needs seen lead g)
      (ht : g.token = none) : Conduct needs seen none lead
  | opening {lead : List (Glance × Entry)} {g : Glance} {token : Token}
      (h : Leads needs seen lead g) (ht : g.token = some token) :
      Conduct needs seen (some .opening) (lead ++ [(g, .did (.openChannel token))])
  | answered {lead : List (Glance × Entry)} {g : Glance} {token : Token}
      (h : Leads needs seen lead g) (ht : g.token = some token) (g' : Glance)
      (result : Except Fault Nat) :
      Conduct needs seen none
        (lead ++ [(g, .did (.openChannel token)), (g', .heard (.opened result))])

section Conduct

variable {needs : Prop} [Decidable needs] {seen g : Glance} {lead : List (Glance × Entry)}

omit [Decidable needs] in
/-- What comes before a channel is opened is no failure. -/
theorem Leads.quiet (h : Leads needs seen lead g) : presented lead = [] ∧ faults lead = [] := by
  cases h <;> exact ⟨rfl, rfl⟩

/-- A new token is asked for, and got, before a channel is opened, if one is needed. -/
theorem Leads.asked (h : Leads needs seen lead g) :
    refreshes lead = (if needs then 1 else 0) ∧ (renewals lead).length ≤ refreshes lead ∧
      (if needs then renewals lead else [seen]) = [g] ∧
      if needs then (g, .heard (.refreshed (.ok ()))) ∈ lead else g = seen := by
  cases h with
  | atOnce hn => simp [hn, refreshes, renewals]
  | renewed hn g => simp [hn, refreshes, renewals]

omit [Decidable needs] in
/-- A channel is opened by one line, after the lines that lead to it. -/
theorem Leads.split_opening (h : Leads needs seen lead g) {token token' : Token}
    {rest earlier later : List (Glance × Entry)} {g' : Glance} (hrest : presented rest = [])
    (hsplit : lead ++ (g, .did (.openChannel token)) :: rest =
      earlier ++ (g', .did (.openChannel token')) :: later) :
    earlier = lead ∧ g' = g ∧ token' = token := by
  have hlead := h.quiet.1
  rcases List.append_eq_append_iff.1 hsplit with ⟨between, rfl, hrest'⟩ | ⟨between, rfl, hlead'⟩
  · cases between with
    | nil =>
      obtain ⟨⟨hg, ht⟩, -⟩ : (g = g' ∧ token = token') ∧ rest = later := by simpa using hrest'
      exact ⟨by simp, hg.symm, ht.symm⟩
    | cons x between =>
      obtain ⟨-, hmore⟩ := List.cons.inj hrest'
      have hmem : token' ∈ presented rest := mem_presented (g := g') (by simp [hmore])
      simp [hrest] at hmem
  · cases between with
    | nil =>
      obtain ⟨⟨hg, ht⟩, -⟩ : (g' = g ∧ token' = token) ∧ later = rest := by simpa using hlead'
      exact ⟨by simp, hg, ht⟩
    | cons x between =>
      obtain ⟨rfl, -⟩ := List.cons.inj hlead'
      have hmem : token' ∈ presented (earlier ++ (g', .did (.openChannel token')) :: between) :=
        mem_presented (g := g') (by simp)
      simp [hlead] at hmem

omit [Decidable needs] in
theorem Conduct.of_refreshing {lines : List (Glance × Entry)}
    (h : Conduct needs seen (some .refreshing) lines) :
    needs ∧ lines = [(seen, .did .refresh)] := by
  cases h with
  | refreshing hn => exact ⟨hn, rfl⟩

omit [Decidable needs] in
theorem Conduct.of_opening {lines : List (Glance × Entry)}
    (h : Conduct needs seen (some .opening) lines) :
    ∃ lead g token, Leads needs seen lead g ∧ g.token = some token ∧
      lines = lead ++ [(g, .did (.openChannel token))] := by
  cases h with
  | opening hl ht => exact ⟨_, _, _, hl, ht, rfl⟩

/-- Lines in which no channel is opened. -/
theorem policy_of_unopened {lines : List (Glance × Entry)}
    (hr : refreshes lines = if needs then 1 else 0)
    (hn : (renewals lines).length ≤ refreshes lines) (hp : presented lines = [])
    (ht : (if needs then renewals lines else [seen]).filterMap Glance.token = [])
    (hf : (faults lines).length ≤ 1) : Policy needs seen lines where
  refreshes := hr
  renewals := hn
  presented := hp.trans ht.symm
  order earlier g token later hsplit := by
    have hmem : token ∈ presented lines := mem_presented (g := g) (by simp [hsplit])
    simp [hp] at hmem
  faults := hf

/-- Lines in which a channel is opened, and an answer may follow. -/
theorem Leads.policy (h : Leads needs seen lead g) {token : Token} (ht : g.token = some token)
    {rest : List (Glance × Entry)} (hr : refreshes rest = 0) (hn : renewals rest = [])
    (hp : presented rest = []) (hf : (faults rest).length ≤ 1) :
    Policy needs seen (lead ++ (g, .did (.openChannel token)) :: rest) := by
  obtain ⟨hasked, hgot, htoken, horder⟩ := h.asked
  obtain ⟨hnone, hfine⟩ := h.quiet
  have hcons : refreshes ((g, .did (.openChannel token)) :: rest) = refreshes rest ∧
      renewals ((g, .did (.openChannel token)) :: rest) = renewals rest ∧
      presented ((g, .did (.openChannel token)) :: rest) = token :: presented rest ∧
      faults ((g, .did (.openChannel token)) :: rest) = faults rest := ⟨rfl, rfl, rfl, rfl⟩
  refine ⟨?_, ?_, ?_, ?_, ?_⟩
  · rw [refreshes_append, hcons.1, hr, hasked, Nat.add_zero]
  · rw [refreshes_append, renewals_append, hcons.1, hcons.2.1, hr, hn, List.append_nil]
    exact hgot
  · rw [presented_append, renewals_append, hcons.2.1, hcons.2.2.1, hn, hp, hnone, List.append_nil,
      htoken]
    simp [ht]
  · intro earlier g' token' later hsplit
    obtain ⟨rfl, rfl, rfl⟩ := h.split_opening hp hsplit
    exact ⟨ht, horder⟩
  · rw [faults_append, hcons.2.2.2, hfine]
    exact hf

/-- An attempt that goes on so asks for what it has to. -/
theorem Conduct.policy {waits : Option Stage} {lines : List (Glance × Entry)}
    (h : Conduct needs seen waits lines) : Policy needs seen lines := by
  cases h with
  | refreshing hn =>
    refine policy_of_unopened ?_ (Nat.zero_le _) rfl ?_ (Nat.zero_le _)
    · rw [if_pos hn]
      rfl
    · rw [if_pos hn]
      rfl
  | unrenewed hn g failure =>
    refine policy_of_unopened ?_ (Nat.zero_le _) rfl ?_ ?_
    · rw [if_pos hn]
      rfl
    · rw [if_pos hn]
      rfl
    · cases failure <;> simp [faults, Entry.fault?]
  | tokenless hl ht =>
    obtain ⟨hasked, hgot, htoken, -⟩ := hl.asked
    obtain ⟨hnone, hfine⟩ := hl.quiet
    exact policy_of_unopened hasked hgot hnone (by simp [htoken, ht]) (by simp [hfine])
  | opening hl ht => exact hl.policy ht rfl rfl rfl (Nat.zero_le _)
  | answered hl ht g' result =>
    refine hl.policy ht rfl rfl rfl ?_
    cases result <;> simp [faults, Entry.fault?]

end Conduct

/-! ## The invariant -/

/-- `Proper as`: all attempts, the latest first, have gone on as they have to. One of the loop
comes after another one. -/
def Proper : List Attempt → Prop
  | [] => True
  | a :: earlier => (a.first = false → earlier ≠ []) ∧ Proper earlier ∧
      ∃ waits, Conduct (a.NeedsRefresh earlier.head?) a.seen waits a.talk

/-- `Joined a earlier`: the attempt `a` has begun after `earlier`. -/
structure Joined (a : Attempt) (earlier : List Attempt) : Prop where
  follows : a.first = false → earlier ≠ []
  proper : Proper earlier

theorem Joined.proper_cons {a : Attempt} {earlier : List Attempt} (h : Joined a earlier)
    {waits : Option Stage} (hc : Conduct (a.NeedsRefresh earlier.head?) a.seen waits a.talk) :
    Proper (a :: earlier) := ⟨h.follows, h.proper, waits, hc⟩

/-- `Tallies p as`: where the attempts of a listener stand is told by their lines. -/
def Tallies : Progress → List Attempt → Prop
  | .rests none, as => Proper as
  | .rests (some memory), as => Proper as ∧ ∃ a ∈ as.head?, memory = a.wasRefused
  | .waits stage, as => ∃ a earlier, as = a :: earlier ∧ Joined a earlier ∧
      Conduct (a.NeedsRefresh earlier.head?) a.seen (some stage) a.talk

theorem Tallies.proper {p : Progress} {as : List Attempt} (h : Tallies p as) : Proper as := by
  cases p with
  | rests memory =>
    cases memory with
    | none => exact h
    | some memory => exact h.1
  | waits stage =>
    obtain ⟨a, earlier, rfl, hj, hc⟩ := h
    exact hj.proper_cons hc

section Attempt

variable {a : Attempt} {earlier : List Attempt} {g : Glance}

/-- `a.MayAdvance earlier g adv`: the attempt `a` after `earlier` may go on by `adv` while the
session shows `g`. -/
def Attempt.MayAdvance (a : Attempt) (earlier : List Attempt) (g : Glance) : Advance → Prop
  | .asks .refresh => a.talk = [] ∧ a.seen = g ∧ a.NeedsRefresh earlier.head?
  | .asks (.openChannel token) =>
    Leads (a.NeedsRefresh earlier.head?) a.seen a.talk g ∧ g.token = some token
  | .fails f => (∃ waits, Conduct (a.NeedsRefresh earlier.head?) a.seen waits a.talk) ∧
      (f.isFatal = true ∨ faults a.talk = [f])

/-- An attempt that may open a channel does so, or fails for good without a token. -/
theorem mayAdvance_openWith (h : Leads (a.NeedsRefresh earlier.head?) a.seen a.talk g) :
    a.MayAdvance earlier g (openWith g) := by
  unfold openWith
  split
  · rename_i token ht
    exact ⟨h, ht⟩
  · rename_i ht
    exact ⟨⟨none, .tokenless h ht⟩, .inl rfl⟩

/-- An attempt that has just begun asks for a new token if it needs one. -/
theorem mayAdvance_beginAttempt {first refreshFirst : Bool}
    (hr : refreshFirst = true ↔ first = false ∧ earlier.head?.any Attempt.wasRefused = true) :
    (⟨first, g, []⟩ : Attempt).MayAdvance earlier g (beginAttempt g refreshFirst) := by
  have hneeds : (⟨first, g, []⟩ : Attempt).NeedsRefresh earlier.head? ↔
      (refreshFirst || g.secondsLeft = 0) = true := by
    simp only [Attempt.NeedsRefresh, Bool.or_eq_true, decide_eq_true_eq, hr]
    exact or_comm
  unfold beginAttempt
  split
  · rename_i h
    exact ⟨rfl, rfl, hneeds.2 h⟩
  · rename_i h
    exact mayAdvance_openWith (.atOnce fun hn => h (hneeds.1 hn))

theorem mayAdvance_fails {f : Fault} {waits : Option Stage}
    (hc : Conduct (a.NeedsRefresh earlier.head?) a.seen waits a.talk) (hf : faults a.talk = [f]) :
    a.MayAdvance earlier g (.fails f) := ⟨⟨waits, hc⟩, .inr hf⟩

/-- However an attempt goes on, its lines tell where it stands. -/
theorem tallies_advances {adv : Advance} {lines : List (Glance × Entry)} {p : Progress}
    (hj : Joined a earlier) (hb : a.MayAdvance earlier g adv) (h : Advances g adv lines p) :
    Tallies p (noteAll (a :: earlier) lines) := by
  cases h with
  | asks ask =>
    cases ask with
    | refresh =>
      obtain ⟨htalk, hseen, hneeds⟩ := hb
      refine ⟨a.say (g, .did .refresh), earlier, rfl, ⟨hj.1, hj.2⟩, ?_⟩
      simp only [Attempt.say, htalk, ← hseen]
      exact .refreshing hneeds
    | openChannel token =>
      obtain ⟨hleads, htoken⟩ := hb
      exact ⟨a.say (g, .did (.openChannel token)), earlier, rfl, ⟨hj.1, hj.2⟩,
        .opening hleads htoken⟩
  | fails f =>
    obtain ⟨⟨waits, hc⟩, hf⟩ := hb
    have hproper := hj.proper_cons hc
    split
    · exact hproper
    · rename_i hfatal
      refine ⟨hproper, a, rfl, ?_⟩
      rw [Attempt.wasRefused, hf.resolve_left hfatal]
      simp

/-- Whatever answer an attempt gets, its lines tell where it stands. -/
theorem tallies_takes {stage : Stage} {i : Input} {turn : Turn} {lines : List (Glance × Entry)}
    {p : Progress} (hj : Joined a earlier)
    (hc : Conduct (a.NeedsRefresh earlier.head?) a.seen (some stage) a.talk)
    (ht : turn? g stage i = some turn) (h : Takes g turn lines p) :
    Tallies p (noteAll (a :: earlier) ((g, .heard i) :: lines)) := by
  let b : Attempt := a.say (g, .heard i)
  have hjoined : Joined b earlier := ⟨hj.follows, hj.proper⟩
  show Tallies p (noteAll (b :: earlier) lines)
  rcases turn?_cases ht with ⟨rfl, rfl, rfl⟩ | ⟨rfl, f, rfl, rfl⟩ | ⟨rfl, rfl, rfl⟩ |
    ⟨rfl, channel, rfl, rfl⟩ | ⟨rfl, f, rfl, rfl⟩
  · -- a new token was got
    obtain ⟨hneeds, htalk⟩ := hc.of_refreshing
    obtain ⟨hadvances⟩ := h
    have hleads : Leads (b.NeedsRefresh earlier.head?) b.seen b.talk g := by
      simp only [b, Attempt.say, htalk]
      exact .renewed hneeds g
    exact tallies_advances hjoined (mayAdvance_openWith hleads) hadvances
  · -- none was got
    obtain ⟨hneeds, htalk⟩ := hc.of_refreshing
    obtain ⟨hadvances⟩ := h
    have hconduct : Conduct (b.NeedsRefresh earlier.head?) b.seen none b.talk := by
      simp only [b, Attempt.say, htalk]
      exact .unrenewed hneeds g _
    have hfaults : faults b.talk = [f] := by
      simp only [b, Attempt.say, htalk]
      rfl
    exact tallies_advances hjoined (mayAdvance_fails hconduct hfaults) hadvances
  · -- the session broke off
    obtain ⟨hneeds, htalk⟩ := hc.of_refreshing
    cases h
    have hconduct : Conduct (b.NeedsRefresh earlier.head?) b.seen none b.talk := by
      simp only [b, Attempt.say, htalk]
      exact .unrenewed hneeds g _
    exact hjoined.proper_cons hconduct
  · -- a channel has opened
    obtain ⟨lead, g', token, hleads, htoken, htalk⟩ := hc.of_opening
    cases h
    have hconduct : Conduct (b.NeedsRefresh earlier.head?) b.seen none b.talk := by
      simp only [b, Attempt.say, htalk, List.append_assoc]
      exact .answered hleads htoken g _
    refine ⟨hjoined.proper_cons hconduct, b, rfl, ?_⟩
    simp only [Attempt.wasRefused, b, Attempt.say, htalk, faults_append, hleads.quiet.2]
    rfl
  · -- none has opened
    obtain ⟨lead, g', token, hleads, htoken, htalk⟩ := hc.of_opening
    obtain ⟨hadvances⟩ := h
    have hconduct : Conduct (b.NeedsRefresh earlier.head?) b.seen none b.talk := by
      simp only [b, Attempt.say, htalk, List.append_assoc]
      exact .answered hleads htoken g _
    have hfaults : faults b.talk = [f] := by
      simp only [b, Attempt.say, htalk, faults_append, hleads.quiet.2]
      rfl
    exact tallies_advances hjoined (mayAdvance_fails hconduct hfaults) hadvances

end Attempt

/-- Whatever a listener says by the rules of its talk, the lines tell where it stands. -/
theorem tallies_speaks {p p' : Progress} {as : List Attempt} {lines : List (Glance × Entry)}
    (h : Speaks p lines p') (ht : Tallies p as) : Tallies p' (noteAll as lines) := by
  cases h with
  | forgets => exact ht.proper
  | beginsFirst h =>
    exact tallies_advances ⟨by simp, ht⟩ (mayAdvance_beginAttempt (by simp)) h
  | beginsAgain h =>
    obtain ⟨hproper, a, ha, rfl⟩ := ht
    have hne : as ≠ [] := by
      rintro rfl
      cases ha
    exact tallies_advances ⟨fun _ => hne, hproper⟩
      (mayAdvance_beginAttempt (by simp [Option.mem_def.1 ha])) h
  | turns hturn h =>
    obtain ⟨a, earlier, rfl, hj, hc⟩ := ht
    exact tallies_takes hj hc hturn h

/-- What is said in an attempt is among its lines. -/
theorem linesOf_said (a : Attempt) (earlier : List Attempt) {lines : List (Glance × Entry)}
    (h : ∀ x ∈ lines, x.2.isSpoken = true ∧ x.2.isAttempt = false) :
    linesOf (noteAll (a :: earlier) lines) = linesOf (a :: earlier) ++ lines := by
  induction lines generalizing a with
  | nil => exact (List.append_nil _).symm
  | cons x rest ih =>
    obtain ⟨⟨hspoken, hnot⟩, hrest⟩ := List.forall_mem_cons.1 h
    have hnote : note (a :: earlier) x = a.say x :: earlier := by
      unfold note
      split
      · rename_i hx
        simp [hx, Entry.isAttempt] at hnot
      · rw [if_pos hspoken]
        rfl
    show linesOf (noteAll (note (a :: earlier) x) rest) = _
    rw [hnote, ih _ hrest]
    simp [linesOf, Attempt.lines, Attempt.say]

/-- What is asked for is said in an attempt. -/
theorem Advances.said {g : Glance} {adv : Advance} {lines : List (Glance × Entry)} {p : Progress}
    (h : Advances g adv lines p) : ∀ x ∈ lines, x.2.isSpoken = true ∧ x.2.isAttempt = false := by
  cases h with
  | asks ask => cases ask <;> simp [Ask.effect, Entry.isSpoken, Effect.isQuiet, Entry.isAttempt]
  | fails f => simp

theorem Takes.said {g : Glance} {turn : Turn} {lines : List (Glance × Entry)} {p : Progress}
    (h : Takes g turn lines p) : ∀ x ∈ lines, x.2.isSpoken = true ∧ x.2.isAttempt = false := by
  cases h with
  | advances h => exact h.said
  | opens | breaks => simp

/-- What is said by the rules is said in attempts. -/
theorem linesOf_speaks {p p' : Progress} {as : List Attempt} {lines : List (Glance × Entry)}
    (h : Speaks p lines p') (ht : Tallies p as) :
    linesOf (noteAll as lines) = linesOf as ++ lines := by
  cases h with
  | forgets => exact (List.append_nil _).symm
  | beginsFirst h | beginsAgain h =>
    refine (linesOf_said _ as h.said).trans ?_
    simp [linesOf, Attempt.lines]
  | turns hturn h =>
    obtain ⟨a, earlier, rfl, -, -⟩ := ht
    refine linesOf_said a earlier ?_
    simpa [Entry.isSpoken, Entry.isAttempt] using h.said

theorem tallies_spoken {p p' : Progress} {as : List Attempt} {lines : List (Glance × Entry)}
    (h : Spoken p lines p') (ht : Tallies p as) :
    Tallies p' (noteAll as lines) ∧ linesOf (noteAll as lines) = linesOf as ++ lines := by
  induction h generalizing as with
  | nil p => exact ⟨ht, (List.append_nil _).symm⟩
  | cons h rest ih =>
    obtain ⟨htallies, hlines⟩ := ih (tallies_speaks h ht)
    rw [noteAll_append]
    exact ⟨htallies, by rw [hlines, linesOf_speaks h ht, List.append_assoc]⟩

/-! ## The policy -/

theorem Proper.of_append {later : List Attempt} {a : Attempt} {earlier : List Attempt}
    (h : Proper (later ++ a :: earlier)) : Proper (a :: earlier) := by
  induction later with
  | nil => exact h
  | cons b later ih => exact ih h.2.1

/-- Of an attempt that needs no new token none is asked for. -/
theorem Policy.unasked {needs : Prop} [Decidable needs] {seen : Glance}
    {lines : List (Glance × Entry)} (h : Policy needs seen lines) (hn : ¬ needs) (g : Glance) :
    (g, .did .refresh) ∉ lines := by
  intro hmem
  have hpos : 0 < Listener.refreshes lines := List.countP_pos_iff.2 ⟨_, hmem, rfl⟩
  rw [h.refreshes, if_neg hn] at hpos
  exact absurd hpos (Nat.lt_irrefl 0)

/-- **A token is refreshed when it has to be, and not otherwise.**  In every run all talk of a
listener with its session and its transport is that of its attempts, and one of the loop comes
after another of the same start. An attempt asks the session for a new token once if it begins
without a second left, or is made by the loop after one in which the token was refused, and never
otherwise. It opens a channel exactly if it needed no new token, or got the one that it asked
for, and the session then holds a token, and with that token. So nothing but a refusal makes an
attempt ask for a new token while there is time left: no other fault of the attempt before, and
no end of a channel. -/
theorem refresh_policy_is_exact (backoff : Backoff) (ownsSession : Bool)
    (inputs : List (Glance × Input)) :
    let lines := (fresh backoff ownsSession).trail inputs
    talk lines = linesOf (attempts lines) ∧
    ∀ later a earlier, attempts lines = later ++ a :: earlier →
      (a.first = false → earlier ≠ []) ∧
      Policy (a.NeedsRefresh earlier.head?) a.seen a.talk ∧
      (a.seen.secondsLeft ≠ 0 →
        (∀ before ∈ earlier.head?, ∀ f ∈ faults before.talk, f.isTokenRefused = false) →
        ∀ g, (g, .did .refresh) ∉ a.talk) := by
  intro lines
  have hspoken := spoken_run (coherent_fresh backoff ownsSession) inputs
  have hnone : Tallies (fresh backoff ownsSession).progress [] := trivial
  obtain ⟨htallies, hlines⟩ := tallies_spoken hspoken hnone
  rw [noteAll_talk] at htallies hlines
  refine ⟨hlines.symm, fun later a earlier hsplit => ?_⟩
  have hproper : Proper (later ++ a :: earlier) := by
    rw [← hsplit]
    exact htallies.proper
  obtain ⟨hfollows, -, waits, hconduct⟩ := hproper.of_append
  have hpolicy := hconduct.policy
  refine ⟨hfollows, hpolicy, fun hleft hfaults => hpolicy.unasked ?_⟩
  rintro (hnone | ⟨-, hrefused⟩)
  · exact hleft hnone
  · cases hbefore : earlier.head? with
    | none => simp [hbefore] at hrefused
    | some before =>
      obtain ⟨f, hf, hrefused⟩ := List.any_eq_true.1 (show before.wasRefused = true by
        simpa [hbefore] using hrefused)
      simp [hfaults before hbefore f hf] at hrefused

/-- After a refusal the loop gets a new token, once, and opens a channel with it. -/
theorem refused_token_is_refreshed :
    let f : Fault := .auth (.tokenRefused 401)
    let seen : Glance := ⟨3600, some ⟨"t", 0⟩⟩
    let renewed : Glance := ⟨3600, some ⟨"u", 0⟩⟩
    let inputs := [(seen, .call 0 .start), (seen, .opened (.error f)), (seen, .elapsed),
      (seen, .proceed), (renewed, .refreshed (.ok ()))]
    ∃ again first, attempts ((fresh Backoff.standard false).trail inputs) = [again, first] ∧
      again.NeedsRefresh (some first) ∧ refreshes again.talk = 1 ∧
      presented again.talk = [⟨"u", 0⟩] ∧ refreshes first.talk = 0 := by
  intro f seen renewed inputs
  let first : Attempt := ⟨true, seen,
    [(seen, .did (.openChannel ⟨"t", 0⟩)), (seen, .heard (.opened (.error f)))]⟩
  let again : Attempt := ⟨false, seen, [(seen, .did .refresh),
    (renewed, .heard (.refreshed (.ok ()))), (renewed, .did (.openChannel ⟨"u", 0⟩))]⟩
  have hrun : attempts ((fresh Backoff.standard false).trail inputs) = [again, first] := by cbv
  have hneeds : again.NeedsRefresh (some first) := .inr ⟨rfl, rfl⟩
  have hno : ¬ first.NeedsRefresh none := by
    rintro (hleft | ⟨hfirst, -⟩)
    · exact absurd hleft (Nat.succ_ne_zero _)
    · cases hfirst
  obtain ⟨-, hall⟩ := refresh_policy_is_exact Backoff.standard false inputs
  obtain ⟨-, hagain, -⟩ := hall [] again [first] hrun
  obtain ⟨-, hfirst, -⟩ := hall [again] first [] hrun
  refine ⟨again, first, hrun, hneeds, hagain.refreshes.trans (if_pos hneeds),
    hagain.presented.trans (congrArg _ (if_pos hneeds)), hfirst.refreshes.trans (if_neg hno)⟩

end Appliance.Listener
