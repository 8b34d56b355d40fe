import InitPad.Interleave.Trace
import InitPad.Supervisor.Server

/-!
# InitPad.Supervisor.Requests

The HTTP server of the Supervisor with the authentication of its requests. Receiving the body of a
request is a statement beside those of the machine; it answers with the time at which the request
is authenticated. The digest, the HMAC (in lower case hexadecimal digits) and the parser of the
body are parameters of the server.
-/

namespace InitPad.Supervisor

open Interleave Interleave.Prog

/-! ## Authentication -/

/-- What the handler reads of a request; `path` is `url.pathname`. -/
structure HttpRequest where
  method : String
  path : String
  timestamp : Option String
  requestId : Option String
  signature : Option String
  body : List UInt8
  deriving DecidableEq

structure ServerConfig where
  secret : String
  bodyDigest : List UInt8 → String
  hmac : String → String → String
  parseRelease : List UInt8 → Except String SignedPlatformRelease

def isHexDigit (c : Char) : Bool := isLowerHexDigit c || ('A' ≤ c && c ≤ 'F')

/-- The regular expression of a version 4 UUID, in any case. -/
def isUuid (text : String) : Bool :=
  match text.toList.splitOn '-' with
  | [a, b, c, d, e] =>
    [a, b, c, d, e].all (·.all isHexDigit) &&
      [a.length, b.length, c.length, d.length, e.length] == [8, 4, 4, 4, 12] &&
      c.head? == some '4' && d.head?.any fun x => "89abAB".toList.contains x
  | _ => false

/-- `/^[a-f0-9]{64}$/` -/
def isSignature (text : String) : Bool :=
  text.toList.length == 64 && text.toList.all isLowerHexDigit

/-- `/^\d{10,13}$/` -/
def isTimestamp (text : String) : Bool :=
  10 ≤ text.toList.length && text.toList.length ≤ 13 && text.toList.all Char.isDigit

def decimalValue (text : String) : ℕ :=
  text.toList.foldl (fun n c => 10 * n + (c.toNat - '0'.toNat)) 0

/-- A timestamp of ten digits counts seconds. -/
def timestampMilliseconds (text : String) : ℕ :=
  if text.toList.length = 10 then decimalValue text * 1000 else decimalValue text

/-- The parts of the signed text, a line each. -/
def signedLines (method path timestamp requestId digest : String) : List (List Char) :=
  ["v2".toList, method.toList, path.toList, timestamp.toList, requestId.toList, digest.toList]

def signedText (method path timestamp requestId digest : String) : String :=
  String.ofList (['\n'].intercalate (signedLines method path timestamp requestId digest))

def OneLine (text : String) : Prop := '\n' ∉ text.toList

theorem line_injective {a b s s' : List Char} (ha : '\n' ∉ a) (hb : '\n' ∉ b)
    (h : a ++ '\n' :: s = b ++ '\n' :: s') : a = b ∧ s = s' := by
  induction a generalizing b with
  | nil =>
    cases b with
    | nil => exact ⟨rfl, (List.cons.inj h).2⟩
    | cons y b => exact absurd (List.mem_cons.mpr (.inl (List.cons.inj h).1)) hb
  | cons x a ih =>
    cases b with
    | nil => exact absurd (List.mem_cons.mpr (.inl (List.cons.inj h).1.symm)) ha
    | cons y b =>
      obtain ⟨rfl, hrest⟩ := List.cons.inj h
      obtain ⟨rfl, hs⟩ := ih (fun hmem => ha (.tail _ hmem)) (fun hmem => hb (.tail _ hmem)) hrest
      exact ⟨rfl, hs⟩

theorem signedText_injective {method path timestamp requestId digest method' path' timestamp'
    requestId' digest' : String} (hmethod : OneLine method) (hpath : OneLine path)
    (htimestamp : OneLine timestamp) (hrequestId : OneLine requestId) (hmethod' : OneLine method')
    (hpath' : OneLine path') (htimestamp' : OneLine timestamp') (hrequestId' : OneLine requestId')
    (h : signedText method path timestamp requestId digest =
      signedText method' path' timestamp' requestId' digest') :
    method = method' ∧ path = path' ∧ timestamp = timestamp' ∧ requestId = requestId' ∧
      digest = digest' := by
  have htext := String.ofList_injective h
  simp only [signedLines, List.intercalate, List.intersperse, List.flatten_cons, List.flatten_nil,
    List.append_nil, List.singleton_append] at htext
  have hlines := List.append_cancel_left htext
  obtain ⟨hm, hlines⟩ := line_injective hmethod hmethod' (List.cons.inj hlines).2
  obtain ⟨hp, hlines⟩ := line_injective hpath hpath' hlines
  obtain ⟨ht, hlines⟩ := line_injective htimestamp htimestamp' hlines
  obtain ⟨hr, hd⟩ := line_injective hrequestId hrequestId' hlines
  exact ⟨String.toList_injective hm, String.toList_injective hp, String.toList_injective ht,
    String.toList_injective hr, String.toList_injective hd⟩

theorem oneLine_of_isTimestamp {text : String} (h : isTimestamp text = true) : OneLine text := by
  intro hline
  simp only [isTimestamp, Bool.and_eq_true, List.all_eq_true] at h
  exact absurd (h.2 _ hline) (by decide)

theorem oneLine_of_isUuid {text : String} (h : isUuid text = true) : OneLine text := by
  intro hline
  have htext := (List.intercalate_splitOn '-' : ['-'].intercalate (text.toList.splitOn '-') = text.toList)
  unfold isUuid at h
  split at h
  · rename_i a b c d e hparts
    simp only [Bool.and_eq_true, List.all_cons, List.all_nil, List.all_eq_true] at h
    obtain ⟨⟨⟨⟨ha, hb, hc, hd, he, -⟩, -⟩, -⟩, -⟩ := h
    have hno : ∀ {part : List Char}, (∀ x ∈ part, isHexDigit x = true) → '\n' ∉ part :=
      fun hpart hmem => absurd (hpart _ hmem) (by decide)
    rw [hparts] at htext
    rw [← htext] at hline
    simp [List.intercalate, List.intersperse, hno ha, hno hb, hno hc, hno hd, hno he] at hline
  · cases h

variable (config : ServerConfig)

def signRequest (method path timestamp requestId : String) (body : List UInt8) : String :=
  config.hmac config.secret (signedText method path timestamp requestId (config.bodyDigest body))

def requireThat (condition : Bool) (message : String) : Except String Unit :=
  if condition then .ok () else .error message

def authenticateRequest (request : HttpRequest) (now : ℕ) : Except String Unit := do
  requireThat (32 ≤ config.secret.toList.length) "Supervisor shared secret is not configured safely"
  let timestamp := request.timestamp.getD ""
  requireThat (isTimestamp timestamp) "Supervisor request timestamp is invalid"
  let milliseconds := timestampMilliseconds timestamp
  requireThat (milliseconds ≤ 9007199254740991 && ((now : ℤ) - milliseconds).natAbs ≤ 60000)
    "Supervisor request timestamp is outside the allowed window"
  let requestId := request.requestId.getD ""
  requireThat (isUuid requestId) "Supervisor request id is invalid"
  let signature := request.signature.getD ""
  requireThat (isSignature signature) "Supervisor request signature is invalid"
  requireThat
    (signRequest config request.method request.path timestamp requestId request.body == signature)
    "Supervisor request signature is invalid"

inductive ServerStmt : Type → Type 1 where
  | receive (request : HttpRequest) : ServerStmt ℕ
  | machine {β : Type} (e : Stmt β) : ServerStmt β

structure ServerInput where
  now : ℕ := 0
  machine : MachineInput := {}

instance : Semantics ServerStmt ServerInput Machine String where
  exec e i w := match e with
    | .receive _ =>
      match i.machine.fault with
      | some message => (.error message, w)
      | none => (.ok i.now, w)
    | .machine e => exec e i.machine w

abbrev Serving (α : Type) : Type 1 := Prog ServerStmt String α
abbrev ServerEvent := Event ServerStmt ServerInput String
abbrev ServerHistory := List ServerEvent
abbrev ServerStep := Transition ServerStmt ServerInput Machine String
abbrev ServerMoment := Moment ServerStmt ServerInput Machine String

def onMachine {α : Type} (p : Updating α) : Serving α := p.translate .machine

inductive ServerReply where
  | ok
  | state (state : SupervisorState)
  | update (response : Response)
  deriving DecidableEq

variable (env : Installation)

/-- The part of `handle` behind the choice of the path. -/
def handleAuthenticated (request : HttpRequest) : Serving ServerReply := do
  let now ← await (.receive request)
  lift (authenticateRequest config request now)
  if request.method = "GET" ∧ request.path = "/v1/status" then
    let state ← onMachine (loadState env)
    pure (.state state)
  else if request.method ≠ "POST" ∨ request.path ≠ "/v1/update" then
    pure (.update ⟨405, .error "Method not allowed"⟩)
  else
    let response ← onMachine
      (handleRequest env ⟨request.requestId.getD "", config.parseRelease request.body⟩)
    pure (.update response)

def handle (request : HttpRequest) : Serving ServerReply :=
  if request.method = "GET" ∧ request.path = "/health" then pure .ok
  else if request.path ≠ "/v1/status" ∧ request.path ≠ "/v1/update" then
    pure (.update ⟨404, .error "Not found"⟩)
  else
    tryCatch (handleAuthenticated config env request) fun error =>
      pure (.update (errorResponse error))

end InitPad.Supervisor
