import Kuber.Event.Worker
import Kuber.Event.Wire
import Kuber.Library.Trimming
import Kuber.Rules.JsonText
import Kuber.Rules.SortedKeys

/-!
# The failure reasoner

An explanation of a failed verification by a language model, or by a text of
its own when there is no model or no answer.  The server and the decoding of
its answers are parameters; of the outside only the requests that were sent,
with their answers, and the pauses between them are looked at.
-/

namespace Kuber.Agent

open Kuber.Event Kuber.Library Kuber.Rules

/-- What a provider raises: the errors of `urllib` and all others. -/
inductive ProviderError where
  | http (code : Nat) (reason : String)
  | url (reason : String)
  | other (error : PyException)
deriving DecidableEq, Repr

/-- `LLMProvider`, an object of a class with this name. -/
structure LLMProvider (π : Type) where
  className : String
  complete : String → Raising ProviderError π String

/-- The characters that `str.strip` removes. -/
def isSpace (character : Char) : Bool :=
  decide (character.toNat ∈ [9, 10, 11, 12, 13, 28, 29, 30, 31, 32, 133, 160,
    5760, 8192, 8193, 8194, 8195, 8196, 8197, 8198, 8199, 8200, 8201, 8202,
    8232, 8233, 8239, 8287, 12288])

/-- `text.strip()`. -/
def strip (text : String) : String :=
  String.ofList (trim isSpace text.toList)

def geminiApiRoot : String :=
  "https://generativelanguage.googleapis.com/v1beta"

def transientHttpStatuses : List Nat := [429, 500, 502, 503, 504]

def maxRequestAttempts : Nat := 3

/-- `_MODEL_NAME`, matched in full. -/
def isModelName (text : String) : Bool :=
  !text.isEmpty && text.toList.all fun character =>
    character.isAlphanum || character == '.' || character == '_' ||
      character == '-'

/-- A provider that `__post_init__` accepted. -/
structure GeminiProvider where
  apiKey : String
  timeoutSeconds : Int
  model : String
  hasKey : strip apiKey ≠ ""
  positive : 0 < timeoutSeconds
  plainModel : isModelName model = true

structure HttpRequest where
  url : String
  data : List Char
  apiKey : String
  timeout : Int
deriving DecidableEq

/-- What `urlopen`, with the reading of the body, ended in. -/
abbrev HttpAnswer := Except ProviderError (List UInt8)

/-- The server, and the decoding of a body as JSON. -/
structure HttpServer (π : Type) where
  urlopen : HttpRequest → Raising ProviderError π (List UInt8)
  loads : List UInt8 → Except PyException Json

/-- The state of the server, with the exchanges and the half seconds slept. -/
structure Network (π : Type) where
  outside : π
  exchanges : List (HttpRequest × HttpAnswer) := []
  sleeps : List Nat := []

/-- `value.get(name, default)`. -/
def getAttribute (value : Json) (name : String) (default : Json) :
    Except PyException Json :=
  let missing (typeName : String) : Except PyException Json :=
    .error ⟨.other "AttributeError",
      "'" ++ typeName ++ "' object has no attribute 'get'"⟩
  match value with
  | .mapping fields => .ok (Document.fieldD fields name default)
  | .list _ => missing "list"
  | .string _ => missing "str"
  | .null => missing "NoneType"
  | .bool _ => missing "bool"
  | .int _ => missing "int"
  | .float _ => missing "float"

/-- The values that a loop over a value goes through. -/
def iterated : Json → Except PyException (List Json)
  | .list items => .ok items
  | .mapping fields => .ok (fields.map fun field => .string field.1)
  | .string text =>
      .ok (text.toList.map fun character => .string character.toString)
  | .null => .error (typeError "'NoneType' object is not iterable")
  | .bool _ => .error (typeError "'bool' object is not iterable")
  | .int _ => .error (typeError "'int' object is not iterable")
  | .float _ => .error (typeError "'float' object is not iterable")

/-- The text that is kept of a part. -/
def partText? : Json → Option String
  | .string text => if strip text = "" then none else some (strip text)
  | _ => none

/-- The texts of the first candidate that has some. -/
def candidateTexts : List Json → Except PyException (List String)
  | [] => .ok []
  | candidate :: candidates => do
      let content ← getAttribute candidate "content" (.mapping [])
      let parts ← iterated (← getAttribute content "parts" (.list []))
      let texts ← parts.mapM fun part => getAttribute part "text" .null
      match texts.filterMap partText? with
      | [] => candidateTexts candidates
      | found => .ok found

/-- The text of an answer, from its decoded body. -/
def answerText (value : Json) : Except PyException String := do
  let candidates ← iterated (← getAttribute value "candidates" (.list []))
  match ← candidateTexts candidates with
  | [] => .error (.valueError "Gemini response contained no text candidate")
  | parts => .ok ("\n".intercalate parts)

namespace GeminiProvider

variable {π : Type}

/-- `model.removeprefix("models/").strip()`. -/
def normalizedModel (model : String) : String :=
  if "models/".toList <+: model.toList then
    strip (String.ofList (model.toList.drop 7))
  else strip model

/-- The constructor, with the checks of `__post_init__`. -/
def create (apiKey : String) (timeoutSeconds : Int) (model : String) :
    Except PyException GeminiProvider :=
  if hasKey : strip apiKey = "" then
    .error (.valueError "Gemini API key must not be empty")
  else if positive : timeoutSeconds ≤ 0 then
    .error (.valueError "Gemini timeout must be positive")
  else if plainModel : isModelName (normalizedModel model) = true then
    .ok ⟨apiKey, timeoutSeconds, normalizedModel model, hasKey,
      not_le.mp positive, plainModel⟩
  else .error (.valueError "Gemini model must be a plain model name")

def endpoint (provider : GeminiProvider) : String :=
  geminiApiRoot ++ "/models/" ++ provider.model ++ ":generateContent"

def requestBody (prompt : String) : Document :=
  [("contents", .list [.mapping
      [("role", .string "user"),
        ("parts", .list [.mapping [("text", .string prompt)]])]]),
    ("generationConfig", .mapping
      [("temperature", .float "0.2"), ("maxOutputTokens", .int 512)])]

def request (provider : GeminiProvider) (prompt : String) : HttpRequest :=
  ⟨provider.endpoint, (Json.mapping (requestBody prompt)).dumps,
    provider.apiKey, provider.timeoutSeconds⟩

end GeminiProvider

/-- One request, with the answer put down. -/
def HttpServer.send {π : Type} (server : HttpServer π)
    (request : HttpRequest) : Raising ProviderError (Network π) (List UInt8) :=
  fun network =>
    ((server.urlopen request network.outside).1,
      { network with
        outside := (server.urlopen request network.outside).2
        exchanges := network.exchanges ++
          [(request, (server.urlopen request network.outside).1)] })

/-- The error is one of a server that may recover. -/
def ProviderError.isTransient : ProviderError → Bool
  | .http code _ => decide (code ∈ transientHttpStatuses)
  | _ => false

namespace GeminiProvider

variable {π : Type}

/-- The loop over the attempts; it ends without a body when none is left. -/
def attempts (server : HttpServer π) (request : HttpRequest) :
    List Nat → Raising ProviderError (Network π) (Option (List UInt8))
  | [] => pure none
  | attempt :: rest => fun network =>
      match server.send request network with
      | (.ok body, reached) => (.ok (some body), reached)
      | (.error error, reached) =>
          if error.isTransient = false ∨ attempt = maxRequestAttempts - 1 then
            (.error error, reached)
          else attempts server request rest
            { reached with sleeps := reached.sleeps ++ [2 ^ attempt] }

/-- What the body of an answer is read as. -/
def decoded (server : HttpServer π) (body : List UInt8) :
    Except ProviderError String :=
  ((server.loads body).bind answerText).mapError ProviderError.other

/-- `complete`. -/
def complete (provider : GeminiProvider) (server : HttpServer π)
    (prompt : String) : Raising ProviderError (Network π) String := do
  let body ← attempts server (provider.request prompt)
    (List.range maxRequestAttempts)
  match body with
  | none =>
      Raising.raise (.other ⟨.other "RuntimeError",
        "Gemini request completed without a response"⟩)
  | some body => Raising.ofExcept (decoded server body)

/-- The provider as the reasoner takes it. -/
def asProvider (provider : GeminiProvider) (server : HttpServer π) :
    LLMProvider (Network π) :=
  ⟨"GeminiProvider", provider.complete server⟩

end GeminiProvider

theorem strip_strip (text : String) : strip (strip text) = strip text := by
  rw [strip, strip, String.toList_ofList,
    trim_of_trimmed (trimmed_trim isSpace text.toList)]

/-- A text that is neither blank nor has blanks around it. -/
structure Stripped (text : String) : Prop where
  same : strip text = text
  nonempty : text ≠ ""

theorem Stripped.trimmed {text : String} (stripped : Stripped text) :
    Trimmed isSpace text.toList ∧ text.toList ≠ [] := by
  have trimmed := trimmed_trim isSpace text.toList
  have same := congrArg String.toList stripped.same
  rw [strip, String.toList_ofList] at same
  rw [same] at trimmed
  exact ⟨trimmed, fun empty =>
    stripped.nonempty (String.toList_eq_nil_iff.mp empty)⟩

theorem stripped_partText? {part : Json} {text : String}
    (found : partText? part = some text) : Stripped text := by
  cases part with
  | string whole =>
      rw [partText?] at found
      split_ifs at found with blank
      cases found
      exact ⟨strip_strip whole, blank⟩
  | _ => cases found

theorem stripped_candidateTexts {candidates : List Json}
    {texts : List String} (returned : candidateTexts candidates = .ok texts) :
    ∀ text ∈ texts, Stripped text := by
  induction candidates with
  | nil =>
      cases returned
      exact List.forall_mem_nil _
  | cons candidate candidates induction =>
      rw [candidateTexts] at returned
      obtain ⟨content, -, returned⟩ := bind_eq_ok_iff.mp returned
      obtain ⟨field, -, returned⟩ := bind_eq_ok_iff.mp returned
      obtain ⟨parts, -, returned⟩ := bind_eq_ok_iff.mp returned
      obtain ⟨values, -, returned⟩ := bind_eq_ok_iff.mp returned
      cases found : values.filterMap partText? with
      | nil =>
          rw [found] at returned
          exact induction returned
      | cons first others =>
          rw [found] at returned
          cases returned
          intro text member
          rw [← found] at member
          obtain ⟨part, -, kept⟩ := List.mem_filterMap.mp member
          exact stripped_partText? kept

theorem stripped_answerText {value : Json} {text : String}
    (returned : answerText value = .ok text) : Stripped text := by
  obtain ⟨field, -, returned⟩ := bind_eq_ok_iff.mp returned
  obtain ⟨candidates, -, returned⟩ := bind_eq_ok_iff.mp returned
  obtain ⟨parts, found, returned⟩ := bind_eq_ok_iff.mp returned
  cases parts with
  | nil => cases returned
  | cons part parts =>
      cases returned
      have each : ∀ letters ∈ (part :: parts).map String.toList,
          Trimmed isSpace letters ∧ letters ≠ [] := by
        rintro _ member
        obtain ⟨text, among, rfl⟩ := List.mem_map.mp member
        exact (stripped_candidateTexts found text among).trimmed
      obtain ⟨trimmed, nonempty⟩ := Trimmed.intercalate "\n".toList each
        (List.cons_ne_nil _ _)
      rw [← String.toList_intercalate] at trimmed nonempty
      refine ⟨?_, fun empty => nonempty (String.toList_eq_nil_iff.mpr empty)⟩
      rw [strip, trim_of_trimmed trimmed, String.ofList_toList]

namespace GeminiProvider

variable {π : Type}

/-- One request with its attempts: all answers but the last are of a server
that may recover, and the pauses between them grow. -/
structure Exchanged (request : HttpRequest) (first : Nat)
    (network reached : Network π) (retried : List HttpAnswer)
    (last : HttpAnswer) : Prop where
  exchanges : reached.exchanges = network.exchanges ++
    (retried ++ [last]).map fun answer => (request, answer)
  transient : ∀ answer ∈ retried,
    ∃ error, answer = .error error ∧ error.isTransient = true
  sleeps : reached.sleeps = network.sleeps ++
    (List.range' first retried.length).map fun attempt => 2 ^ attempt

theorem send_exchanged {server : HttpServer π} {request : HttpRequest}
    {network reached : Network π} {answer : HttpAnswer}
    (sent : server.send request network = (answer, reached)) :
    reached.exchanges = network.exchanges ++ [(request, answer)] ∧
      reached.sleeps = network.sleeps := by
  cases sent
  exact ⟨rfl, rfl⟩

theorem attempts_cons (server : HttpServer π) (request : HttpRequest)
    (attempt : Nat) (rest : List Nat) (network : Network π) :
    attempts server request (attempt :: rest) network =
      match server.send request network with
      | (.ok body, reached) => (.ok (some body), reached)
      | (.error error, reached) =>
          if error.isTransient = false ∨ attempt = maxRequestAttempts - 1 then
            (.error error, reached)
          else attempts server request rest
            { reached with sleeps := reached.sleeps ++ [2 ^ attempt] } := rfl

theorem attempts_ok {server : HttpServer π} {request : HttpRequest}
    {attempt : Nat} {rest : List Nat} {network reached : Network π}
    {body : List UInt8}
    (sent : server.send request network = (.ok body, reached)) :
    attempts server request (attempt :: rest) network =
      (.ok (some body), reached) := by
  rw [attempts_cons, sent]

theorem attempts_error {server : HttpServer π} {request : HttpRequest}
    {attempt : Nat} {rest : List Nat} {network reached : Network π}
    {error : ProviderError}
    (sent : server.send request network = (.error error, reached)) :
    attempts server request (attempt :: rest) network =
      if error.isTransient = false ∨ attempt = maxRequestAttempts - 1 then
        (.error error, reached)
      else attempts server request rest
        { reached with sleeps := reached.sleeps ++ [2 ^ attempt] } := by
  rw [attempts_cons, sent]

theorem attempts_exchanged (server : HttpServer π) (request : HttpRequest)
    {count first : Nat} (positive : 0 < count)
    (numbered : first + count = maxRequestAttempts) (network : Network π) :
    ∃ retried last,
      Exchanged request first network
        (attempts server request (List.range' first count) network).2
        retried last ∧
      retried.length < count ∧
      (∀ error, last = .error error → error.isTransient = true →
        retried.length + 1 = count) ∧
      (attempts server request (List.range' first count) network).1 =
        last.map some := by
  induction count generalizing first network with
  | zero => omega
  | succ count induction =>
      cases sent : server.send request network with
      | mk answer reached =>
      obtain ⟨exchanged, slept⟩ := send_exchanged sent
      rw [List.range'_succ]
      have single : Exchanged request first network reached [] answer :=
        ⟨exchanged, List.forall_mem_nil _,
          slept.trans (List.append_nil _).symm⟩
      cases answer with
      | ok body =>
          rw [attempts_ok sent]
          refine ⟨[], _, single, Nat.succ_pos count, ?_, rfl⟩
          intro error impossible
          cases impossible
      | error error =>
          rw [attempts_error sent]
          by_cases final : error.isTransient = false ∨
              first = maxRequestAttempts - 1
          · rw [if_pos final]
            refine ⟨[], _, single, Nat.succ_pos count, ?_, rfl⟩
            intro other same transient
            cases same
            rcases final with permanent | exhausted
            · rw [permanent] at transient
              cases transient
            · simp only [List.length_nil]
              omega
          · rw [if_neg final]
            push Not at final
            obtain ⟨recovers, more⟩ := final
            obtain ⟨retried, last, later, fewer, stops, ended⟩ :=
              @induction (first + 1) (by omega) (by omega)
                { reached with sleeps := reached.sleeps ++ [2 ^ first] }
            refine ⟨.error error :: retried, last, ⟨?_, ?_, ?_⟩, ?_, ?_, ended⟩
            · rw [later.exchanges, exchanged, List.append_assoc]
              rfl
            · exact List.forall_mem_cons.mpr
                ⟨⟨error, rfl, Bool.eq_true_of_not_eq_false recovers⟩,
                  later.transient⟩
            · rw [later.sleeps, slept, List.append_assoc]
              rfl
            · exact Nat.succ_lt_succ fewer
            · intro other same transient
              exact congrArg Nat.succ (stops other same transient)

theorem stripped_decoded {server : HttpServer π} {last : HttpAnswer}
    {text : String} (read : last.bind (decoded server) = .ok text) :
    Stripped text := by
  obtain ⟨body, -, read⟩ := bind_eq_ok_iff.mp read
  rw [decoded] at read
  cases whole : (server.loads body).bind answerText with
  | error error =>
      rw [whole] at read
      cases read
  | ok found =>
      rw [whole] at read
      cases read
      obtain ⟨value, -, answered⟩ := bind_eq_ok_iff.mp whole
      exact stripped_answerText answered

/-- A request ends in what the last answer is read as. -/
theorem complete_exchanged (provider : GeminiProvider)
    (server : HttpServer π) (prompt : String) (network : Network π) :
    ∃ retried last,
      Exchanged (provider.request prompt) 0 network
        (provider.complete server prompt network).2 retried last ∧
      retried.length < maxRequestAttempts ∧
      (∀ error, last = .error error → error.isTransient = true →
        retried.length + 1 = maxRequestAttempts) ∧
      (provider.complete server prompt network).1 =
        last.bind (decoded server) := by
  obtain ⟨retried, last, exchanged, fewer, stops, ended⟩ :=
    @attempts_exchanged π server (provider.request prompt) maxRequestAttempts 0
      (by decide) (Nat.zero_add _) network
  rw [← List.range_eq_range'] at exchanged ended
  refine ⟨retried, last, ?_⟩
  unfold complete
  cases run : attempts server (provider.request prompt)
      (List.range maxRequestAttempts) network with
  | mk body reached =>
      rw [run] at exchanged ended
      cases last with
      | error error =>
          cases ended
          rw [Raising.bind_run_error run]
          exact ⟨exchanged, fewer, stops, rfl⟩
      | ok body =>
          cases ended
          rw [Raising.bind_run_ok run]
          exact ⟨exchanged, fewer, stops, rfl⟩

end GeminiProvider

structure ReasoningExplanation where
  text : String
  source : String
  error : Option String := none
deriving DecidableEq

structure FailureReasoner (π : Type) where
  provider : Option (LLMProvider π) := none

namespace FailureReasoner

variable {π : Type}

/-- The text that needs no provider. -/
def fallback (failure : FailureDescription) : String :=
  if failure.authorizationDenial = true ∧ failure.missingEvents ≠ [] then
    "Verification exercised required capabilities missing from the " ++
      "candidate: " ++
      ", ".intercalate (failure.missingEvents.map KubeEvent.display) ++ "."
  else
    "Verification failed without a deterministically mapped RBAC denial: " ++
      failure.summary

/-- `event.to_dict()`. -/
def eventDict (event : KubeEvent) : Document :=
  [("api_group", .string event.apiGroup), ("resource", .string event.resource),
    ("verb", .string event.verb),
    ("namespace", .ofOptionText event.namespace),
    ("resource_name", .ofOptionText event.resourceName),
    ("workload_id", .ofOptionText event.workloadId)]

def context (failure : FailureDescription) : Document :=
  [("summary", .string failure.summary),
    ("authorization_denial", .bool failure.authorizationDenial),
    ("missing_events", .list (failure.missingEvents.map fun event =>
      .mapping (eventDict event)))]

def prompt (failure : FailureDescription) : String :=
  "Explain this Kubernetes workload verification failure in at most three " ++
    "sentences. Do not generate YAML and do not claim a policy is safe. " ++
    "Structured context:\n" ++
    String.ofList (Json.mapping (context failure)).sortKeys.dumps

/-- The first characters of a text, on one line. -/
def excerpt (text : String) : String :=
  String.ofList ((text.toList.map fun character =>
    if character = '\n' then ' ' else character).take 240)

/-- What is said about an exception of the provider. -/
def describeError : ProviderError → String
  | .http code reason =>
      "Gemini HTTP " ++ toString code ++ ": " ++ reason
  | .url reason => "Gemini connection error: " ++ reason
  | .other error =>
      if excerpt (exceptionText error) = "" then error.kind.name
      else error.kind.name ++ ": " ++ excerpt (exceptionText error)

/-- `explain_with_source`. -/
def explainWithSource (reasoner : FailureReasoner π)
    (failure : FailureDescription) (outside : π) :
    ReasoningExplanation × π :=
  match reasoner.provider with
  | none => (⟨fallback failure, "deterministic", none⟩, outside)
  | some provider =>
      match provider.complete (prompt failure) outside with
      | (.ok enhanced, reached) =>
          if strip enhanced ≠ "" then
            (⟨strip enhanced, provider.className, none⟩, reached)
          else (⟨fallback failure, "deterministic-fallback", none⟩, reached)
      | (.error error, reached) =>
          (⟨fallback failure, "deterministic-fallback",
            some (describeError error)⟩, reached)

theorem fallback_ne_empty (failure : FailureDescription) :
    fallback failure ≠ "" := by
  rw [fallback]
  split_ifs with denied
  · simp
  · simp

theorem explainWithSource_reached (provider : LLMProvider π)
    (failure : FailureDescription) (outside : π) :
    (explainWithSource ⟨some provider⟩ failure outside).2 =
      (provider.complete (prompt failure) outside).2 := by
  simp only [explainWithSource]
  cases provider.complete (prompt failure) outside with
  | mk result reached =>
      cases result with
      | error error => rfl
      | ok text =>
          dsimp only
          split_ifs with shown
          · rfl
          · rfl

open GeminiProvider in
/-- Whatever a server answers: one explanation takes at most three equal
requests, each but the first after an answer that the server may recover from
and after a longer pause, and ends with the first answer that is not retried.
The explanation is what that answer is read as, or else the text that needs no
provider, with what went wrong; it is never empty. -/
theorem gemini_explanation {π : Type} (provider : GeminiProvider)
    (server : HttpServer π) (failure : FailureDescription)
    (network : Network π) :
    ∃ explanation reached retried last,
      explainWithSource ⟨some (provider.asProvider server)⟩ failure network =
        (explanation, reached) ∧
      Exchanged (provider.request (prompt failure)) 0 network reached retried
        last ∧
      retried.length < maxRequestAttempts ∧
      (∀ error, last = .error error → error.isTransient = true →
        retried.length + 1 = maxRequestAttempts) ∧
      explanation =
        (match last.bind (decoded server) with
          | .ok text => ⟨text, "GeminiProvider", none⟩
          | .error error => ⟨fallback failure, "deterministic-fallback",
              some (describeError error)⟩) ∧
      explanation.text ≠ "" := by
  obtain ⟨retried, last, exchanged, fewer, stops, ended⟩ :=
    provider.complete_exchanged server (prompt failure) network
  cases run : provider.complete server (prompt failure) network with
  | mk result reached =>
  rw [run] at exchanged ended
  cases result with
  | error error =>
      refine ⟨_, reached, retried, last, ?_, exchanged, fewer, stops, rfl, ?_⟩
      · simp only [explainWithSource, asProvider, run, ← ended]
      · rw [← ended]
        exact fallback_ne_empty failure
  | ok text =>
      have stripped : Stripped text := stripped_decoded ended.symm
      refine ⟨_, reached, retried, last, ?_, exchanged, fewer, stops, rfl, ?_⟩
      · simp only [explainWithSource, asProvider, run, ← ended, stripped.same,
          if_pos stripped.nonempty, ne_eq]
      · rw [← ended]
        exact stripped.nonempty

end FailureReasoner

end Kuber.Agent
