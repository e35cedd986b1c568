import PageScript.Record.Checked
import PageScript.Record.Dump
import PageScript.Routine

namespace PageScript

open Record

structure Credentials where
  username : Text
  password? : Option Text
  secretRef? : Option Text
  deriving DecidableEq, Repr

namespace Credentials

def title : Text := "Credentials"

def usernameKey : Key := .camelCase "username"
def passwordKey : Key := .camelCase "password"
def secretRefKey : Key := .camelCase "secret_ref"

def read : Reader Credentials := Reader.record title fun entries =>
  Credentials.mk <$> required usernameKey Reader.text entries
    <*> optional passwordKey none (Reader.nullable Reader.text) entries
    <*> optional secretRefKey none (Reader.nullable Reader.text) entries

def dump (credentials : Credentials) : Dump := .record
  [(usernameKey, .text credentials.username), (passwordKey, .text? credentials.password?),
   (secretRefKey, .text? credentials.secretRef?)]

end Credentials

/-- What is asked of the model: the test to be written, the application, and how
to log in there. -/
structure Objective where
  text : Text
  url : Text
  credentials? : Option Credentials
  deriving DecidableEq, Repr

structure ModelRequest where
  model : Text
  instructions : Text
  prompt : Text
  deriving DecidableEq, Repr

/-- A model that answers questions, with nothing at times. -/
abbrev ModelClient (σ : Type) := ModelRequest → Routine σ (Option Text)

structure Connection where
  apiKey : Text
  baseUrl? : Option Text
  deriving DecidableEq, Repr

/-- The connection that is made with a key; there is none without one. -/
def Connection.of? (apiKey? baseUrl? : Option Text) : Option Connection :=
  match apiKey? with
  | none => none
  | some apiKey => if apiKey = "" then none else some ⟨apiKey, baseUrl?⟩

namespace Generation

inductive Error where
  | noClient
  | callFailed (model : Text) (failure : Failure)
  | emptyReply
  deriving DecidableEq, Repr

def Error.message : Error → Text
  | .noClient => "OPENAI_API_KEY is not set; cannot call the language model"
  | .callFailed model failure =>
      "Error calling the language model (" ++ model ++ "): " ++ failure.message
  | .emptyReply => "The language model returned an empty response"

def instructionLines : List Text :=
  ["",
   "You are an expert AQE (Automated Quality Engineer). Your goal is to convert a natural language test objective into structured JSON browser test scenarios.",
   "",
   "Output Schema (JSON):",
   "\x7b",
   "  \"scenarios\": [",
   "    \x7b",
   "      \"name\": \"Short test name\",",
   "      \"description\": \"What the scenario checks\",",
   "      \"tags\": [\"optional\", \"labels\"],",
   "      \"steps\": [",
   "        \x7b",
   "          \"action\": \"goto\" | \"fill\" | \"click\" | \"expect\" | \"wait\" | \"type\" | \"select\" | \"hover\",",
   "          \"target\": \"Selector of the element, or URL/path for goto\",",
   "          \"data\": \"Text to fill/type or option to select. Only for fill, type, select\",",
   "          \"description\": \"Why this step is needed\"",
   "        \x7d",
   "      ]",
   "    \x7d",
   "  ]",
   "\x7d",
   "",
   "Rules:",
   "1. ONLY return valid JSON. Do not include markdown formatting like ```json.",
   "2. 'target' must be a Playwright selector: prefer '#id', '[data-testid=\"...\"]', '[aria-label=\"...\"]', 'role=button' or 'text=Visible label'.",
   "3. 'data' is REQUIRED for fill, type and select steps.",
   "4. Start every scenario with a 'goto' step.",
   "5. Use 'expect' to assert that an element is visible after the interaction.",
   "6. 'wait' takes either a selector or a number of milliseconds as 'target'.",
   ""]

def instructions : Text := ("\n" : Text).intercalate instructionLines

/-- The lines about the login; a password that is empty is not told. -/
def credentialLines (credentials : Credentials) : List Text :=
  ("Username: " ++ credentials.username) ::
    (Text.nonempty? credentials.password?).toList.map fun password => "Password: " ++ password

def prompt (objective : Objective) : Text :=
  ("\n" : Text).intercalate
    (["Objective: " ++ objective.text, "Application URL: " ++ objective.url] ++
      (objective.credentials?.map credentialLines).getD [])

/-- Asks the model, and gives its reply unless it is blank. -/
def generate {σ : Type} (client? : Option (ModelClient σ)) (model : Text)
    (objective : Objective) : Routine σ (Except Error Text) :=
  match client? with
  | none => return .error .noClient
  | some client => do
      Routine.log .info ("Calling LLM: " ++ model ++ "...")
      match ← (client ⟨model, instructions, prompt objective⟩).outcome with
      | .error failure => return .error (.callFailed model failure)
      | .ok reply? =>
          let reply := reply?.getD ""
          return if Text.isBlankText reply then .error .emptyReply else .ok reply

end Generation

end PageScript
