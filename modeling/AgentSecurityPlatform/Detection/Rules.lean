import AgentSecurityPlatform.Evidence.Findings
import AgentSecurityPlatform.Library.Text

namespace AgentSecurityPlatform

structure Hashing where
  uuid5 : String → String → String
  casefold : String → String

def namespaceUrl : String := "6ba7b811-9dad-11d1-80b4-00c04fd430c8"

structure DetectionContext where
  sessionId : String
  agentId : String
  userPrompt : String
  modelOutput : String
  toolOutput : String
  triggeringEventSequence : Nat
  resource : String
  sessionId_ne : sessionId ≠ ""
  agentId_ne : agentId ≠ ""

namespace DetectionContext

def construct (sessionId agentId userPrompt modelOutput toolOutput : String)
    (triggeringEventSequence : Nat) (resource : String) : Option DetectionContext :=
  if h : sessionId ≠ "" ∧ agentId ≠ "" then
    some ⟨sessionId, agentId, userPrompt, modelOutput, toolOutput, triggeringEventSequence,
      resource, h.1, h.2⟩
  else none

def textInputs (c : DetectionContext) : List String :=
  [c.userPrompt, c.modelOutput, c.toolOutput]

end DetectionContext

def firstIndicator (indicators : List String) (text : String) : Option String :=
  indicators.find? (Text.occursIn · text)

def occurrenceId (rule sessionId agentId : String) (details : List String) : String :=
  String.intercalate "|" ([rule, sessionId, agentId] ++ details)

def contentFinding (h : Hashing) (c : DetectionContext) (rule : String)
    (category : FindingCategory) (description : String) (matched : List String) : Finding :=
  { findingId := h.uuid5 namespaceUrl (occurrenceId rule c.sessionId c.agentId
      (matched ++ [toString c.triggeringEventSequence]))
    sessionId := c.sessionId
    agentId := c.agentId
    ruleId := rule
    ruleName := rule
    severity := .high
    category
    description
    createdAt := 0
    evidenceEventSequences := [c.triggeringEventSequence] }

def promptInjectionIndicators : List String :=
  ["ignore previous instructions", "system prompt", "you are now", "act as system",
    "developer message", "forget your instructions", "override your instructions", "new role"]

def promptInjectionRule (h : Hashing) (c : DetectionContext) : List Finding :=
  match firstIndicator promptInjectionIndicators
      (String.intercalate " " (c.textInputs.map h.casefold)) with
  | none => []
  | some indicator =>
    [contentFinding h c "PROMPT_INJECTION" .promptInjection
      ("Prompt injection indicator detected: " ++ indicator) [indicator]]

def sensitiveIndicators : List String :=
  [".env", ".git/config", ".ssh/id_rsa", ".aws/credentials", "/etc/passwd", "/etc/shadow",
    "kubernetes secrets", "kubernetes secret", "k8s secrets", "k8s secret",
    "service account keys", "service account key", "service_account_keys",
    "service_account_key"]

def sensitiveFileAccessRule (h : Hashing) (c : DetectionContext) : List Finding :=
  let resource := h.casefold (Text.strip c.resource)
  let userPrompt := h.casefold c.userPrompt
  let matchedResource :=
    if resource ≠ "" then firstIndicator sensitiveIndicators resource else none
  let matchedIndicator :=
    match matchedResource with
    | some indicator => some indicator
    | none => if userPrompt ≠ "" then firstIndicator sensitiveIndicators userPrompt else none
  match matchedIndicator with
  | none => []
  | some indicator =>
    [contentFinding h c "SENSITIVE_FILE_ACCESS" .sensitiveFileAccess
      ("Sensitive file access attempt detected: " ++ indicator) [indicator]]

def exfiltrationActions : List String :=
  ["upload", "send", "email", "post", "push", "copy", "export", "transfer", "sync", "publish",
    "share"]

def sensitiveDataIndicators : List String :=
  ["password", "credentials", "token", "api key", "secret", "ssh key", ".env", "private key",
    "kubeconfig", "service account key"]

def dataExfiltrationRule (h : Hashing) (c : DetectionContext) : List Finding :=
  let resource := h.casefold (Text.strip c.resource)
  let searchContent := Text.strip (h.casefold c.userPrompt ++ " " ++ resource)
  match firstIndicator exfiltrationActions searchContent,
    firstIndicator sensitiveDataIndicators searchContent with
  | some action, some indicator =>
    [contentFinding h c "DATA_EXFILTRATION" .dataExfiltration
      ("Data exfiltration attempt detected: action '" ++ action ++
        "' combined with sensitive indicator '" ++ indicator ++ "'") [action, indicator]]
  | _, _ => []

abbrev DetectionRule := Hashing → DetectionContext → List Finding

inductive ContentRule where
  | promptInjection
  | sensitiveFileAccess
  | dataExfiltration
  deriving DecidableEq, Repr

def ContentRule.evaluate : ContentRule → DetectionRule
  | .promptInjection => promptInjectionRule
  | .sensitiveFileAccess => sensitiveFileAccessRule
  | .dataExfiltration => dataExfiltrationRule

def detectionEngine (rules : List ContentRule) (h : Hashing) (c : DetectionContext) :
    List Finding :=
  rules.flatMap (fun rule => rule.evaluate h c)

end AgentSecurityPlatform
