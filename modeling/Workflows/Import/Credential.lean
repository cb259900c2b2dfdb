/-
The credentials that imported nodes may need, and how they are recognised: by their type, or by the
host that a node sends requests to.
-/
import Workflows.Text.Case
import Workflows.Text.Search
import Workflows.Value.Coerce

namespace Workflows.Import

open Workflows.Text

/-- A credential: the variable that holds it, its name, and where it is to be had. -/
structure Credential where
  variableName : String
  name : String
  page : Option String
deriving DecidableEq, Repr

/-- The known credentials by their types. -/
def credentials : List (String × Credential) := [
  ("openAiApi", ⟨"OPENAI_API_KEY", "OpenAI API", some "https://platform.openai.com/api-keys"⟩),
  ("anthropicApi",
    ⟨"ANTHROPIC_API_KEY", "Anthropic API", some "https://console.anthropic.com/settings/keys"⟩),
  ("httpHeaderAuth", ⟨"CUSTOM_API_KEY", "Custom API Key", none⟩),
  ("telegramApi",
    ⟨"TELEGRAM_BOT_TOKEN", "Telegram Bot API", some "https://core.telegram.org/bots#botfather"⟩),
  ("facebookGraphApi",
    ⟨"FACEBOOK_ACCESS_TOKEN", "Facebook Graph API",
      some "https://developers.facebook.com/tools/explorer/"⟩),
  ("slackApi",
    ⟨"SLACK_WEBHOOK_URL", "Slack", some "https://api.slack.com/messaging/webhooks"⟩),
  ("discordWebhookApi", ⟨"DISCORD_WEBHOOK_URL", "Discord Webhook", none⟩)]

/-- The types of credential that hosts ask for. -/
def hosts : List (String × String) := [
  ("api.openai.com", "openAiApi"), ("api.anthropic.com", "anthropicApi"),
  ("api.telegram.org", "telegramApi"), ("graph.facebook.com", "facebookGraphApi"),
  ("hooks.slack.com", "slackApi"), ("discord.com/api/webhooks", "discordWebhookApi")]

/-- The types of credential that one node mentions, known or not, in order. -/
def mentioned (node : Object) : Except Fault (List String) := do
  let params ← ((Object.getOrNull node "parameters").orElse (.object [])).membersFor "get"
  let get := Object.getOrNull params
  let type := ((get "nodeCredentialType").orElse
    ((get "authentication").orElse (.text ""))).display
  let given ← ((Object.getOrNull node "credentials").orElse (.object [])).membersFor "keys"
  let url := lower ((Object.get? params "url").getD (.text "")).display
  return type :: given.map (·.1) ++ (hosts.filter fun (host, _) => holds url host).map (·.2)

/-- The types that the nodes among some entries mention. -/
def mentionedIn : List Value → Except Fault (List String)
  | [] => .ok []
  | .object node :: entries => do
    let types ← mentioned node
    let more ← mentionedIn entries
    return types ++ more
  | _ :: entries => mentionedIn entries

/-- The known credentials of some types, each once, in the order of their first mention. -/
def requiredCredentials (types : List String) : List Credential :=
  types.eraseDups.filterMap fun type =>
    (credentials.find? (·.1 == type)).map (·.2)

/-- A credential as a value; it is configured if its variable is set and not empty. -/
def Credential.toValue (configured : String → Bool) (credential : Credential) : Value :=
  .object [("env_var", .text credential.variableName), ("name", .text credential.name),
    ("get_url", (credential.page.map Value.text).getD .null),
    ("configured", .bool (configured credential.variableName))]

end Workflows.Import
