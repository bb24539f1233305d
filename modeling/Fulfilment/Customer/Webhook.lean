import Fulfilment.Customer.Notice
import Fulfilment.Document.Compare
import Fulfilment.Document.Literal
import Fulfilment.Http
import Fulfilment.Settings.Sections
import Fulfilment.Text.Base64

/-!
# Notices through a webhook

Notices are posted as documents to an address from the settings. Nothing is posted when notices are
turned off or no address is set, and whatever goes wrong only means that a notice was not delivered.

## Main definitions

* `Webhook.request?` - the request that delivers a notice
* `Webhook.delivered` - whether a reply says that a notice was delivered
* `NotificationSettings.usesWebhook` - whether the settings ask for a webhook
-/

namespace Fulfilment

/-- Whether the settings ask for notices through a webhook. -/
def NotificationSettings.usesWebhook (s : NotificationSettings) : Bool :=
  s.enabled && s.webhookUrl ≠ ""

namespace Webhook

/-- The members that carry a receipt. An empty receipt is not attached. -/
def attachment (id : Value) : Option String → Value.Fields
  | none | some "" => []
  | some receipt =>
    [("attachment", .object [("filename", .text ("proof-of-purchase-" ++ id.plain ++ ".txt")),
      ("content_base64", .text (Text.base64 receipt))])]

/-- A notice as a document, with a text for people. -/
def payload (heading : String) : Notice → Value
  | .confirmation id receipt =>
    let fields : Value.Fields := [("type", .text "order_confirmation"), ("order_id", id),
      ("text", .text (heading ++ " Order " ++ id.plain ++ " confirmed"))]
    .object (fields ++ attachment id receipt)
  | .update id status =>
    .object [("type", .text "status_update"), ("order_id", id),
      ("status", .text status.word),
      ("text", .text (heading ++ " Order " ++ id.plain ++ " is now " ++ status.word))]

/-- The request that delivers a notice, if there is one. -/
def request? (settings : NotificationSettings) (n : Notice) : Option HttpRequest :=
  if settings.usesWebhook then
    some {
      method := "POST"
      url := settings.webhookUrl
      body := payload settings.heading n
      headers := .null
      timeout := settings.timeout }
  else none

/-- Whether a reply says that a notice was delivered. -/
def delivered (reply : Except Failure HttpReply) : Bool :=
  match reply.bind fun r => r.status.atLeast 300 with
  | .ok refused => !refused
  | .error _ => false

end Webhook

end Fulfilment
