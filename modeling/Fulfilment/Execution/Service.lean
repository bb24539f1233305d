import Fulfilment.Document.Compare
import Fulfilment.Document.Entries
import Fulfilment.Http
import Fulfilment.Text.Letters
import Fulfilment.Workflow.Condition

/-!
# Services over HTTP

A node may call a service. Its options say with which method and headers, and under which name the
answer is to be kept. Methods that send something send the whole context.

## Main definitions

* `Service.request` - the request to a service
* `Service.answer` - the values that a reply stands for
-/

namespace Fulfilment.Service

/-- The method of the call. -/
def method (options : Value.Fields) : String :=
  match options.get? "method" with
  | some v => Text.upper v.plain
  | none => "POST"

/-- Whether a method sends something. -/
def sendsBody (method : String) : Bool := ["POST", "PUT", "PATCH"].contains method

/-- The request to the service at an endpoint. -/
def request (timeout : Binary64) (endpoint : Value) (context : Context) (options : Value.Fields) :
    Except Failure HttpRequest := do
  -- Headers that cannot be read keep the request from being made.
  let headers ← ((options.get? "headers").getD .null).membersOrNone
  return {
    method := method options
    url := endpoint
    body := if sendsBody (method options) then .object context else .null
    headers := .object headers
    timeout := timeout }

/-- The content of a reply. -/
def content (r : HttpReply) : Value :=
  if r.contentType.same "application/json" then r.json else r.text

/-- The content as an object: under the name from the options, as it is when it is an object, and
otherwise as the response. -/
def keepUnder (options : Value.Fields) (data : Value) : Except Failure Value :=
  let name := (options.get? "resultKey").getD .null
  if name.truthy then name.asName.map fun n => .object [(n, data)]
  else
    match data with
    | .object fs => .ok (.object fs)
    | v => .ok (.object [("response", v)])

/-- The beginning of a text or a list, as text. -/
def beginning (n : Nat) : Value → Except Failure String
  | .text s => .ok (Text.truncate n s)
  | .list vs => .ok (Value.literal (.list (vs.take n)))
  | .object _ => .error (.unhashable "slice")
  | v => .error (.notSubscriptable v.kindName)

/-- The failure that an answer with a status of 400 or more is, with the beginning of its text. -/
def refusal (endpoint : Value) (r : HttpReply) : Failure :=
  match beginning 200 r.text with
  | .ok body => .callRefused endpoint.plain r.status.plain body
  | .error f => f

/-- The values that a reply stands for. A status of 400 or more is a failure. -/
def answer (endpoint : Value) (options : Value.Fields) (r : HttpReply) : Except Failure Value := do
  if ← r.status.atLeast 400 then throw (refusal endpoint r)
  else keepUnder options (content r)

end Fulfilment.Service
