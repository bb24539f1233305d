import Fulfilment.Document.Entries

/-!
# Requests over HTTP

What is sent to a service at an address, and what comes back.

## Main definitions

* `HttpRequest`, `HttpReply` - a request and its reply
* `HttpTable` - services that reply always alike
-/

namespace Fulfilment

/-- A request. -/
structure HttpRequest where
  /-- The method. -/
  method : String
  /-- The address, which is a text unless it is mistaken. -/
  url : Value
  /-- The body, which is sent as a document. -/
  body : Value
  /-- The headers; null when none are set. -/
  headers : Value
  /-- The seconds that the service has to reply. -/
  timeout : Binary64
deriving Repr, Inhabited

/-- The request as a document. -/
def HttpRequest.document (r : HttpRequest) : Value :=
  .object [("method", .text r.method), ("url", r.url), ("json", r.body),
    ("headers", r.headers), ("timeout", .real r.timeout)]

/-- A reply. -/
structure HttpReply where
  /-- The status, which is a number unless it is mistaken. -/
  status : Value := .int 200
  /-- The kind of the content. -/
  contentType : Value := "application/json"
  /-- The content as a document. -/
  json : Value := .null
  /-- The content as text. -/
  text : Value := ""
deriving Repr, Inhabited

/-- Services by their addresses, each with its reply, or with its failure. -/
abbrev HttpTable := Catalog String (Except Failure HttpReply)

/-- What comes back from an address. Nothing is reached at an address that is not listed. -/
def HttpTable.reply (table : HttpTable) (url : Value) : Except Failure HttpReply :=
  match url.entryOf table with
  | .ok (some r) => r
  | .ok none => .error (.raised .connection "unreachable")
  | .error f => .error f

end Fulfilment
