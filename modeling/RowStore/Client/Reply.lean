import RowStore.Client.Status

/-!
# Replies

A reply is a status and a body. After a status that announces another reply the body is read as that one, and it
is none: it does not begin as a reply does, or it ends too early.
-/

namespace RowStore.Client

set_option autoImplicit false

structure Reply where
  status : Nat
  body : String
deriving DecidableEq, Repr

inductive ReplyFault where
  | badVersion
  | badStatus
  | badHeader
  | incomplete
deriving DecidableEq, Repr

def ReplyFault.message : ReplyFault → String
  | badVersion => "invalid HTTP version parsed"
  | badStatus => "invalid HTTP status-code parsed"
  | badHeader => "invalid HTTP header parsed"
  | incomplete => "connection closed before message completed"

namespace Reply

def versions : List (List Char) :=
  ["HTTP/1.0".toList, "HTTP/1.1".toList]

/-- What is wrong with a text as the beginning of a reply, after the line ends that may come first. -/
def headFault : List Char → ReplyFault
  | [] | ['\r'] => .incomplete
  | '\n' :: rest | '\r' :: '\n' :: rest => headFault rest
  | '\r' :: _ => .badHeader
  | text =>
    if versions.any fun version => version.isPrefixOf text || text.isPrefixOf version then .incomplete
    else .badVersion

/-- What is wrong with a reply before its body is looked at. -/
def fault? (reply : Reply) : Option ReplyFault :=
  if !Status.isStatus reply.status then some .badStatus
  else if Status.isInterim reply.status then some (headFault reply.body.toList)
  else none

/-- The body, where the status says that there is one. -/
def content (reply : Reply) : String :=
  if Status.isBare reply.status then "" else reply.body

end Reply

end RowStore.Client
