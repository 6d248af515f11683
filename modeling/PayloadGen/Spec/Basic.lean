import PayloadGen.Schema.Basic

/-!
# Message specifications

A specification document names the topics of a system (its channels) and the messages that travel on
them. A `Spec` is a document after loading: payload schemas hold no references any more, while
channels keep the reference to their message as written, for it only serves as a name.
-/

namespace PayloadGen

/-- The metadata of a document. -/
structure Info where
  title : String
  version : String
  description : String

/-- One direction of a channel. -/
structure Operation where
  summary : String
  /-- The message reference as written, such as `#/components/messages/Status`. -/
  messageRef : String

/-- A topic with its operations. -/
structure Channel where
  topic : String
  description : String
  subscribe : Option Operation
  publish : Option Operation

/-- A named message. -/
structure Message where
  name : String
  title : String
  description : String
  payload : Schema

/-- A loaded specification. Channels and messages are in document order. -/
structure Spec where
  asyncapi : String
  info : Info
  channels : List Channel
  messages : List Message

/-- The first message of a name. -/
def Spec.message? (s : Spec) (name : String) : Option Message :=
  s.messages.find? (·.name == name)

end PayloadGen
