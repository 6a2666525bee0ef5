/-! The wire protocols. -/

namespace ServiceClient.Schema

inductive Protocol where
  | restXml
  | json
  deriving DecidableEq, Repr

namespace Protocol

def all : List Protocol :=
  [restXml, json]

def word : Protocol → String
  | restXml => "rest-xml"
  | json => "json"

def ofWord? (word : String) : Option Protocol :=
  all.find? (·.word == word)

/-- Whether a structure's text or blob payload is sent as the raw body. -/
def rawPayload : Protocol → Bool
  | restXml => true
  | json => false

theorem ofWord?_word (p : Protocol) : ofWord? p.word = some p := by
  cases p <;> decide

end Protocol
end ServiceClient.Schema
