import ServiceClient.Text.Blank

/-! The events of an XML document: elements open and close under their local names, and each maximal
run of character data between two tags is one text. -/

namespace ServiceClient.Markup

inductive Event where
  | opening (name : String)
  | closing (name : String)
  | text (s : String)
  deriving DecidableEq

namespace Event

def isOpening : Event → Bool
  | opening _ => true
  | _ => false

def isBlank : Event → Bool
  | text s => Text.blankText s
  | _ => false

/-- For messages. -/
def describe : Event → String
  | opening name => "<" ++ name ++ ">"
  | closing name => "</" ++ name ++ ">"
  | text s => "text '" ++ Text.trim s ++ "'"

end Event
end ServiceClient.Markup
