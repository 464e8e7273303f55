/-!
The data that requests and answers of the service are made of.
-/

namespace TableParsing.Service

inductive Value where
  | null
  | bool (b : Bool)
  | int (n : Int)
  | fraction
  | text (s : String)
  | list (items : List Value)
  | object (members : List (String × Value))

namespace Value

instance : Inhabited Value := ⟨.null⟩

def texts (ss : List String) : Value := .list (ss.map .text)

def textOrNull : Option String → Value
  | none => .null
  | some s => .text s

def member? (members : List (String × Value)) (name : String) : Option Value :=
  members.lookup name

end Value
end TableParsing.Service
