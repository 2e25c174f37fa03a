import ReplyStage.Dict
/-!
# Headers

The headers of a message: under each name the values in the order in which they were appended.
-/

namespace ReplyStage

/-- Headers with several values under a name. -/
structure HeaderMap where
  values : Dict (List String)
  deriving DecidableEq, Repr, Inhabited

namespace HeaderMap

/-- No headers. -/
def empty : HeaderMap := ⟨.empty⟩

/-- The values under a name, in order. -/
def get (h : HeaderMap) (name : String) : List String := (h.values.get? name).getD []

/-- Adds a value after those already under its name. -/
def append (h : HeaderMap) (name value : String) : HeaderMap :=
  ⟨h.values.insert name (h.get name ++ [value])⟩

/-- Adds values one after another. -/
def appendAll (h : HeaderMap) (entries : List (String × String)) : HeaderMap :=
  entries.foldl (fun h e => h.append e.1 e.2) h

/-- The headers with the given values. -/
def ofList (entries : List (String × String)) : HeaderMap := empty.appendAll entries

def isEmpty (h : HeaderMap) : Bool := h.values.isEmpty

theorem get_append (h : HeaderMap) (name value n : String) :
    (h.append name value).get n = if n = name then h.get name ++ [value] else h.get n := by
  simp only [get, append, Dict.get?_insert]
  split <;> rfl

end HeaderMap
end ReplyStage
