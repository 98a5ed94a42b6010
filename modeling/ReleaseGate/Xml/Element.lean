/-
ReleaseGate/Xml/Element.lean

The tree of elements that a document describes.

An element keeps the text before its first child; what follows a child is
of no use here.  `nodes` lists an element with everything below it, in the
order of the document, and `withTag` picks from that list by tag.
-/

namespace ReleaseGate.Xml

/-- An element: its tag, attributes in order, leading text and children. -/
inductive Element where
  | mk (tag : String) (attributes : List (String × String)) (text : String)
      (children : List Element)
  deriving Inhabited, Repr

namespace Element

def tag : Element → String
  | mk t _ _ _ => t

def attributes : Element → List (String × String)
  | mk _ a _ _ => a

def text : Element → String
  | mk _ _ t _ => t

def children : Element → List Element
  | mk _ _ _ c => c

/-- The value of an attribute. -/
def attribute? (e : Element) (name : String) : Option String :=
  (e.attributes.find? (·.1 == name)).map (·.2)

mutual

/-- The element and all elements below it, in document order. -/
def nodes : Element → List Element
  | mk t a x children => mk t a x children :: nodesOf children

/-- The elements of a list with all elements below them. -/
def nodesOf : List Element → List Element
  | [] => []
  | e :: rest => e.nodes ++ nodesOf rest

end

/-- The elements with a given tag, from this one down, in document order. -/
def withTag (e : Element) (tag : String) : List Element :=
  e.nodes.filter (·.tag == tag)

/-- The children with a given tag. -/
def childrenWithTag (e : Element) (tag : String) : List Element :=
  e.children.filter (·.tag == tag)

end Element

end ReleaseGate.Xml
