/-! Elements of an XML document.

Of the text in an element only what stands before its first child is kept. -/
namespace Ripple.Xml

structure Element where
  tag : String
  attributes : List (String × String)
  text : String
  children : List Element

instance : Inhabited Element := ⟨⟨"", [], "", []⟩⟩

namespace Element

def attribute? (e : Element) (name : String) : Option String := e.attributes.lookup name

/-- The value of an attribute, or nothing. -/
def attributeText (e : Element) (name : String) : String := (e.attribute? name).getD ""

mutual

/-- The element and all elements in it, in the order of the document. -/
def all : Element → List Element
  | ⟨tag, attributes, text, children⟩ => ⟨tag, attributes, text, children⟩ :: allOf children

def allOf : List Element → List Element
  | [] => []
  | e :: rest => e.all ++ allOf rest

end

end Element

end Ripple.Xml
