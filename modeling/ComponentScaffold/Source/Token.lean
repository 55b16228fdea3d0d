import ComponentScaffold.Namespace.Folder

/-! # Namespace tokens

The places in a generated file that hold a namespace. A token is found by the marker before it and the
marker after it, and takes one of the two namespaces of a component. -/

namespace ComponentScaffold

/-- **A place in a generated file** that holds a namespace. -/
inductive NamespaceToken
  /-- The class attribute of a markup file, which names namespace and class. -/
  | markupClass
  /-- The namespace of controls in the styles of a templated control. -/
  | controlsXmlns
  /-- The namespace declaration of a code file. -/
  | codeNamespace
deriving DecidableEq, Repr

namespace NamespaceToken

/-- The text right before the namespace. -/
def startMarker : NamespaceToken → String
  | .markupClass => "x:Class=\""
  | .controlsXmlns => "xmlns:controls=\"using:"
  | .codeNamespace => "namespace "

/-- The text right after the namespace. -/
def endMarker : NamespaceToken → String
  | .markupClass => "\""
  | .controlsXmlns => "\""
  | .codeNamespace => ";"

/-- The namespace that belongs there. -/
def select (token : NamespaceToken) (pair : NamespacePair) : String :=
  match token with
  | .markupClass => pair.full
  | .controlsXmlns => pair.code
  | .codeNamespace => pair.code

end NamespaceToken

end ComponentScaffold
