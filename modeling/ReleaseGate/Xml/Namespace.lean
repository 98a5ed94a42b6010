/-
ReleaseGate/Xml/Namespace.lean

Prefixes, and the names that they abbreviate.

A scope maps prefixes to namespace names, innermost binding first; the
empty prefix stands for elements without one.  A qualified name in a
namespace is written with the namespace name in braces in front.
-/
import ReleaseGate.Xml.Error

namespace ReleaseGate.Xml

/-- The bindings in force, innermost first.  `none` takes a binding back. -/
abbrev Scope := List (List Char × Option (List Char))

namespace Scope

/-- The namespace that the prefix `xml` always has. -/
def xmlName : List Char := "http://www.w3.org/XML/1998/namespace".toList

/-- The namespace of the attributes that declare namespaces. -/
def xmlnsName : List Char := "http://www.w3.org/2000/xmlns/".toList

/-- The scope around the root element. -/
def outermost : Scope := [("xml".toList, some xmlName)]

/-- What a prefix stands for. -/
def find? (scope : Scope) (p : List Char) : Option (List Char) :=
  ((List.find? (·.1 == p) scope).map (·.2)).join

/-- Binds a prefix to a namespace name. -/
def bind (scope : Scope) (p uri : List Char) : Except Error Scope :=
  if uri.isEmpty && !p.isEmpty then .error .undeclaredPrefix
  else if p = "xmlns".toList then .error .reservedXmlns
  -- A closing brace could not be told from the end of the namespace name.
  else if uri.contains '\x7d' then .error .badSyntax
  else if p = "xml".toList && uri ≠ xmlName then .error .reservedXml
  else if p ≠ "xml".toList && (uri = xmlName || uri = xmlnsName) then .error .reservedNamespace
  else .ok ((p, if uri.isEmpty then none else some uri) :: scope)

end Scope

/-- The two sides of a name at its first colon. -/
def splitName? (n : List Char) : Option (List Char × List Char) :=
  match n.dropWhile (· ≠ ':') with
  | ':' :: rest => some (n.takeWhile (· ≠ ':'), rest)
  | _ => none

/-- The prefix that an attribute declares, if it is a declaration. -/
def declaredPrefix? (n : List Char) : Option (List Char) :=
  if n = "xmlns".toList then some []
  else
    match splitName? n with
    | some (p, rest) => if p = "xmlns".toList then some rest else none
    | none => none

/-- A name in a namespace. -/
def universalName (uri rest : List Char) : List Char := '\x7b' :: uri ++ '\x7d' :: rest

/-- The full name of an element. -/
def elementName (scope : Scope) (n : List Char) : Except Error (List Char) :=
  match splitName? n with
  | some (p, rest) =>
    match scope.find? p with
    | some uri => .ok (universalName uri rest)
    | none => .error .unboundPrefix
  | none =>
    match scope.find? [] with
    | some uri => .ok (universalName uri n)
    | none => .ok n

/-- The full names of attributes.  Those without a prefix are in no
namespace; of the others no two may have the same full name. -/
def attributeNames (scope : Scope) :
    List (List Char × List Char) → List (List Char) → Except Error (List (List Char × List Char))
  | [], _ => .ok []
  | (n, value) :: rest, seen =>
    match splitName? n with
    | none => do return (n, value) :: (← attributeNames scope rest seen)
    | some (p, rest') =>
      match scope.find? p with
      | none => .error .unboundPrefix
      | some uri =>
        let full := universalName uri rest'
        if seen.contains full then .error .duplicateAttribute
        else do return (full, value) :: (← attributeNames scope rest (full :: seen))

end ReleaseGate.Xml
