/-
ReleaseGate/Xml/Error.lean

Why a text is no well-formed XML document.

A document is read from front to back, and the first thing that is wrong
decides the error.
-/
import ReleaseGate.Text.Utf8

namespace ReleaseGate.Xml

/-- What is wrong with a document. -/
inductive Error where
  /-- The text ends before the root element does. -/
  | noElement
  /-- A character stands where it may not. -/
  | invalidToken
  /-- The text ends inside a tag, a comment or the like. -/
  | unclosedToken
  /-- The text ends inside a CDATA section. -/
  | unclosedCdata
  /-- An end tag does not match the open element. -/
  | mismatchedTag
  /-- Two attributes of one element have the same name. -/
  | duplicateAttribute
  /-- Something other than comments, instructions and blanks follows the root. -/
  | junkAfterRoot
  /-- A declaration is not built as it should be. -/
  | badSyntax
  /-- A parameter entity is used inside a declaration. -/
  | parameterReference
  /-- A reference names no entity. -/
  | undefinedEntity
  /-- A reference, given as it is written, names an entity that cannot be
  known without reading further documents. -/
  | unreadEntity (reference : List Char)
  /-- An entity contains itself. -/
  | recursiveEntity
  /-- An element starts or ends outside the entity that it began in. -/
  | asynchronousEntity
  /-- A reference names an entity that is no text. -/
  | binaryEntity
  /-- An attribute uses an entity kept in another document. -/
  | externalInAttribute
  /-- A reference to a character that may not occur. -/
  | invalidCode
  /-- An XML declaration that is not at the very start. -/
  | misplacedDeclaration
  /-- An XML declaration that is not built as it should be. -/
  | badDeclaration
  /-- A public identifier with a forbidden character. -/
  | badPublicId
  | unboundPrefix
  | undeclaredPrefix
  | reservedXml
  | reservedXmlns
  | reservedNamespace
  /-- Entities grow the document out of all proportion. -/
  | amplification
  deriving DecidableEq, Repr

/-- How many bytes of a reference are shown. -/
def Error.shownBytes : Nat := 100

/-- What is said about a document that cannot be read. -/
def Error.message : Error → String
  | noElement => "no element found"
  | invalidToken => "not well-formed (invalid token)"
  | unclosedToken => "unclosed token"
  | unclosedCdata => "unclosed CDATA section"
  | mismatchedTag => "mismatched tag"
  | duplicateAttribute => "duplicate attribute"
  | junkAfterRoot => "junk after document element"
  | badSyntax => "syntax error"
  | parameterReference => "illegal parameter entity reference"
  | undefinedEntity => "undefined entity"
  | unreadEntity reference =>
    let bytes := (Text.Utf8.encode reference).take shownBytes
    "undefined entity " ++ String.ofList (Text.Utf8.decodeLossy bytes)
  | recursiveEntity => "recursive entity reference"
  | asynchronousEntity => "asynchronous entity"
  | binaryEntity => "reference to binary entity"
  | externalInAttribute => "reference to external entity in attribute"
  | invalidCode => "reference to invalid character number"
  | misplacedDeclaration => "XML or text declaration not at start of entity"
  | badDeclaration => "XML declaration not well-formed"
  | badPublicId => "illegal character(s) in public id"
  | unboundPrefix => "unbound prefix"
  | undeclaredPrefix => "must not undeclare prefix"
  | reservedXml =>
    "reserved prefix (xml) must not be undeclared or bound to another namespace name"
  | reservedXmlns => "reserved prefix (xmlns) must not be declared or undeclared"
  | reservedNamespace => "prefix must not be bound to one of the reserved namespace names"
  | amplification => "limit on input amplification factor (from DTD and entities) breached"

end ReleaseGate.Xml
