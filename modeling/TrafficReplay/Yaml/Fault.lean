import TrafficReplay.Text.Digit
import TrafficReplay.Text.Utf8

/-!
# Faults of a YAML document

Why a text is not one YAML document. Some of the causes are not about YAML itself: the file may
not be decodable, and an escape or a version number may hold a number that is too large.
-/

namespace TrafficReplay.Yaml

/-- Why a text is not one YAML document. -/
inductive Fault
  /-- The file is not UTF-8. -/
  | undecodable (fault : Text.Utf8.Fault)
  /-- A character that may not occur in a document. -/
  | unprintable (c : Char)
  /-- A character that starts no token. -/
  | noToken (c : Char)
  /-- A key that has to be there is not followed by a colon. -/
  | missingColon
  | misplacedEntry
  | misplacedKey
  | misplacedValue
  | malformedDirective
  | malformedName
  | malformedTag
  | malformedBlockHeader
  | unknownEscape (c : Char)
  | malformedEscape
  | unclosedQuote
  /-- A line inside quotes that separates documents. -/
  | separatorInQuote
  /-- An escape beyond the last code point. -/
  | codePointTooLarge (code : Nat)
  /-- A version number of too many digits. -/
  | versionTooLong (digits : Nat)
  | missingDocumentStart
  | repeatedVersion
  | unsupportedVersion
  | repeatedHandle (handle : String)
  | undefinedHandle (handle : String)
  | missingContent
  | unclosedCollection
  | missingFlowEntry
  | undefinedAlias (name : String)
  | repeatedAnchor (name : String)
  | furtherDocument
  deriving DecidableEq, Repr

/-- Whether a fault is about the form of the document, and not about its bytes or its numbers. -/
def Fault.isFormal : Fault → Bool
  | .undecodable _ | .codePointTooLarge _ | .versionTooLong _ => false
  | _ => true

/-- The wording of a fault. -/
def Fault.message : Fault → String
  | .undecodable f => f.message
  | .codePointTooLarge n =>
    if n < 0x80000000 then "chr() arg not in range(0x110000)"
    else "Python int too large to convert to C int"
  | .versionTooLong n => Text.numberTooLongMessage n
  | .unprintable _ => "special characters are not allowed"
  | .noToken _ => "found a character that cannot start any token"
  | .missingColon => "could not find a colon behind a key"
  | .misplacedEntry => "sequence entries are not allowed here"
  | .misplacedKey => "mapping keys are not allowed here"
  | .misplacedValue => "mapping values are not allowed here"
  | .malformedDirective => "found a malformed directive"
  | .malformedName => "found a malformed anchor or alias"
  | .malformedTag => "found a malformed tag"
  | .malformedBlockHeader => "found a malformed block scalar header"
  | .unknownEscape _ => "found an unknown escape character"
  | .malformedEscape => "found a malformed escape"
  | .unclosedQuote => "found the end of the stream inside quotes"
  | .separatorInQuote => "found a document separator inside quotes"
  | .missingDocumentStart => "expected the start of a document"
  | .repeatedVersion => "found a second version directive"
  | .unsupportedVersion => "found an incompatible version"
  | .repeatedHandle _ => "found a second directive for a tag handle"
  | .undefinedHandle _ => "found an undefined tag handle"
  | .missingContent => "expected the content of a node"
  | .unclosedCollection => "expected the end of a block collection"
  | .missingFlowEntry => "expected a comma or the end of a flow collection"
  | .undefinedAlias _ => "found an undefined alias"
  | .repeatedAnchor _ => "found a second anchor of a name"
  | .furtherDocument => "expected a single document"

end TrafficReplay.Yaml
