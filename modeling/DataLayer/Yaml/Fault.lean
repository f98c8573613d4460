/-! What can be wrong with the text of a YAML stream. -/

namespace DataLayer.Yaml

/-- A reason why a text is no YAML stream of at most one document. -/
inductive Fault where
  | controlCharacter
  | keyWithoutValue
  | entryNotAllowed
  | keyNotAllowed
  | valueNotAllowed
  | unknownDirective
  | directiveName
  | directiveEnd
  | directiveRepeated
  | versionNumber
  | versionUnsupported
  | anchorName
  | tagHandle
  | tagSuffix
  | tagEscape
  | tagEnd
  | tagHandleUndefined
  | zeroIndentation
  | blockScalarHeader
  | tabIndentation
  | documentMarkInScalar
  | endInScalar
  | unknownEscape
  | escapeDigits
  | escapeCode
  | colonInPlainScalar
  | strayCharacter
  | contentExpected
  | dashExpected
  | keyExpected
  | commaOrBracketExpected
  | commaOrBraceExpected
  | documentStartExpected
  | severalDocuments
  | unknownAnchor
deriving DecidableEq, Repr

/-- The text shown for a fault. -/
def Fault.message : Fault → String
  | controlCharacter => "control characters are not allowed"
  | keyWithoutValue => "could not find expected ':'"
  | entryNotAllowed => "block sequence entries are not allowed in this context"
  | keyNotAllowed => "mapping keys are not allowed in this context"
  | valueNotAllowed => "mapping values are not allowed in this context"
  | unknownDirective => "found unknown directive name"
  | directiveName => "could not find expected directive name"
  | directiveEnd => "did not find expected comment or line break after a directive"
  | directiveRepeated => "found duplicate directive"
  | versionNumber => "did not find expected version number"
  | versionUnsupported => "found incompatible YAML document"
  | anchorName => "did not find expected alphabetic or numeric character"
  | tagHandle => "did not find expected '!'"
  | tagSuffix => "did not find expected tag URI"
  | tagEscape => "found an invalid escape in a tag"
  | tagEnd => "did not find expected whitespace or line break after a tag"
  | tagHandleUndefined => "found undefined tag handle"
  | zeroIndentation => "found an indentation indicator equal to 0"
  | blockScalarHeader => "did not find expected comment or line break"
  | tabIndentation => "found a tab character that violates indentation"
  | documentMarkInScalar => "found unexpected document indicator"
  | endInScalar => "found unexpected end of stream"
  | unknownEscape => "found unknown escape character"
  | escapeDigits => "did not find expected hexadecimal number"
  | escapeCode => "found invalid Unicode character escape code"
  | colonInPlainScalar => "found unexpected ':'"
  | strayCharacter => "found character that cannot start any token"
  | contentExpected => "did not find expected node content"
  | dashExpected => "did not find expected '-' indicator"
  | keyExpected => "did not find expected key"
  | commaOrBracketExpected => "did not find expected ',' or ']'"
  | commaOrBraceExpected => "did not find expected ',' or '\x7d'"
  | documentStartExpected => "did not find expected <document start>"
  | severalDocuments => "found more than one document"
  | unknownAnchor => "found unknown anchor"

end DataLayer.Yaml
