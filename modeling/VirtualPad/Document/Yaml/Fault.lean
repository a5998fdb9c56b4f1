import VirtualPad.Document.Fault

/-!
# Faults of YAML texts

Why a text is not YAML, or not of the form that its reader wants. What is wrong with the characters
of a text is told with its place and, mostly, with what was being read and where that began.
-/

namespace VirtualPad.Yaml

/-- What is wrong. -/
inductive Problem where
  | noColon
  | strayDash
  | strayKey
  | strayValue
  | strayCharacter
  | noDirectiveName
  | directiveNameEnd
  | unknownDirective
  | noLineEnd
  | noVersionSign
  | longVersion
  | noVersion
  | noBlank
  | noGap
  | noName
  | noAngleBracket
  | noExclamationMark
  | noTag
  | noOctet
  | firstOctet
  | furtherOctet
  | zeroDepth
  | tabInIndent
  | marker
  | textEnd
  | unknownEscape
  | noHexDigit
  | noCharacter
  | strayColon
  | tabBelowIndent
  | noDocumentStart
  | secondVersion
  | otherVersion
  | secondHandle
  | unknownHandle
  | noContent
  | noDash
  | noKey
  | noListSeparator
  | noMapSeparator
  deriving DecidableEq, Repr

/-- What is being read. -/
inductive Activity where
  | simpleKey
  | token
  | directive
  | versionDirective
  | handleDirective
  /-- The handle that a directive declares, before its first character. -/
  | declaredHandle
  /-- The same behind its first character. -/
  | declaredHandleRest
  /-- The meaning of a handle that a directive declares. -/
  | declaredMeaning
  | anchor
  | reference
  | tag
  /-- The characters of a tag. -/
  | tagCharacters
  | block
  | quotes
  /-- A character behind a backslash. -/
  | escape
  | plain
  | properties
  | blockNode
  | flowNode
  | blockList
  | blockMap
  | flowList
  | flowMap
  deriving DecidableEq, Repr

/-- Why the characters of a text are not YAML. -/
inductive SyntaxFault where
  /-- A text holds a character that none may hold, behind a number of bytes. -/
  | forbidden (offset : Nat)
  | problem (what : Problem) (place : Place) (context : Option (Activity × Place))
  /-- A name is used that no node has. -/
  | unknownName (place : Place)
  deriving DecidableEq, Repr

/-- Why a text cannot be read. -/
inductive Fault where
  | syntactic (fault : SyntaxFault)
  | formal (fault : FormFault)
  /-- A text holds several documents. -/
  | crowded
  deriving DecidableEq, Repr

/-- What is read from the characters of a text. -/
abbrev Scan := Except SyntaxFault

def stop {α : Type} (what : Problem) (place : Place) (activity : Activity) (start : Place) :
    Scan α :=
  .error (.problem what place (some (activity, start)))

/-! ## Messages -/

def Problem.message : Problem → String
  | .noColon => "could not find expected ':'"
  | .strayDash => "block sequence entries are not allowed in this context"
  | .strayKey => "mapping keys are not allowed in this context"
  | .strayValue => "mapping values are not allowed in this context"
  | .strayCharacter => "found character that cannot start any token"
  | .noDirectiveName => "could not find expected directive name"
  | .directiveNameEnd => "found unexpected non-alphabetical character"
  | .unknownDirective => "found unknown directive name"
  | .noLineEnd => "did not find expected comment or line break"
  | .noVersionSign => "did not find expected digit or '.' character"
  | .longVersion => "found extremely long version number"
  | .noVersion => "did not find expected version number"
  | .noBlank => "did not find expected whitespace"
  | .noGap => "did not find expected whitespace or line break"
  | .noName => "did not find expected alphabetic or numeric character"
  | .noAngleBracket => "did not find the expected '>'"
  | .noExclamationMark => "did not find expected '!'"
  | .noTag => "did not find expected tag URI"
  | .noOctet => "did not find URI escaped octet"
  | .firstOctet => "found an incorrect leading UTF-8 octet"
  | .furtherOctet => "found an incorrect trailing UTF-8 octet"
  | .zeroDepth => "found an indentation indicator equal to 0"
  | .tabInIndent => "found a tab character where an indentation space is expected"
  | .marker => "found unexpected document indicator"
  | .textEnd => "found unexpected end of stream"
  | .unknownEscape => "found unknown escape character"
  | .noHexDigit => "did not find expected hexdecimal number"
  | .noCharacter => "found invalid Unicode character escape code"
  | .strayColon => "found unexpected ':'"
  | .tabBelowIndent => "found a tab character that violates indentation"
  | .noDocumentStart => "did not find expected <document start>"
  | .secondVersion => "found duplicate %YAML directive"
  | .otherVersion => "found incompatible YAML document"
  | .secondHandle => "found duplicate %TAG directive"
  | .unknownHandle => "found undefined tag handle"
  | .noContent => "did not find expected node content"
  | .noDash => "did not find expected '-' indicator"
  | .noKey => "did not find expected key"
  | .noListSeparator => "did not find expected ',' or ']'"
  | .noMapSeparator => "did not find expected ',' or '\x7d'"

def Activity.label : Activity → String
  | .simpleKey => "while scanning a simple key"
  | .token => "while scanning for the next token"
  | .directive => "while scanning a directive"
  | .versionDirective => "while scanning a %YAML directive"
  | .handleDirective => "while scanning a %TAG directive"
  | .declaredHandle => "while scanning a tag directive"
  | .declaredHandleRest => "while parsing a tag directive"
  | .declaredMeaning => "while parsing a %TAG directive"
  | .anchor => "while scanning an anchor"
  | .reference => "while scanning an alias"
  | .tag => "while scanning a tag"
  | .tagCharacters => "while parsing a tag"
  | .block => "while scanning a block scalar"
  | .quotes => "while scanning a quoted scalar"
  | .escape => "while parsing a quoted scalar"
  | .plain => "while scanning a plain scalar"
  | .properties => "while parsing a node"
  | .blockNode => "while parsing a block node"
  | .flowNode => "while parsing a flow node"
  | .blockList => "while parsing a block collection"
  | .blockMap => "while parsing a block mapping"
  | .flowList => "while parsing a flow sequence"
  | .flowMap => "while parsing a flow mapping"

/-- The text of what was being read, with the place where it began if that is another one than the
place of the problem. -/
def contextText (place : Place) : Option (Activity × Place) → String
  | none => ""
  | some (activity, start) =>
    ", " ++ activity.label ++ if start.meets place then "" else start.label

def SyntaxFault.message : SyntaxFault → String
  | .forbidden offset =>
    "control characters are not allowed" ++
      if offset = 0 then "" else " at position " ++ toString offset
  | .problem what place context => what.message ++ place.label ++ contextText place context
  | .unknownName place => "unknown anchor" ++ place.label

def Fault.message : Fault → String
  | .syntactic fault => fault.message
  | .formal fault => fault.message
  | .crowded => "deserializing from YAML containing more than one document is not supported"

end VirtualPad.Yaml
