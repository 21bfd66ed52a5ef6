/-
What can be wrong with a source text.

A `Complaint` is one cause for which a text is not a module.  The wording of every cause is in one
place, `Complaint.message`, and the families of causes (layout errors are kept apart from the
others, and texts that are too much to be read from texts that are wrong) in `Complaint.family`.
-/
import QualityGate.Text.Utf8

namespace QualityGate.Source

/-- Layout causes are reported apart from all others, and mixed tabs apart from those.  A text
whose parts are too deep inside each other is not called wrong: there is no room to read it.  Nor is
one that is wrong before bytes which cannot be read: these are reported instead.  A text with half
a pair of units is not read at all. -/
inductive Family where
  | general
  | layout
  | tabs
  | depth
  | memory
  | bytes
  | halves
  deriving DecidableEq, Repr

inductive NumberKind where
  | decimal
  | hexadecimal
  | octal
  | binary
  | imaginary
  deriving DecidableEq, Repr

/-- The adjective used for a kind of numeric literal. -/
def NumberKind.word : NumberKind → String
  | decimal => "decimal"
  | hexadecimal => "hexadecimal"
  | octal => "octal"
  | binary => "binary"
  | imaginary => "imaginary"

inductive BlockOwner where
  | functionDefinition
  | classDefinition
  | statement (keyword : String)
  deriving DecidableEq, Repr

def BlockOwner.text : BlockOwner → String
  | functionDefinition => "function definition"
  | classDefinition => "class definition"
  | statement keyword => s!"'{keyword}' statement"

inductive Complaint where
  -- room to read
  | tooDeep
  | noRoom
  -- bytes
  | unwritable (fault : Text.HalfFault)
  | badEncoding (problem : Text.Encoding.Problem)
  | undecodable (fault : Text.Utf8Fault)
  | undecodableBehind (fault : Text.Utf8Fault)
  -- characters and layout
  | nullCharacter
  | unterminatedString (detectedAt : Nat)
  | unterminatedTripleString (detectedAt : Nat)
  | strayCharacter (c : Char)
  | unprintableCharacter (c : Char)
  | badNumber (kind : NumberKind)
  | badDigit (digit : Char) (kind : NumberKind)
  | leadingZeros
  | hugeNumber (digits : Nat)
  | tooManyBrackets
  | unmatchedBracket (c : Char)
  | mismatchedBracket (closing opening : Char) (openedOn : Option Nat)
  | neverClosed (opening : Char)
  | unexpectedEnd
  | afterContinuation
  | inconsistentTabs
  | inconsistentUnindent
  | tooManyIndents
  | unexpectedIndent
  | unexpectedUnindent
  -- general forms
  | invalid
  | forgottenComma
  | expected (token : String)
  | expectedOneOf (choice : String)
  | missingBlock (owner : BlockOwner) (line : Nat)
  | bareMissingBlock
  | missingCallParentheses (name : String)
  -- assignments
  | assignInsteadOfCompare
  | cannotAssignHere (what : String)
  | cannotAssign (what : String)
  | cannotDelete (what : String)
  | cannotUseWalrus (what : String)
  | annotatedTargets (what : String)
  | illegalAnnotatedTarget
  | assignToYield
  | illegalAugmentedTarget (what : String)
  -- calls
  | unpackAfterKeywordUnpack
  | positionalAfterKeyword
  | positionalAfterKeywordUnpack
  | bareGenerator
  | assignmentInArgument
  -- displays
  | unpackInComprehension
  | comprehensionParentheses
  | dictUnpackInComprehension
  | starredHere
  | doubleStarredHere
  | starredDictValue
  | missingDictValue
  | missingDictColon
  | missingElse
  -- parameters
  | defaultBeforePlain
  | parenthesizedParameters
  | parenthesizedLambdaParameters
  | nothingBeforeSlash
  | repeatedSlash
  | slashAfterStar
  | slashStarComma
  | bareStar
  | defaultForStar
  | repeatedStar
  | defaultForDoubleStar
  | afterDoubleStar
  | missingDefault
  -- statements
  | trailingImportComma
  | missingHandler
  | mixedHandlers
  | barehandedExceptTuple
  | missingExceptType
  -- patterns
  | wildcardTarget
  | badPatternTarget
  | positionalAfterKeywordPattern
  | patternNeedsReal
  | patternNeedsImaginary
  -- strings
  | bytesNotAscii
  | mixedBytes
  | badEscape (detail : String)
  | badBytesEscape (detail : String)
  -- replacement fields of formatted strings
  | lonelyBrace
  | fieldNestedTooDeep
  | fieldBackslash
  | fieldComment
  | fieldTooManyBrackets
  | fieldUnmatched (c : Char)
  | fieldMismatched (closing opening : Char)
  | fieldUnterminatedString
  | fieldUnclosed
  | fieldBadConversion
  | fieldEmpty
  | fieldEmptyBefore (c : Char)
  -- any other cause, inside a replacement field
  | inField (cause : Complaint)
  deriving DecidableEq, Repr

/-- A code point in hexadecimal, four digits at least. -/
def hexPoint (c : Char) : String :=
  let ds := (Nat.toDigits 16 c.toNat).map Char.toUpper
  String.ofList (List.replicate (4 - ds.length) '0' ++ ds)

namespace Complaint

def family : Complaint → Family
  | tooDeep => .depth
  | noRoom => .memory
  | undecodableBehind _ => .bytes
  | unwritable _ => .halves
  | inconsistentTabs => .tabs
  | inconsistentUnindent | tooManyIndents | unexpectedIndent | unexpectedUnindent => .layout
  | missingBlock .. | bareMissingBlock => .layout
  | _ => .general

def blamesText (c : Complaint) : Bool :=
  c.family = .general || c.family = .layout || c.family = .tabs

def message : Complaint → String
  | tooDeep => "maximum recursion depth exceeded"
  | noRoom => ""
  | unwritable fault => fault.message
  | badEncoding problem => problem.message
  | undecodable fault => "(unicode error) " ++ fault.message
  | undecodableBehind fault => fault.message
  | nullCharacter => "source code string cannot contain null bytes"
  | unterminatedString n => s!"unterminated string literal (detected at line {n})"
  | unterminatedTripleString n => s!"unterminated triple-quoted string literal (detected at line {n})"
  | strayCharacter c => s!"invalid character '{c}' (U+{hexPoint c})"
  | unprintableCharacter c => s!"invalid non-printable character U+{hexPoint c}"
  | badNumber k => s!"invalid {k.word} literal"
  | badDigit d k => s!"invalid digit '{d}' in {k.word} literal"
  | leadingZeros => "leading zeros in decimal integer literals are not permitted; " ++
      "use an 0o prefix for octal integers"
  | hugeNumber n => s!"Exceeds the limit (4300 digits) for integer string conversion: value has {n} " ++
      "digits; use sys.set_int_max_str_digits() to increase the limit - Consider hexadecimal for " ++
      "huge integer literals to avoid decimal conversion limits."
  | tooManyBrackets => "too many nested parentheses"
  | unmatchedBracket c => s!"unmatched '{c}'"
  | mismatchedBracket c o none => s!"closing parenthesis '{c}' does not match opening parenthesis '{o}'"
  | mismatchedBracket c o (some n) =>
      s!"closing parenthesis '{c}' does not match opening parenthesis '{o}' on line {n}"
  | neverClosed o => s!"'{o}' was never closed"
  | unexpectedEnd => "unexpected EOF while parsing"
  | afterContinuation => "unexpected character after line continuation character"
  | inconsistentTabs => "inconsistent use of tabs and spaces in indentation"
  | inconsistentUnindent => "unindent does not match any outer indentation level"
  | tooManyIndents => "too many levels of indentation"
  | unexpectedIndent => "unexpected indent"
  | unexpectedUnindent => "unexpected unindent"
  | invalid => "invalid syntax"
  | forgottenComma => "invalid syntax. Perhaps you forgot a comma?"
  | expected t => s!"expected '{t}'"
  | expectedOneOf t => s!"expected ({t})"
  | missingBlock o n => s!"expected an indented block after {o.text} on line {n}"
  | bareMissingBlock => "expected an indented block"
  | missingCallParentheses n => s!"Missing parentheses in call to '{n}'. Did you mean {n}(...)?"
  | assignInsteadOfCompare => "invalid syntax. Maybe you meant '==' or ':=' instead of '='?"
  | cannotAssignHere w => s!"cannot assign to {w} here. Maybe you meant '==' instead of '='?"
  | cannotAssign w => s!"cannot assign to {w}"
  | cannotDelete w => s!"cannot delete {w}"
  | cannotUseWalrus w => s!"cannot use assignment expressions with {w}"
  | annotatedTargets w => s!"only single target (not {w}) can be annotated"
  | illegalAnnotatedTarget => "illegal target for annotation"
  | assignToYield => "assignment to yield expression not possible"
  | illegalAugmentedTarget w => s!"'{w}' is an illegal expression for augmented assignment"
  | unpackAfterKeywordUnpack => "iterable argument unpacking follows keyword argument unpacking"
  | positionalAfterKeyword => "positional argument follows keyword argument"
  | positionalAfterKeywordUnpack => "positional argument follows keyword argument unpacking"
  | bareGenerator => "Generator expression must be parenthesized"
  | assignmentInArgument => "expression cannot contain assignment, perhaps you meant \"==\"?"
  | unpackInComprehension => "iterable unpacking cannot be used in comprehension"
  | comprehensionParentheses => "did you forget parentheses around the comprehension target?"
  | dictUnpackInComprehension => "dict unpacking cannot be used in dict comprehension"
  | starredHere => "cannot use starred expression here"
  | doubleStarredHere => "cannot use double starred expression here"
  | starredDictValue => "cannot use a starred expression in a dictionary value"
  | missingDictValue => "expression expected after dictionary key and ':'"
  | missingDictColon => "':' expected after dictionary key"
  | missingElse => "expected 'else' after 'if' expression"
  | defaultBeforePlain => "non-default argument follows default argument"
  | parenthesizedParameters => "Function parameters cannot be parenthesized"
  | parenthesizedLambdaParameters => "Lambda expression parameters cannot be parenthesized"
  | nothingBeforeSlash => "at least one argument must precede /"
  | repeatedSlash => "/ may appear only once"
  | slashAfterStar => "/ must be ahead of *"
  | slashStarComma => "expected comma between / and *"
  | bareStar => "named arguments must follow bare *"
  | defaultForStar => "var-positional argument cannot have default value"
  | repeatedStar => "* argument may appear only once"
  | defaultForDoubleStar => "var-keyword argument cannot have default value"
  | afterDoubleStar => "arguments cannot follow var-keyword argument"
  | missingDefault => "expected default value expression"
  | trailingImportComma => "trailing comma not allowed without surrounding parentheses"
  | missingHandler => "expected 'except' or 'finally' block"
  | mixedHandlers => "cannot have both 'except' and 'except*' on the same 'try'"
  | barehandedExceptTuple => "multiple exception types must be parenthesized"
  | missingExceptType => "expected one or more exception types"
  | wildcardTarget => "cannot use '_' as a target"
  | badPatternTarget => "invalid pattern target"
  | positionalAfterKeywordPattern => "positional patterns follow keyword patterns"
  | patternNeedsReal => "real number required in complex literal"
  | patternNeedsImaginary => "imaginary number required in complex literal"
  | bytesNotAscii => "bytes can only contain ASCII literal characters"
  | mixedBytes => "cannot mix bytes and nonbytes literals"
  | badEscape d => s!"(unicode error) 'unicodeescape' codec can't decode bytes in position {d}"
  | badBytesEscape d => s!"(value error) {d}"
  | lonelyBrace => "f-string: single '\x7d' is not allowed"
  | fieldNestedTooDeep => "f-string: expressions nested too deeply"
  | fieldBackslash => "f-string expression part cannot include a backslash"
  | fieldComment => "f-string expression part cannot include '#'"
  | fieldTooManyBrackets => "f-string: too many nested parenthesis"
  | fieldUnmatched c => s!"f-string: unmatched '{c}'"
  | fieldMismatched c o =>
      s!"f-string: closing parenthesis '{c}' does not match opening parenthesis '{o}'"
  | fieldUnterminatedString => "f-string: unterminated string"
  | fieldUnclosed => "f-string: expecting '\x7d'"
  | fieldBadConversion => "f-string: invalid conversion character: expected 's', 'r', or 'a'"
  | fieldEmpty => "f-string: empty expression not allowed"
  | fieldEmptyBefore c => s!"f-string: expression required before '{c}'"
  | inField cause => "f-string: " ++ message cause

end Complaint

/-- A refused text: the cause, and the line and the column it is reported at.  A text that is
refused before it is read has no line. -/
structure Refusal where
  cause : Complaint
  line : Option Nat
  column : Int
  deriving DecidableEq, Repr

end QualityGate.Source
