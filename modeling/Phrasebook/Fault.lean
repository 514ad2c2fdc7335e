import Phrasebook.Template.Segment

/-!
# What can go wrong

Every operation that can fail says why with a `Fault`.  Faults fall into groups: a value of a kind
for which an operation has no meaning, a number out of range, a text that is not what it should be,
and the rules of templates, slots, intents, catalogs, classifiers and settings.
-/

namespace Phrasebook

/-- Why a captured text is not a value of its slot; the texts are shown in the message. -/
inductive Rejection where
  | tooShort (least : String)
  | notNumber (raw : String)
  | notFinite (raw : String)
  | below (number least : String)
  | above (number greatest : String)
  | notBoolean (raw : String)
  | notDate (raw : String)
  | before (raw earliest : String)
  | after (raw latest : String)
  deriving DecidableEq, Repr

namespace Rejection

def message : Rejection → String
  | .tooShort least => "shorter than " ++ least ++ " characters"
  | .notNumber raw => quoted raw ++ " is not a number"
  | .notFinite raw => quoted raw ++ " is not a finite number"
  | .below number least => number ++ " is below " ++ least
  | .above number greatest => number ++ " is above " ++ greatest
  | .notBoolean raw => quoted raw ++ " is not a recognized boolean"
  | .notDate raw => quoted raw ++ " is not a recognized date"
  | .before raw earliest => quoted raw ++ " is before " ++ earliest
  | .after raw latest => quoted raw ++ " is after " ++ latest

end Rejection

/-- A rule that a text, a number or a declaration breaks. -/
inductive Invalid where
  | unreadableReal (text : String)
  | unreadableWhole (text : String)
  | tooManyDigits (count : Nat)
  | undefinedWhole
  | pairLength (position length : Nat)
  | template (malformed : Template.Malformed)
  | unknownSlotType (name : String)
  | unknownTransform (name : String)
  | negativeMinLength
  | maxLengthBelowOne
  | minLengthAboveMaxLength
  | minAboveMax
  | rejected (rejection : Rejection)
  | blankIntentId
  | patternsNotListed (id : String)
  | noPatterns (id : String)
  | unusablePattern (id : String)
  | thresholdOutOfRange (id : String)
  | priorityNotWhole (id : String)
  | priorityBelowOne (id : String)
  | intentExists (id : String)
  | intentMissing (id : String)
  | unknownMethod (written : String)
  | methodDisabled (name : String)
  | unknownDefaultMethod (name : String)
  | unknownLogLevel (name : String)
  | settingNotNumber (name raw : String)
  | settingNotWhole (name raw : String)
  | settingNotBoolean (name raw : String)
  | settingOutside (name least greatest value : String)
  | settingBelow (name least value : String)
  | nullInVariable
  | variableName
  | unwritableWhole
  | unwritableReal
  | unwritableText
  | unexpectedClientFailure
  deriving DecidableEq, Repr

namespace Invalid

def message : Invalid → String
  | .unreadableReal text => "could not convert string to float: " ++ quoted text
  | .unreadableWhole text =>
      "invalid literal for int() with base 10: " ++ String.ofList ((quoted text).toList.take 200)
  | .tooManyDigits count =>
      "Exceeds the limit (4300 digits) for integer string conversion: value has "
        ++ toString count ++ " digits; use sys.set_int_max_str_digits() to increase the limit"
  | .undefinedWhole => "cannot convert float NaN to integer"
  | .pairLength position length =>
      "dictionary update sequence element #" ++ toString position ++ " has length "
        ++ toString length ++ "; 2 is required"
  | .template malformed => malformed.message
  | .unknownSlotType name =>
      "Unknown slot type " ++ quoted name ++ "; expected one of string, number, boolean, date"
  | .unknownTransform name => quoted name ++ " is not a valid Transform"
  | .negativeMinLength => "minLength cannot be negative"
  | .maxLengthBelowOne => "maxLength must be at least 1"
  | .minLengthAboveMaxLength => "minLength cannot exceed maxLength"
  | .minAboveMax => "min cannot exceed max"
  | .rejected rejection => rejection.message
  | .blankIntentId => "Intent id cannot be empty"
  | .patternsNotListed id => "Intent " ++ id ++ ": patterns must be a sequence"
  | .noPatterns id => "Intent " ++ id ++ ": at least one pattern is required"
  | .unusablePattern id => "Intent " ++ id ++ ": patterns must be non-empty strings"
  | .thresholdOutOfRange id =>
      "Intent " ++ id ++ ": confidence threshold must be within [0, 1]"
  | .priorityNotWhole id => "Intent " ++ id ++ ": priority must be an integer"
  | .priorityBelowOne id => "Intent " ++ id ++ ": priority must be at least 1"
  | .intentExists id => "Intent '" ++ id ++ "' already exists"
  | .intentMissing id => "Intent '" ++ id ++ "' does not exist"
  | .unknownMethod written => written ++ " is not a valid DetectionMethod"
  | .methodDisabled name => "Detection method " ++ name ++ " is not enabled"
  | .unknownDefaultMethod name =>
      "Invalid DETECTION_METHOD: " ++ name
        ++ ". Must be one of ('pattern_matching', 'classifier', 'hybrid')"
  | .unknownLogLevel name => "Invalid LOG_LEVEL: " ++ name ++ "."
  | .settingNotNumber name raw => name ++ " must be a number, got " ++ quoted raw
  | .settingNotWhole name raw => name ++ " must be an integer, got " ++ quoted raw
  | .settingNotBoolean name raw => name ++ " must be a boolean, got " ++ quoted raw
  | .settingOutside name least greatest value =>
      name ++ " must be between " ++ least ++ " and " ++ greatest ++ ", got " ++ value
  | .settingBelow name least value => name ++ " must be at least " ++ least ++ ", got " ++ value
  | .nullInVariable => "embedded null byte"
  | .variableName => "illegal environment variable name"
  | .unwritableWhole =>
      "Exceeds the limit (4300 digits) for integer string conversion; use "
        ++ "sys.set_int_max_str_digits() to increase the limit"
  | .unwritableReal => "Out of range float values are not JSON compliant"
  | .unwritableText => "Unknown format code 'f' for object of type 'str'"
  | .unexpectedClientFailure => "unexpected client failure"

end Invalid

inductive Overflow where
  | integerTooLarge
  | infiniteWhole
  | dateOutOfRange
  deriving DecidableEq, Repr

def Overflow.message : Overflow → String
  | .integerTooLarge => "int too large to convert to float"
  | .infiniteWhole => "cannot convert float infinity to integer"
  | .dateOutOfRange => "date value out of range"

/-- Why a classifier has no answer.  A failing classifier gives its own reason as text. -/
inductive Unanswered where
  | notConfigured
  | noObject
  | badJson (reason : String)
  | notAnObject
  | confidenceNotNumber
  | noContent
  | exhausted (attempts : Int)
  | neverTried
  | reported (reason : String)
  deriving DecidableEq, Repr

def Unanswered.message : Unanswered → String
  | .notConfigured => "No secondary classifier is configured."
  | .noObject => "Classifier response contained no JSON object."
  | .badJson reason => "Classifier response is not valid JSON: " ++ reason
  | .notAnObject => "Classifier response JSON is not an object."
  | .confidenceNotNumber => "Classifier confidence is not a number."
  | .noContent => "Classifier response contained no content."
  | .exhausted attempts =>
      "Classifier request failed after " ++ toString attempts ++ " attempts."
  | .neverTried => "Classifier request failed unexpectedly."
  | .reported reason => reason

/-- Why a web address cannot be used. -/
inductive BadAddress where
  | tooLong
  | unprintable (c : String) (position : Nat)
  | fourPartHost (host : String)
  | bracketedHost (host : String)
  | portText (text : String)
  | doubleSlash
  | colon
  deriving DecidableEq, Repr

def BadAddress.message : BadAddress → String
  | .tooLong => "URL too long"
  | .unprintable c position =>
      "Invalid non-printable ASCII character in URL, " ++ quoted c ++ " at position "
        ++ toString position ++ "."
  | .fourPartHost host => "Invalid IPv4 address: " ++ quoted host
  | .bracketedHost host => "Invalid IPv6 address: " ++ quoted host
  | .portText text => "Invalid port: " ++ quoted text
  | .doubleSlash => "Relative URLs cannot have a path starting with '//'"
  | .colon => "Relative URLs cannot have a path starting with ':'"

/-- What ends an operation from outside: a failing part of the program, or containers of a text that
stand too deep inside each other for the reader. -/
inductive Crash where
  | client
  | server
  | nesting (container : String)
  deriving DecidableEq, Repr

def Crash.message : Crash → String
  | .client => "client crashed"
  | .server => "server failed"
  | .nesting container =>
      "maximum recursion depth exceeded while decoding a JSON " ++ container
        ++ " from a unicode string"

inductive Fault where
  /-- The operation has no meaning for values of this kind. -/
  | unsuitable
  /-- The value lacks the property that was asked of it. -/
  | lacking
  | invalid (cause : Invalid)
  | overflow (cause : Overflow)
  | unanswered (cause : Unanswered)
  | address (cause : BadAddress)
  | crash (cause : Crash)
  deriving DecidableEq, Repr

namespace Fault

def message : Fault → String
  | .unsuitable => "unsuitable value"
  | .lacking => "missing property"
  | .invalid cause => cause.message
  | .overflow cause => cause.message
  | .unanswered cause => cause.message
  | .address cause => cause.message
  | .crash cause => cause.message

end Fault

end Phrasebook
