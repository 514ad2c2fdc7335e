import Phrasebook.Fault
import Phrasebook.Numeral

/-!
# Web addresses

An address may have a scheme, an authority and a path, a query and a fragment behind it; the
authority may have a user before its host, and a number behind it.  Only what makes an address
unusable is looked for.
-/

namespace Phrasebook.Address

def longest : Nat := 65536

/-- The text before the first of some characters, and the text from there on. -/
def spanBefore (stops : List Char) (text : List Char) : List Char × List Char :=
  (text.takeWhile fun c => !stops.contains c, text.dropWhile fun c => !stops.contains c)

def isSchemeChar (c : Char) : Bool := c.isAlphanum || c == '+' || c == '.' || c == '-'

/-- Whether an address names a scheme, and what follows the colon behind it.  A colon may stand at
the start with no name before it. -/
def afterScheme (text : List Char) : Bool × List Char :=
  let name := text.takeWhile isSchemeChar
  match text.drop name.length, name.head? with
  | ':' :: rest, none => (false, rest)
  | ':' :: rest, some first => if first.isAlpha then (true, rest) else (false, text)
  | _, _ => (false, text)

/-- The authority behind two slashes, and the path. -/
def splitAuthority : List Char → List Char × List Char
  | '/' :: '/' :: rest =>
      let (authority, after) := spanBefore ['/', '?', '#'] rest
      (authority, (spanBefore ['?', '#'] after).1)
  | text => ([], (spanBefore ['?', '#'] text).1)

/-- The text up to the last occurrence of a character, with it, and what follows. -/
def splitAfterLast (c : Char) (text : List Char) : List Char × List Char :=
  let after := text.reverse.takeWhile (· != c)
  (text.take (text.length - after.length), after.reverse)

/-- The user, the host, and the text of the number of an authority.  A host may stand in square
brackets; else it ends before a colon. -/
def splitHost (authority : List Char) : List Char × List Char × List Char :=
  let (user, rest) := splitAfterLast '@' authority
  let (bracketed, afterBracket) := splitAfterLast ']' rest
  let (host, after) :=
    if rest.head? == some '[' && !bracketed.isEmpty then (bracketed, afterBracket)
    else spanBefore [':'] rest
  (user.dropLast, host,
    match after with
    | ':' :: number => number
    | number => number)

/-- Four runs of digits with a character between neighbours; `left` more runs are to come, and
`started` says whether the present one has a digit. -/
def isFourPart : (left : Nat) → (started : Bool) → List Char → Bool
  | left, started, [] => left == 0 && started
  | left, started, c :: rest =>
      (c.isDigit && isFourPart left true rest)
        || (started && 0 < left && isFourPart (left - 1) false rest)

def isOctet (digits : List Char) : Bool :=
  !digits.isEmpty && digits.all Char.isDigit && digits.length ≤ 3
    && (digits.length == 1 || digits.head? != some '0') && Numeral.natOfDigits 0 digits ≤ 255

/-- Four numbers of a byte each, with points between them. -/
def isFourOctets (host : List Char) : Bool :=
  let octets := host.splitOn '.'
  octets.length == 4 && octets.all isOctet

def isHexGroup (digits : List Char) : Bool :=
  !digits.isEmpty && digits.length ≤ 4
    && digits.all fun c => c.isDigit || ('a' ≤ c && c ≤ 'f') || ('A' ≤ c && c ≤ 'F')

/-- The groups of a host between colons; four octets at the end stand for two groups. -/
def groups? (host : List Char) : Option (List (List Char)) :=
  let groups := host.splitOn ':'
  match groups.getLast? with
  | some last =>
      if last.contains '.' then
        if isFourOctets last then some (groups.dropLast ++ [['0'], ['0']]) else none
      else some groups
  | none => none

/-- The places of groups with nothing in them, the first and the last one apart. -/
def gaps (groups : List (List Char)) : Nat :=
  (groups.drop 1).dropLast.countP (·.isEmpty)

/-- The groups at one side of a gap: none if the host starts or ends with the gap. -/
def isSide (groups : List (List Char)) : Bool := groups == [[]] || groups.all isHexGroup

/-- Eight groups, or fewer ones with one gap that stands for the others. -/
def isEightGroups (groups : List (List Char)) : Bool :=
  match gaps groups with
  | 0 => groups.length == 8 && groups.all isHexGroup
  | 1 =>
      let before := groups.take 1 ++ (groups.drop 1).takeWhile fun group => !group.isEmpty
      let after := groups.drop (before.length + 1)
      let written := (before ++ after).countP fun group => !group.isEmpty
      isSide before && isSide after && written < 8
  | _ => false

/-- A host in brackets, without them; a zone may follow a percent sign. -/
def isBracketable (host : List Char) : Bool :=
  let (address, zone) := spanBefore ['%'] host
  !host.contains '/' && (zone.isEmpty || (1 < zone.length && !(zone.drop 1).contains '%'))
    && 3 ≤ (address.splitOn ':').length
    && ((groups? address).map fun groups => groups.length ≤ 9 && isEightGroups groups).getD false

def checkHost (host : List Char) : Except BadAddress Unit :=
  if isFourPart 3 false host then
    if isFourOctets host then .ok () else .error (.fourPartHost (String.ofList host))
  else if host.head? == some '[' && host.getLast? == some ']' && 1 < host.length then
    if isBracketable (host.drop 1).dropLast then .ok ()
    else .error (.bracketedHost (String.ofList host))
  else .ok ()

def checkNumber (digits : List Char) : Except BadAddress Unit :=
  if digits.isEmpty then .ok ()
  else
    match Numeral.whole (String.ofList digits) with
    | .ok _ => .ok ()
    | .error _ => .error (.portText (String.ofList digits))

/-- An address without scheme and authority is a path that stands for itself. -/
def checkPath (alone : Bool) (path : List Char) : Except BadAddress Unit :=
  match alone, path with
  | true, '/' :: '/' :: _ => .error .doubleSlash
  | true, ':' :: _ => .error .colon
  | _, _ => .ok ()

def isUnprintable (c : Char) : Bool := c.toNat < 32 || c.toNat == 127

def checkCharacters (text : List Char) : Except BadAddress Unit :=
  if longest < text.length then .error .tooLong
  else
    match text.findIdx? isUnprintable with
    | some position =>
        .error (.unprintable (String.ofList (text.drop position |>.take 1)) position)
    | none => .ok ()

/-- Whether an address can be used, or the first thing that speaks against it. -/
def check (address : String) : Except BadAddress Unit := do
  let text := address.toList
  checkCharacters text
  let (hasScheme, afterName) := afterScheme text
  let (authority, path) := splitAuthority afterName
  let (user, host, number) := splitHost authority
  checkHost host
  checkNumber number
  checkPath (!hasScheme && user.isEmpty && host.isEmpty && number.isEmpty) path

end Phrasebook.Address
