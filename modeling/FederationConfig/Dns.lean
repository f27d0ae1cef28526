import FederationConfig.Text.Basic

namespace FederationConfig.Dns

def subdomainMaxLength : Nat := 253

def labelMaxLength : Nat := 63

def subdomainPattern : String := "[a-z0-9]([-a-z0-9]*[a-z0-9])?(\\.[a-z0-9]([-a-z0-9]*[a-z0-9])?)*"

def labelPattern : String := "[a-z]([-a-z0-9]*[a-z0-9])?"

def isLowerLetter (c : Char) : Bool := 'a' ≤ c && c ≤ 'z'

def isLowerAlphanumeric (c : Char) : Bool := isLowerLetter c || c.isDigit

/-- What stands in front of the next character of a name. -/
inductive Cursor where
  | start
  | alphanumeric
  | hyphen
  deriving DecidableEq, Repr

/-- A label starts with an alphanumeric character, and only such a one ends it. -/
def Cursor.next? : Cursor → Char → Option Cursor
  | .start, c => if isLowerAlphanumeric c then some .alphanumeric else none
  | .alphanumeric, c =>
    if isLowerAlphanumeric c then some .alphanumeric
    else if c = '-' then some .hyphen
    else if c = '.' then some .start
    else none
  | .hyphen, c =>
    if isLowerAlphanumeric c then some .alphanumeric
    else if c = '-' then some .hyphen
    else none

def Cursor.accepts : Cursor → List Char → Bool
  | cursor, [] => cursor = .alphanumeric
  | cursor, c :: rest => match cursor.next? c with
    | some next => next.accepts rest
    | none => false

def isSubdomain (name : List Char) : Bool := Cursor.start.accepts name

def isLabel : List Char → Bool
  | [] => false
  | c :: rest => isLowerLetter c && !rest.contains '.' && Cursor.alphanumeric.accepts rest

def tooLong (limit : Nat) : String := "must be no more than " ++ limit.repr ++ " characters"

def subdomainSyntax : String :=
  "a lowercase RFC 1123 subdomain must consist of lower case alphanumeric characters, " ++
  "'-' or '.', and must start and end with an alphanumeric character (e.g. 'example.com', " ++
  "regex used for validation is '" ++ subdomainPattern ++ "')"

def labelSyntax : String :=
  "a DNS-1035 label must consist of lower case alphanumeric characters or '-', " ++
  "start with an alphabetic character, and end with an alphanumeric character " ++
  "(e.g. 'my-name', or 'abc-123', regex used for validation is '" ++ labelPattern ++ "')"

def subdomainProblems (name : String) : List String :=
  (if subdomainMaxLength < name.utf8ByteSize then [tooLong subdomainMaxLength] else []) ++
    (if isSubdomain name.toList then [] else [subdomainSyntax])

def labelProblems (name : String) : List String :=
  (if labelMaxLength < name.utf8ByteSize then [tooLong labelMaxLength] else []) ++
    (if isLabel name.toList then [] else [labelSyntax])

def labelCount (name : String) : Nat := (Text.split '.' name.toList).length

end FederationConfig.Dns
