import FieldRules.Text.Case
import FieldRules.Text.Quoted
import FieldRules.Uri.Address

/-!
# Parts of URIs

A URI is split into its scheme, the authority behind two slashes, the path, the query and the fragment.
The authority names a host and may name a port and a user.
-/

namespace FieldRules

/-- The parts of a URI. -/
structure Uri where
  scheme : List Char := []
  authority : List Char := []
  path : List Char := []
  query : List Char := []
  fragment : List Char := []
  deriving DecidableEq, Repr, Inhabited

namespace Uri

/-- Why a text cannot be split. -/
inductive Problem where
  | brackets
  | futureAddress
  | dottedInBrackets
  | noAddress (quoted : String)
  | compatibility (authority : String)
  | portText (quoted : String)
  | portRange
  deriving DecidableEq, Repr

/-- How a cause is reported. -/
def Problem.message : Problem → String
  | brackets => "Invalid IPv6 URL"
  | futureAddress => "IPvFuture address is invalid"
  | dottedInBrackets => "An IPv4 address cannot be in brackets"
  | noAddress quoted => s!"{quoted} does not appear to be an IPv4 or IPv6 address"
  | compatibility authority =>
    "netloc '" ++ authority ++ "' contains invalid characters under NFKC normalization"
  | portText quoted => s!"Port could not be cast to integer value as {quoted}"
  | portRange => "Port out of range 0-65535"

/-- A letter without any mark. -/
def isPlainLetter (c : Char) : Bool :=
  'a' ≤ c && c ≤ 'z' || 'A' ≤ c && c ≤ 'Z'

/-- A character of a scheme. -/
def isSchemeChar (c : Char) : Bool :=
  isPlainLetter c || isPlainDigit c || c == '+' || c == '-' || c == '.'

/-- Characters that stand for text in which the authority would end. -/
def foldedDelimiters : List Nat :=
  [0x2047, 0x2048, 0x2049, 0x2100, 0x2101, 0x2105, 0x2106, 0x2A74, 0xFE13, 0xFE16, 0xFE55, 0xFE56,
    0xFE5F, 0xFE6B, 0xFF03, 0xFF0F, 0xFF1A, 0xFF1F, 0xFF20]

/-- The text without what is not seen in it: control characters and blanks in front, tabs and ends of
lines anywhere. -/
def visible (s : List Char) : List Char :=
  (s.dropWhile fun c => c.toNat ≤ 0x20).filter fun c => c != '\t' && c != '\r' && c != '\n'

/-- The scheme in small letters and the rest; no scheme if there is none. -/
def splitScheme (s : List Char) : List Char × List Char :=
  match Text.cutAt? [':'] s with
  | some (scheme, rest) =>
    if (scheme.head?.map isPlainLetter).getD false && scheme.all isSchemeChar then
      (scheme.map Char.toLower, rest)
    else ([], s)
  | none => ([], s)

/-- Whether a character ends the authority. -/
def endsAuthority (c : Char) : Bool :=
  c == '/' || c == '?' || c == '#'

/-- Refuses an address in brackets that is none. -/
def checkBracketed (host : List Char) : Except Problem Unit :=
  if host.head? == some 'v' then
    if isFutureAddress host then pure () else throw .futureAddress
  else if isDottedAddress host then throw .dottedInBrackets
  else if isZonedAddress host then pure ()
  else throw (.noAddress (String.ofList (Text.quote host)))

/-- What stands between the first opening bracket and the closing one. -/
def bracketed (s : List Char) : List Char :=
  ((s.dropWhile (· != '[')).drop 1).takeWhile (· != ']')

/-- Refuses an authority with brackets that do not fit or hold no address. -/
def checkBrackets (authority : List Char) : Except Problem Unit :=
  match authority.contains '[', authority.contains ']' with
  | true, true => checkBracketed (bracketed authority)
  | false, false => pure ()
  | _, _ => throw .brackets

/-- Refuses an authority with characters that stand for its end. -/
def checkFolded (authority : List Char) : Except Problem Unit :=
  if authority.any fun c => foldedDelimiters.contains c.toNat then
    throw (.compatibility (String.ofList authority))
  else pure ()

/-- The text before a character and the text behind it. -/
def splitOffAt (c : Char) (s : List Char) : List Char × List Char :=
  (Text.cutAt? [c] s).getD (s, [])

/-- Splits a text into the parts of a URI. -/
def split (s : List Char) : Except Problem Uri := do
  let (scheme, rest) := splitScheme (visible s)
  let (authority, rest) ← match rest with
    | '/' :: '/' :: rest => do
      let authority := rest.takeWhile fun c => !endsAuthority c
      checkBrackets authority
      pure (authority, rest.drop authority.length)
    | _ => pure ([], rest)
  -- The fragment goes first, as a question mark behind its sign starts no query.
  let (rest, fragment) := splitOffAt '#' rest
  let (path, query) := splitOffAt '?' rest
  checkFolded authority
  return { scheme, authority, path, query, fragment }

/-- The authority without the user. -/
def hostAndPort (u : Uri) : List Char :=
  (u.authority.reverse.takeWhile (· != '@')).reverse

/-- The host as it is written, and what is written as the port. -/
def hostInfo (u : Uri) : List Char × List Char :=
  match Text.cutAt? ['['] u.hostAndPort with
  | some (_, rest) =>
    let (host, rest) := splitOffAt ']' rest
    (host, (splitOffAt ':' rest).2)
  | none => splitOffAt ':' u.hostAndPort

/-- The host in small letters, its zone apart. -/
def host? (u : Uri) : Option (List Char) :=
  match u.hostInfo.1 with
  | [] => none
  | host =>
    let name := host.takeWhile (· != '%')
    some (Text.lower name ++ host.drop name.length)

/-- The port, if one is written. -/
def port? (u : Uri) : Except Problem (Option Nat) :=
  match u.hostInfo.2 with
  | [] => pure none
  | port =>
    if port.all isPlainDigit then
      if plainNumber port ≤ 65535 then pure (some (plainNumber port)) else throw .portRange
    else throw (.portText (String.ofList (Text.quote port)))

end Uri

end FieldRules
