import SentenceGraph.Json.Reader
import SentenceGraph.Text.Quoted

/-!
# Addresses

The parts of a web address that this library looks at: the host, and the path with its escapes
resolved.
-/

namespace SentenceGraph.Address

/-- What stands before and after the first occurrence of a mark. -/
def splitFirst? (mark : List Char) : List Char → Option (List Char × List Char)
  | [] => none
  | character :: rest =>
      if mark.isPrefixOf (character :: rest) then some ([], (character :: rest).drop mark.length)
      else (splitFirst? mark rest).map fun (before, after) => (character :: before, after)

/-- The part after the scheme, or everything if there is no scheme. -/
def afterScheme (address : List Char) : List Char :=
  match splitFirst? ['/', '/'] address with
  | some (_, rest) => rest
  | none => address

/-- The host of an address, with its port. -/
def host (address : String) : String :=
  String.ofList ((afterScheme address.toList).takeWhile (· != '/'))

/-- Resolves the escapes `%XX` in a sequence of octets. -/
def resolveEscapes : List UInt8 → List UInt8
  | 0x25 :: first :: second :: rest =>
      match Json.hexValue? (Char.ofNat first.toNat), Json.hexValue? (Char.ofNat second.toNat) with
      | some high, some low => UInt8.ofNat (16 * high + low) :: resolveEscapes rest
      | _, _ => 0x25 :: resolveEscapes (first :: second :: rest)
  | octet :: rest => octet :: resolveEscapes rest
  | [] => []

/-- The text with its escapes resolved; a text that they do not make well-formed stays as it is. -/
def decode (text : String) : String :=
  let octets := resolveEscapes text.toUTF8.toList
  (String.fromUTF8? (ByteArray.mk octets.toArray)).getD text

/-- Whether a path ends before the character, as a query or a fragment follows. -/
def endsPath (character : Char) : Bool :=
  character == '?' || character == '#'

/-- The path at the start of a request target, with its escapes resolved. -/
def requestPath (target : String) : String :=
  decode (String.ofList (target.toList.takeWhile fun character => !endsPath character))

/-- The path of an address, with its escapes resolved. An address without a scheme is a path. -/
def path (address : String) : String :=
  let target :=
    match splitFirst? [':', '/', '/'] address.toList with
    | some (_, rest) => rest.dropWhile fun character => character != '/' && !endsPath character
    | none => '/' :: address.toList.dropWhile (· == '/')
  let found := requestPath (String.ofList target)
  if found == "" then "/" else found

/-- Whether a character of a path is written without an escape. -/
def isPlain (character : Char) : Bool :=
  0x20 < character.toNat && character.toNat < 0x7F &&
    !(['"', '<', '>', '`', '\x7b', '\x7d'].contains character)

/-- The text with all characters escaped that a path cannot hold. -/
def encode (text : String) : String :=
  let escape (octet : UInt8) : List Char :=
    '%' :: (Text.hexDigits 2 octet.toNat).map Char.toUpper
  String.ofList (text.toList.flatMap fun character =>
    if isPlain character then [character]
    else (String.singleton character).toUTF8.toList.flatMap escape)

def lastSegment (path : String) : String :=
  String.ofList (path.toList.reverse.takeWhile (· != '/')).reverse

end SentenceGraph.Address
