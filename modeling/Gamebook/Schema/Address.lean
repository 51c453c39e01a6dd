import Gamebook.Text.Digit
import Gamebook.Text.Lines
import Gamebook.Text.Quoted

/-! Addresses, and what keeps one from being taken apart.

Only the authority of an address can be at fault: what stands between two slashes and the next
slash, question mark or hash. In brackets it may hold an address of the sixth version of the
protocol, or of a version to come. -/

namespace Gamebook.Schema

/-- Why an address cannot be taken apart. -/
inductive AddressFault where
  -- A bracket without its counterpart.
  | bracket
  -- Brackets around what starts like a version to come, but is none.
  | version
  | noHost (host : String)
  -- Brackets around an address of the fourth version.
  | fourthVersion
  -- A character that stands for others, with a delimiter among them.
  | disguised (authority : String)

/-- A fault of an address in words. -/
def AddressFault.message : AddressFault → String
  | bracket => "Invalid IPv6 URL"
  | version => "IPvFuture address is invalid"
  | noHost host => s!"{Text.quoted host} does not appear to be an IPv4 or IPv6 address"
  | fourthVersion => "An IPv4 address cannot be in brackets"
  | disguised authority =>
    s!"netloc '{authority}' contains invalid characters under NFKC normalization"

namespace Address

/-- An address without white space before it, and without tabs and line ends in it. -/
def withoutControls (address : List Char) : List Char :=
  (address.dropWhile fun c => c.toNat ≤ 0x20).filter fun c => c ≠ '\t' ∧ c ≠ '\n' ∧ c ≠ '\r'

/-- Whether a text can be the scheme of an address. -/
def isScheme (text : List Char) : Bool :=
  text.head?.any Char.isAlpha &&
    text.all fun c => c.isAlphanum || c == '+' || c == '-' || c == '.'

/-- An address without its scheme and the colon behind it, if it has one. -/
def withoutScheme (address : List Char) : List Char :=
  let scheme := address.takeWhile (· ≠ ':')
  match address.drop scheme.length with
  | _ :: rest => if isScheme scheme then rest else address
  | [] => address

/-- The authority of an address; it is empty where there is none. -/
def authority (address : List Char) : List Char :=
  match withoutScheme (withoutControls address) with
  | '/' :: '/' :: rest => rest.takeWhile fun c => c ≠ '/' ∧ c ≠ '?' ∧ c ≠ '#'
  | _ => []

/-- Whether a text is a number of one byte, without zeros before it. -/
def isOctet (text : List Char) : Bool :=
  match text.mapM Text.asciiDigit? with
  | some digits =>
    !digits.isEmpty && digits.length ≤ 3 && (digits == [0] || digits.head? != some 0) &&
      Text.ofDigits 10 digits ≤ 255
  | none => false

/-- Whether a text is an address of the fourth version: four bytes with dots between them. -/
def isFourth (text : List Char) : Bool :=
  let octets := Text.splitAt '.' text
  octets.length == 4 && octets.all isOctet

/-- Whether a text is a hexadecimal number of two bytes. -/
def isGroup (text : List Char) : Bool :=
  !text.isEmpty && text.length ≤ 4 && text.all fun c => (Text.hexDigit? c).isSome

/-- The groups of an address of the sixth version; an address of the fourth version at the end
counts as two. -/
def groupsOf (text : List Char) : List (List Char) :=
  let groups := Text.splitAt ':' text
  match groups.getLast? with
  | some last => if isFourth last then groups.dropLast ++ [['0'], ['0']] else groups
  | none => groups

/-- Groups on one side of those that are left out; where there are none, a colon begins or ends the
address. -/
def sideOf (groups : List (List Char)) : List (List Char) := if groups = [[]] then [] else groups

/-- Whether a text is an address of the sixth version: eight groups with colons between them, of
which some in a row may be left out once. -/
def isSixth (text : List Char) : Bool :=
  let groups := groupsOf text
  -- An empty group that neither begins nor ends the address says where others are left out.
  match (List.range groups.length).filter fun place =>
      0 < place && place + 1 < groups.length && groups[place]? == some [] with
  | [] => groups.length == 8 && groups.all isGroup
  | [place] =>
    let written := sideOf (groups.take place) ++ sideOf (groups.drop (place + 1))
    written.length ≤ 7 && written.all isGroup
  | _ => false

/-- Whether a text is an address of the sixth version, which may name a zone after a percent sign.
-/
def isZoned (text : List Char) : Bool :=
  match Text.splitAt '%' text with
  | [address] => isSixth address
  | [address, zone] => isSixth address && !zone.isEmpty
  | _ => false

/-- Whether a text is an address of a version to come: `v`, a hexadecimal number, a dot, and more.
-/
def isFuture (text : List Char) : Bool :=
  let digits := (text.drop 1).takeWhile fun c => (Text.hexDigit? c).isSome
  match text.drop (1 + digits.length) with
  | '.' :: _ :: _ => !digits.isEmpty
  | _ => false

/-- What is wrong with a host in brackets. -/
def hostFault? (host : List Char) : Option AddressFault :=
  if host.head? = some 'v' then if isFuture host then none else some .version
  else if isFourth host then some .fourthVersion
  else if isZoned host then none
  else some (.noHost (String.ofList host))

/-- What is wrong with the brackets of an authority. -/
def bracketFault? (authority : List Char) : Option AddressFault :=
  if authority.contains '[' != authority.contains ']' then some .bracket
  else if authority.contains '[' then
    hostFault? (((authority.dropWhile (· ≠ '[')).drop 1).takeWhile (· ≠ ']'))
  else none

/-- The characters that stand for others with a slash, a question mark, a hash, an at sign or a
colon among them, by their numbers. -/
def disguises : List Nat := [
  0x2047, 0x2048, 0x2049, 0x2100, 0x2101, 0x2105, 0x2106, 0x2a74, 0xfe13, 0xfe16, 0xfe55, 0xfe56,
  0xfe5f, 0xfe6b, 0xff03, 0xff0f, 0xff1a, 0xff1f, 0xff20]

/-- Why an address cannot be taken apart, if it cannot. -/
def fault? (address : String) : Option AddressFault :=
  let authority := authority address.toList
  (bracketFault? authority).or
    (if authority.any fun c => disguises.contains c.toNat
      then some (.disguised (String.ofList authority)) else none)

end Address

end Gamebook.Schema
