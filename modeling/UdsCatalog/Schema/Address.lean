import UdsCatalog.Files.Path

/-!
Absolute addresses: a scheme, a colon and the rest. Addresses of some schemes must name a host.
-/

namespace UdsCatalog.Schema

/-- What follows the colon of an address. -/
inductive SchemeKind where
  /-- A host comes first, and must be there. -/
  | hosted
  /-- A host may come first. -/
  | file
  /-- A host comes only behind two slashes. -/
  | free
  deriving DecidableEq, Repr

/-- The kind of a scheme. -/
def SchemeKind.ofName (name : String) : SchemeKind :=
  if ["http", "https", "ws", "wss", "ftp"].contains name then .hosted
  else if name == "file" then .file
  -- An unknown scheme may put anything behind its colon.
  else .free

/-- The characters of an address that count: no controls and blanks around it, no breaks in it. -/
def addressChars (text : String) : List Char :=
  let isOuter (c : Char) := c.toNat ≤ 0x20
  let inner := ((text.toList.dropWhile isOuter).reverse.dropWhile isOuter).reverse
  -- Breaks are dropped wherever they are, and only then is the address taken apart.
  inner.filter fun c => c != '\t' && c != '\n' && c != '\r'

/-- Splits an address into its scheme, in small letters, and what follows the colon. -/
def splitScheme? (chars : List Char) : Option (String × List Char) :=
  let isSchemeChar (c : Char) := c.isAlphanum || c == '+' || c == '-' || c == '.'
  let scheme := chars.takeWhile isSchemeChar
  match scheme, chars.drop scheme.length with
  | first :: _, ':' :: rest =>
    -- The first character must be a letter, though digits and signs may follow.
    if first.isAlpha then some (String.ofList (scheme.map Char.toLower), rest) else none
  | _, _ => none

/-- The digits of a number in a host: those of base ten, eight behind a zero, or sixteen behind a zero
and an x. -/
def hostNumber? (part : List Char) : Option Nat :=
  let (base, digits) : Nat × List Char := match part with
    | '0' :: 'x' :: rest | '0' :: 'X' :: rest => (16, rest)
    -- A lone zero has base ten. Any digit behind it makes the base eight.
    | '0' :: first :: rest => (8, first :: rest)
    | digits => (10, digits)
  let value? (c : Char) : Option Nat :=
    let value :=
      if c.isDigit then c.toNat - '0'.toNat
      else if 'a' ≤ c ∧ c ≤ 'f' then c.toNat - 'a'.toNat + 10
      else if 'A' ≤ c ∧ c ≤ 'F' then c.toNat - 'A'.toNat + 10
      -- Too large for every base, so the comparison below refuses it.
      else 16
    if value < base then some value else none
  (digits.mapM value?).map (·.foldl (fun value digit => value * base + digit) 0)

/-- The parts of a host between points. A point at the end is not counted. -/
def hostParts (host : List Char) : List (List Char) :=
  let parts := Files.splitAt '.' host
  -- One point at the end marks a full name. A second one leaves an empty part.
  if 1 < parts.length && parts.getLast? == some [] then parts.dropLast else parts

/-- A host whose last part is a number is an address of four bytes; its last part may hold several. -/
def isNumericHost (parts : List (List Char)) : Bool :=
  match parts.mapM hostNumber? with
  | some numbers =>
    parts.all (!·.isEmpty) && numbers.length ≤ 4 && numbers.dropLast.all (· ≤ 255) &&
      -- With fewer than four parts, the last one stands for all remaining bytes.
      numbers.getLast?.any (· < Nat.pow 256 (5 - numbers.length))
  | none => false

/-- The name of a host: some characters may not stand in it, and numbers must make an address. -/
def isHostName (host : List Char) : Bool :=
  let forbidden := " #/:<>?@[\\]^|%".toList
  let parts := hostParts host
  -- Digits that are no number of their base count here as well, and make the host wrong.
  let endsInNumber := parts.getLast?.any fun last =>
    !last.isEmpty && (last.all Char.isDigit || (hostNumber? last).isSome)
  !host.isEmpty && host.all (fun c => 0x20 < c.toNat && c.toNat != 0x7F && !forbidden.contains c) &&
    (!endsInNumber || isNumericHost parts)

/-- An address of eight pairs of bytes, of which a run of zeros may be left out. -/
def isPairedHost (host : List Char) : Bool :=
  let isPair (part : List Char) :=
    !part.isEmpty && part.length ≤ 4 && part.all fun c => (hostNumber? ['0', 'x', c]).isSome
  let groups (chars : List Char) := if chars.isEmpty then [] else Files.splitAt ':' chars
  -- Two colons in a row may stand once, for as many zeros as are missing.
  let halves := (host.zip (host.drop 1)).findIdx? (· == (':', ':'))
  match halves with
  | none => (groups host).length == 8 && (groups host).all isPair
  | some place =>
    let front := groups (host.take place)
    let back := groups (host.drop (place + 2))
    -- The gap stands for at least one pair.
    front.length + back.length < 8 && front.all isPair && back.all isPair

/-- The number of a channel is empty or takes at most two bytes. -/
def isChannel (chars : List Char) : Bool :=
  chars.all Char.isDigit &&
    chars.foldl (fun value c => value * 10 + (c.toNat - '0'.toNat)) 0 < 0x1_0000

/-- A host, and the number of a channel behind it. -/
def isHostWithChannel (kind : SchemeKind) (chars : List Char) : Bool :=
  match chars with
  -- Brackets keep the colons of a paired host apart from the one of the channel.
  | '[' :: rest =>
    match rest.dropWhile (· != ']') with
    | _ :: behind =>
      isPairedHost (rest.takeWhile (· != ']')) &&
        (match behind with
          | [] => true
          | ':' :: channel => isChannel channel
          | _ => false)
    | [] => false
  | _ =>
    let host := chars.takeWhile (· != ':')
    let channel := (chars.drop host.length).drop 1
    isChannel channel &&
      match kind with
      -- Nothing is known of hosts of other schemes, so numbers mean nothing here.
      | .free =>
        (host.isEmpty && chars.isEmpty) ||
          (!host.isEmpty && host.all fun c => 0x20 < c.toNat && !" #/:<>?@[\\]^|".toList.contains c)
      | _ => isHostName host

/-- A host with what may stand around it: a user in front, the number of a channel behind. -/
def isAuthority (kind : SchemeKind) (chars : List Char) : Bool :=
  match (Files.splitAt '@' chars).reverse with
  | [] => false
  | [host] => isHostWithChannel kind host
  -- Only the last of several signs divides. What is in front belongs to the user.
  | host :: _ => !host.isEmpty && isHostWithChannel kind host

/-- A text is an absolute address. -/
def isAddress (text : String) : Bool :=
  match splitScheme? (addressChars text) with
  | none => false
  | some (scheme, rest) =>
    let kind := SchemeKind.ofName scheme
    -- Known schemes read both slashes alike.
    let isSlash (c : Char) := c == '/' || (kind != .free && c == '\\')
    let authority (chars : List Char) :=
      chars.takeWhile fun c => !isSlash c && c != '?' && c != '#'
    match kind with
    -- There may be any number of slashes, or none.
    | .hosted => isAuthority kind (authority (rest.dropWhile isSlash))
    | .file | .free =>
      match rest with
      | a :: b :: rest =>
        if isSlash a && isSlash b then
          let host := authority rest
          match kind with
          | .file => host.isEmpty || isHostName host
          | _ => isAuthority kind host
        -- Without two slashes there is no host, and all the rest is a path.
        else true
      | _ => true

end UdsCatalog.Schema
