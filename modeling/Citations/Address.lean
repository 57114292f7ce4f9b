import Citations.Fault
import Citations.Text.Basic
import Citations.Text.Case
import Citations.Data.Literal

/-! # Record addresses

A record's address names the file that its RIS export is saved as: the last segment of the
address's path, with the export's extension.

An address is split as the generic syntax says: a scheme before the first `:` (letters, digits,
`+`, `-`, `.`, starting with a letter), an authority after `//` up to the first `/`, `?` or `#`,
a fragment after the first `#`, a query after the first `?`, and parameters after the first `;`
of the path's last segment. Leading control characters and spaces are dropped first, and tabs
and line breaks anywhere.

The authority is checked: square brackets must come in pairs; the host after the last `@` is
either one address in brackets, with nothing before the opening bracket and nothing but a port
(`:…`) after the closing one, or a name up to its first `:`. Either way that host must be an
IPv6 address or a future address (`v1.x`). A host that is not ASCII must not hold a character
whose compatibility form is a delimiter (`／`, `＠`, `℀`, …).

* `Address.parse`: the parts of an address, or why its authority is malformed.
* `Address.lastSegment`: the last segment of its path, ignoring empty and `.` segments.
-/

namespace Citations

open Citations.Text

/-- The parts of an address. -/
structure Address where
  scheme : String := ""
  authority : String := ""
  path : String := ""
  params : String := ""
  query : String := ""
  fragment : String := ""

namespace Address

/-- Characters that may form a scheme. -/
def isSchemeChar (c : Char) : Bool :=
  ('a' ≤ c && c ≤ 'z') || ('A' ≤ c && c ≤ 'Z') || ('0' ≤ c && c ≤ '9') ||
    c = '+' || c = '-' || c = '.'

/-- Schemes whose paths may carry parameters; the empty scheme is one of them. The secure
`rtsps` is not: the record address `rtsps://h/a;b` names the file `a;b.ris`, its parameter kept
in the path. -/
def schemesWithParams : List String :=
  ["", "ftp", "hdl", "prospero", "http", "imap", "https", "shttp", "rtsp", "rtspu", "sip",
   "sips", "mms", "sftp", "tel"]

/-- Characters whose compatibility form holds a delimiter of addresses. -/
def delimiterForms : List Char :=
  ['⁇', '⁈', '⁉', '℀', '℁', '℅', '℆', '⩴', '︓', '︖', '﹕', '﹖', '﹟', '﹫', '＃', '／', '：',
   '？', '＠']

/-- The text before the first `c`, and the text after it if there is one. -/
def cut (c : Char) (cs : List Char) : List Char × Option (List Char) :=
  match cs.findIdx? (· = c) with
  | some i => (cs.take i, some (cs.drop (i + 1)))
  | none => (cs, none)

/-- A decimal octet of an IPv4 address: one to three ASCII digits, no leading zero, at most
255. -/
def isOctet (cs : List Char) : Bool :=
  !cs.isEmpty && cs.all (fun c => '0' ≤ c && c ≤ '9') && cs.length ≤ 3 &&
    (cs = ['0'] || cs.head? != some '0') &&
    cs.foldl (fun n c => n * 10 + (c.toNat - '0'.toNat)) 0 ≤ 255

/-- An IPv4 address: four octets joined by dots. -/
def isIPv4 (cs : List Char) : Bool :=
  !cs.contains '/' &&
    match splitList ['.'] cs with
    | [a, b, c, d] => isOctet a && isOctet b && isOctet c && isOctet d
    | _ => false

/-- A group of an IPv6 address: one to four ASCII hexadecimal digits. -/
def isHextet (cs : List Char) : Bool :=
  !cs.isEmpty && cs.length ≤ 4 &&
    cs.all (fun c => ('0' ≤ c && c ≤ '9') || ('a' ≤ c && c ≤ 'f') || ('A' ≤ c && c ≤ 'F'))

/-- The groups of an IPv6 address, with a final IPv4 address read as two groups; none when that
IPv4 address is malformed. -/
def groups (parts : List (List Char)) : Option (List (List Char)) :=
  match parts.getLast? with
  | some last =>
    if last.contains '.' then
      if isIPv4 last then some (parts.dropLast ++ [['0'], ['0']]) else none
    else some parts
  | none => some parts

/-- An IPv6 address: eight groups of hexadecimal digits joined by colons, where one `::` may
stand for a run of zero groups, the last two groups may be written as an IPv4 address, and a
zone may follow a `%`. -/
def isIPv6 (cs : List Char) : Bool :=
  let (addr, zone) := cut '%' cs
  let zoneOk := match zone with
    | some z => !z.isEmpty && !z.contains '%'
    | none => true
  if cs.contains '/' || !zoneOk || addr.isEmpty then false
  else
    let parts := splitList [':'] addr
    if parts.length < 3 then false
    else
      match groups parts with
      | none => false
      | some parts =>
        let n := parts.length
        let inner := ((parts.drop 1).take (n - 2)).zipIdx
        let skips := inner.filter (·.1.isEmpty)
        if n > 9 || skips.length > 1 then false
        else
          match skips with
          | [(_, k)] =>
            let skip := k + 1
            let hi := skip - (if (parts.headD []).isEmpty then 1 else 0)
            let lo := n - skip - 1 - (if (parts.getLastD []).isEmpty then 1 else 0)
            let leadOk := !(parts.headD []).isEmpty || skip = 1
            let trailOk := !(parts.getLastD []).isEmpty || n - skip - 1 = 1
            leadOk && trailOk && hi + lo < 8 &&
              ((parts.drop (skip - hi)).take hi).all isHextet && (parts.drop (n - lo)).all isHextet
          | _ => n = 8 && parts.all isHextet

/-- A future address in brackets: `v`, hexadecimal digits, a dot, and at least one more
character. -/
def isFutureAddress (cs : List Char) : Bool :=
  match cs with
  | 'v' :: rest =>
    let digits := rest.takeWhile (fun c => ('0' ≤ c && c ≤ '9') || ('a' ≤ c && c ≤ 'f') ||
      ('A' ≤ c && c ≤ 'F'))
    match rest.drop digits.length with
    | '.' :: more => !digits.isEmpty && !more.isEmpty && !more.contains '\n'
    | _ => false
  | _ => false

/-- Checks a host given in brackets. -/
def checkBracketedHost (host : List Char) : Except Fault Unit :=
  if host.head? = some 'v' then
    if isFutureAddress host then .ok () else .error (.invalidAddress "IPvFuture address is invalid")
  else if isIPv4 host then .error (.invalidAddress "An IPv4 address cannot be in brackets")
  else if isIPv6 host then .ok ()
  else .error (.invalidAddress (quoteText (String.ofList host) ++
    " does not appear to be an IPv4 or IPv6 address"))

/-- The text after the last `c`, or all of it when there is none. -/
def afterLast (c : Char) (cs : List Char) : List Char :=
  (cut c cs.reverse).1.reverse

/-- Checks the host of an authority that holds brackets. The host follows the last `@`; when it
has an opening bracket, nothing may stand before it, the address ends at the first closing
bracket, and only a port may follow; otherwise the host ends at its first `:`. -/
def checkBracketedAuthority (authority : List Char) : Except Fault Unit :=
  let hostAndPort := afterLast '@' authority
  match cut '[' hostAndPort with
  | (before, some bracketed) =>
    let (host, port) := cut ']' bracketed
    let port := port.getD []
    if !before.isEmpty || (!port.isEmpty && port.head? != some ':') then
      .error (.invalidAddress "Invalid IPv6 URL")
    else checkBracketedHost host
  | (_, none) => checkBracketedHost (cut ':' hostAndPort).1

/-- Checks an authority: brackets in pairs around an address, and no character of a host that
is not ASCII whose compatibility form is a delimiter. -/
def checkAuthority (authority : List Char) : Except Fault Unit := do
  let opens := authority.contains '['
  let closes := authority.contains ']'
  if opens != closes then throw (.invalidAddress "Invalid IPv6 URL")
  if opens && closes then checkBracketedAuthority authority
  if authority.any (fun c => delimiterForms.contains c) then
    throw (.invalidAddress ("netloc " ++ "'" ++ String.ofList authority ++ "'" ++
      " contains invalid characters under NFKC normalization"))

/-- The parts of an address, or why its authority is malformed. -/
def parse (s : String) : Except Fault Address := do
  let cs := (s.toList.dropWhile (fun c => c.toNat ≤ 0x20)).filter
    (fun c => c != '\t' && c != '\r' && c != '\n')
  let (scheme, cs) := match cs.findIdx? (· = ':') with
    | some i =>
      if i > 0 && (cs.take i).all isSchemeChar && (cs.headD ' ').isAlpha then
        (lowerChars (cs.take i), cs.drop (i + 1))
      else ([], cs)
    | none => ([], cs)
  let (authority, cs) :=
    if cs.take 2 = ['/', '/'] then
      let rest := cs.drop 2
      let n := (rest.takeWhile (fun c => c != '/' && c != '?' && c != '#')).length
      (rest.take n, rest.drop n)
    else ([], cs)
  if !authority.isEmpty then checkAuthority authority
  let (cs, fragment) := cut '#' cs
  let (cs, query) := cut '?' cs
  let schemeText := String.ofList scheme
  let (path, params) :=
    if schemesWithParams.contains schemeText && cs.contains ';' then
      let lastSlash := (cs.length - 1) - ((cs.reverse.findIdx? (· = '/')).getD cs.length)
      let from_ := if cs.contains '/' then lastSlash else 0
      match (cs.drop from_).findIdx? (· = ';') with
      | some i => (cs.take (from_ + i), cs.drop (from_ + i + 1))
      | none => (cs, [])
    else (cs, [])
  return { scheme := schemeText, authority := String.ofList authority, path := String.ofList path,
           params := String.ofList params, query := String.ofList (query.getD []),
           fragment := String.ofList (fragment.getD []) }

/-- The last segment of the path, ignoring empty and `.` segments; empty when there is none. -/
def lastSegment (a : Address) : String :=
  ((splitOn "/" a.path).filter (fun seg => seg != "" && seg != ".")).getLastD ""

end Address

end Citations
