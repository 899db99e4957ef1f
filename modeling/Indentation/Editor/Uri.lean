import Indentation.Character.Hex
import Indentation.Text.Utf8

/-!
# Document addresses

Editors name documents by URIs: a scheme, a host, a path, a query and a fragment. Characters may be
written as a percent sign and two hexadecimal digits for each byte of their UTF-8 form.

## Main definitions

* `Editor.percentDecode` — a text with its percent signs resolved
* `Editor.Uri` — the parts of a URI that are used
* `Editor.Uri.filePath` — the path in the file system
-/

namespace Indentation.Editor

/-! ### Percent signs -/

/-- The text of bytes, with a replacement character for each passage that is no text. -/
def lenientText : Nat → List UInt8 → Text
  | 0, _ => []
  | fuel + 1, bytes =>
    match Text.ofUtf8 bytes with
    | .ok text => text
    | .error fault =>
      let before := ((Text.ofUtf8 (bytes.take fault.position)).toOption).getD []
      before ++ '\uFFFD' :: lenientText fuel (bytes.drop (fault.position + fault.size))

/-- The bytes that percent signs at the front of a text stand for, and the text behind them. -/
def takeBytes : Text → List UInt8 × Text
  | '%' :: high :: low :: cs =>
    match Character.hexValue? high, Character.hexValue? low with
    | some h, some l =>
      let (bytes, rest) := takeBytes cs
      (UInt8.ofNat (16 * h + l) :: bytes, rest)
    | _, _ => ([], '%' :: high :: low :: cs)
  | text => ([], text)

/-- Resolves the percent signs of a text. Those without two hexadecimal digits stay. -/
def decodeFrom : Nat → Text → Text
  | 0, text => text
  | _ + 1, [] => []
  | fuel + 1, c :: cs =>
    match takeBytes (c :: cs) with
    | ([], _) => c :: decodeFrom fuel cs
    | (bytes, rest) => lenientText bytes.length.succ bytes ++ decodeFrom fuel rest

/-- The text with its percent signs resolved. -/
def percentDecode (text : Text) : Text :=
  decodeFrom text.length text

/-! ### Parts -/

/-- The parts of a URI that are used. -/
structure Uri where
  scheme : Text
  host : Text
  path : Text
  deriving DecidableEq, Repr

namespace Uri

/-- A character of a scheme. -/
def isSchemeChar (c : Char) : Bool :=
  c.isAlphanum || c == '+' || c == '-' || c == '.'

/-- The scheme in lowercase and what follows its colon, or no scheme and the whole text. -/
def splitScheme (text : Text) : Text × Text :=
  let scheme := text.takeWhile (· != ':')
  match text.drop scheme.length with
  | ':' :: rest =>
    if scheme.head?.any Char.isAlpha && scheme.all isSchemeChar then
      (scheme.map Char.toLower, rest)
    else
      ([], text)
  | _ => ([], text)

/-- The host behind two slashes, and what follows it. -/
def splitHost : Text → Text × Text
  | '/' :: '/' :: rest =>
    let isHostChar := fun c => c != '/' && c != '?' && c != '#'
    (rest.takeWhile isHostChar, rest.dropWhile isHostChar)
  | text => ([], text)

/-- The schemes whose last name may carry parameters behind a semicolon. -/
def schemesWithParameters : List String :=
  ["", "ftp", "hdl", "prospero", "http", "https", "shttp", "rtsp", "rtspu", "sip", "sips", "mms",
    "sftp", "tel"]

/-- The path without the parameters of its last name. -/
def dropParameters (path : Text) : Text :=
  let last := (path.reverse.takeWhile (· != '/')).reverse
  path.take (path.length - last.length) ++ last.takeWhile (· != ';')

/-- The parts of a URI, with their percent signs resolved. Blanks in front and line ends are left
out. -/
def ofText (text : Text) : Uri :=
  let text := (text.dropWhile fun c => c.toNat ≤ 32).filter
    fun c => c != '\t' && c != '\r' && c != '\n'
  let (scheme, rest) := splitScheme text
  let (host, rest) := splitHost rest
  let path := (rest.takeWhile (· != '#')).takeWhile (· != '?')
  let path :=
    if schemesWithParameters.contains (String.ofList scheme) then dropParameters path else path
  ⟨percentDecode scheme, percentDecode host, percentDecode path⟩

/-- The scheme of files. -/
def fileScheme : Text :=
  "file".toList

/-- The path in the file system. The host of a file comes in front of it, and a drive letter at its
front stands alone. -/
def filePath (uri : Uri) : Text :=
  if !uri.host.isEmpty && !uri.path.isEmpty && uri.scheme = fileScheme then
    '/' :: '/' :: uri.host ++ uri.path
  else
    match uri.path with
    | '/' :: drive :: ':' :: rest =>
      if drive.isAlpha then drive.toLower :: ':' :: rest else uri.path
    | path => path

end Uri

end Indentation.Editor
