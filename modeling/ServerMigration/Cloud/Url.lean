import ServerMigration.Text.Numeral
import ServerMigration.Text.Search
import ServerMigration.Text.Utf8

/-!
# Addresses of resources

An address of the scheme `http` names a server, a path and possibly a query.  A client sends the
path and the query in a normal form: characters that may not stand there are percent-encoded, the
segments `.` and `..` are resolved, and a fragment is left out.

## Main definitions

* `Url.percentEncode` : text without the characters of some set.
* `Url.resolveDots` : the segments of a path without `.` and `..`.
* `Url.target?` : what a client asks a server for.
-/

namespace ServerMigration.Url

/-- Characters that stand neither in a path nor in a query. -/
def isExcluded (c : Char) : Bool :=
  c.toNat ≤ 0x20 || 0x7F ≤ c.toNat || c ∈ ['"', '<', '>', '#']

/-- Characters that do not stand in a path. -/
def isExcludedFromPath (c : Char) : Bool :=
  isExcluded c || c ∈ ['\x60', '?', '\x7b', '\x7d']

/-- Characters that do not stand in a query. -/
def isExcludedFromQuery (c : Char) : Bool :=
  isExcluded c || c = '\''

/-- A byte as a percent sign and two upper-case hexadecimal digits. -/
def percentByte (byte : UInt8) : List Char :=
  '%' :: (Text.hexByte byte).map Char.toUpper

/-- Every excluded character replaced by the percent-encoded bytes of its UTF-8 form. -/
def percentEncode (excluded : Char → Bool) (text : List Char) : List Char :=
  text.flatMap fun c => if excluded c then (String.utf8EncodeChar c).flatMap percentByte else [c]

/-- A segment with its dots decoded, so far as they may make it a dot segment. -/
def decodeDots : List Char → List Char
  | '%' :: '2' :: 'e' :: rest => '.' :: decodeDots rest
  | '%' :: '2' :: 'E' :: rest => '.' :: decodeDots rest
  | c :: rest => c :: decodeDots rest
  | [] => []

/-- Goes on resolving segments; `above` holds those so far, the last one first.  The last segment
of a path is never dropped: a dot segment there leaves an empty one. -/
def resolveFrom (above : List (List Char)) : List (List Char) → List (List Char)
  | [] => above.reverse
  | segment :: rest =>
    let above := match decodeDots segment with
      | ['.'] => if rest.isEmpty then [] :: above else above
      | ['.', '.'] => if rest.isEmpty then [] :: above.tail else above.tail
      | _ => segment :: above
    resolveFrom above rest

/-- The segments of a path, each `.` dropped, and each `..` together with the segment above it. -/
def resolveDots (segments : List (List Char)) : List (List Char) :=
  resolveFrom [] segments

/-- The path for the text between the server's name and the query. -/
def path (text : List Char) : List Char :=
  let text := text.map fun c => if c = '\\' then '/' else c
  let segments := match Text.splitOn '/' text with
    | [] :: (segment :: segments) => segment :: segments
    | segments => segments
  let encoded := segments.map (percentEncode isExcludedFromPath)
  '/' :: Text.joinWith ['/'] (resolveDots encoded)

/-- What a client asks the server for, given all that follows the server's name and port in an
address.  There is nothing if what follows does not end the port. -/
def target? (rest : String) : Option String :=
  let ended := (rest.toList.reverse.dropWhile (·.toNat ≤ 0x20)).reverse
  let text := (ended.filter fun c => c ∉ ['\t', '\n', '\r']).takeWhile (· ≠ '#')
  match text with
  | [] => some "/"
  | first :: _ =>
    if first ∉ ['/', '\\', '?'] then none
    else
      let (before, query) := Text.splitOnce '?' text
      let query := match query with
        | some query => '?' :: percentEncode isExcludedFromQuery query
        | none => []
      some (.ofList (path before ++ query))

end ServerMigration.Url
