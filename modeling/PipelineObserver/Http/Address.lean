import PipelineObserver.Http.Host
/-!
Addresses of HTTP servers, and of resources on them.
-/
namespace PipelineObserver.Http

/-- The address of a resource: a host, the number of its service unless that is the usual one, and
what is asked of the host. -/
structure Address where
  secure : Bool
  host : String
  service : Option Nat
  -- The path, which begins with a slash.
  path : String
  query : Option String
  deriving DecidableEq

namespace Address

/-- Either slash divides the parts of an address. -/
def isSlash (c : Char) : Bool := c == '/' || c == '\\'

/-- Whether a part of a path stands for the part before it. -/
def isUp (part : List Char) : Bool :=
  [".." , ".%2e", "%2e.", "%2e%2e"].contains (String.ofList (part.map Char.toLower))

/-- Whether a part of a path stands for nothing. -/
def isHere (part : List Char) : Bool :=
  [".", "%2e"].contains (String.ofList (part.map Char.toLower))

/-- Follows the parts of a path from the ones before them, which come in reverse. -/
def follow (seen : List (List Char)) : List (List Char) → List (List Char)
  | [] => seen
  | [part] =>
    if isUp part then [] :: seen.drop 1
    else if isHere part then [] :: seen
    else Text.percentEncode Text.inPath part :: seen
  | part :: rest =>
    if isUp part then follow (seen.drop 1) rest
    else if isHere part then follow seen rest
    else follow (Text.percentEncode Text.inPath part :: seen) rest

def normalPath (cs : List Char) : String :=
  let parts := Text.split '/' (cs.map fun c => if isSlash c then '/' else c)
  let parts := match parts with
    | [] :: rest => if rest.isEmpty then [[]] else rest
    | parts => parts
  String.ofList ('/' :: ['/'].intercalate (follow [] parts).reverse)

/-- The characters that count: what surrounds a text, or breaks its lines, is left out. -/
def essential (s : String) : List Char :=
  let isSpace (c : Char) : Bool := c.toNat ≤ 0x20
  let trimmed := ((s.toList.dropWhile isSpace).reverse.dropWhile isSpace).reverse
  trimmed.filter fun c => c ≠ '\t' ∧ c ≠ '\n' ∧ c ≠ '\r'

/-- Whether HTTP goes over encryption, by the word before the first colon. -/
def secure? (scheme : List Char) : Option Bool :=
  match String.ofList (scheme.map Char.toLower) with
  | "http" => some false
  | "https" => some true
  | _ => none

/-- The service that is meant if none is given. -/
def usualService (secure : Bool) : Nat := if secure then 443 else 80

/-- Reads what follows the slashes after the scheme. The name of a user may stand before the host;
a fragment at the end is left out. -/
def ofAuthority? (secure : Bool) (cs : List Char) : Option Address := do
  let (authority, rest) := cs.span fun c => !(isSlash c || c == '?' || c == '#')
  let (host, service) := Host.splitService (authority.reverse.takeWhile (· ≠ '@')).reverse
  let host ← Host.host? host
  let service ← Host.service? service
  let (path, query) := (rest.takeWhile (· ≠ '#')).span (· ≠ '?')
  return {
    secure := secure
    host := host
    service := service.filter (· ≠ usualService secure)
    path := normalPath path
    query := match query with
      | _ :: query => some (String.ofList (Text.percentEncode Text.inQuery query))
      | [] => none }

/-- Reads the address of a resource. It is one of HTTP, with a host. -/
def parse? (s : String) : Option Address :=
  match (essential s).span (· ≠ ':') with
  | (scheme, _ :: rest) =>
    (secure? scheme).bind fun secure => ofAuthority? secure (rest.dropWhile isSlash)
  | (_, []) => none

def withPairs (a : Address) (pairs : List (String × String)) : Address :=
  if pairs.isEmpty then a
  else
    let form := String.ofList (Text.formPairs pairs)
    { a with
      query := some (match a.query with
        | some q => if q = "" then form else q ++ "&" ++ form
        | none => form) }

def target (a : Address) : String :=
  match a.query with
  | some q => a.path ++ "?" ++ q
  | none => a.path

end Address

end PipelineObserver.Http
