/-
This file puts together the addresses of remote calls.
-/

import Storyboard.Text.Blank
import Storyboard.Text.Percent

namespace Storyboard.Remote

/-- The address of a call. -/
structure Address where
  /-- The host in small letters. -/
  host : String
  /-- The path with its escapes decoded. -/
  path : String
  /-- The query as it is sent. -/
  query : String
  deriving DecidableEq, Repr

namespace Address

/-- Splits before the first character that satisfies a test. -/
def splitBefore (test : Char → Bool) (characters : List Char) : List Char × List Char :=
  characters.span (!test ·)

def withoutScheme (characters : List Char) : List Char :=
  match splitBefore (· = ':') characters with
  | (_, ':' :: '/' :: '/' :: rest) => rest
  | _ => characters

/-- The host in an authority, without a user and a port. -/
def hostOf (authority : List Char) : List Char :=
  let afterUser := (authority.reverse.takeWhile (· ≠ '@')).reverse
  (afterUser.takeWhile (· ≠ ':')).map Char.toLower

/-- The host of a base address and whatever follows it, without slashes at its end. -/
def splitBase (base : String) : List Char × List Char :=
  let trimmed := (base.toList.reverse.dropWhile (· = '/')).reverse
  let (authority, rest) := splitBefore (· ∈ ['/', '?', '#']) (withoutScheme trimmed)
  (hostOf authority, rest.takeWhile (· ≠ '#'))

/-- Resolves the segments of a path that stand for the same or the upper level. -/
def resolveSegments (done : List String) : List String → List String
  | [] => done.reverse
  | segment :: rest =>
      if segment = "." then resolveSegments done rest
      else if segment = ".." then
        resolveSegments (match done with
          | [] => []
          | [""] => [""]
          | _ :: upper => upper) rest
      else resolveSegments (segment :: done) rest

def resolve (path : String) : String :=
  let segments := Text.parts '/' path
  if segments.any (fun segment => segment = "." || segment = "..") then
    "/".intercalate (resolveSegments [] segments)
  else path

/-- A character that no address may hold. -/
def isControl (character : Char) : Bool := character.toNat < 0x20 || character.toNat = 0x7F

/-- The address of a path below a base address. Parameters take the place of a query in the path. -/
def make? (base path : String) (parameters : List (String × String)) : Option Address :=
  if path.toList.any isControl then none
  else
    let (host, basePath) := splitBase base
    let below := basePath ++ path.toList.takeWhile (· ≠ '#')
    let (plainPath, ownQuery) := splitBefore (· = '?') below
    let given := parameters.map fun (name, value) => name ++ "=" ++ Text.Percent.encodeQuery value
    some {
      host := String.ofList host
      path := Text.Percent.decode (resolve (String.ofList plainPath))
      query :=
        if parameters.isEmpty then Text.Percent.escapeQuery (ownQuery.drop 1)
        else "&".intercalate given }

end Address

end Storyboard.Remote
