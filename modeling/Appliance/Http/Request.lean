import Appliance.Secret

/-!
# Requests

A request is written as a line with method and target, a line that names the
host, lines with its own fields, an empty line and the body. How long the body is
and whether the connection is used again is for the fields to say.
-/

namespace Appliance.Http

/-- The path and query of a URL without fragment. -/
def targetOf (url : String) : String :=
  let afterScheme := url.toList.drop ((url.toList.takeWhile (· ≠ ':')).length + 3)
  String.ofList (afterScheme.dropWhile (· ≠ '/'))

/-- A request. -/
structure Request where
  method : String
  /-- Path and query. -/
  target : String
  /-- Host and port. -/
  authority : String
  fields : List (String × String)
  body : Octets

namespace Request

/-- The lines before the body, without their ends. -/
def headLines (r : Request) : List String :=
  (r.method ++ " " ++ r.target ++ " HTTP/1.1") :: ("Host: " ++ r.authority) ::
    r.fields.map fun (name, value) => name ++ ": " ++ value

/-- The request as it is sent. -/
def octets (r : Request) : Octets :=
  Octets.ofText (String.join (r.headLines.map (· ++ "\r\n")) ++ "\r\n") ++ r.body

end Request

end Appliance.Http
