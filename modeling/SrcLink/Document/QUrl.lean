import Mathlib.Algebra.Order.Ring.Int
import Mathlib.Data.List.Basic

/-! # URLs and their queries

The program sets the parts of a `QUrl` one by one and keeps the items of a `QUrlQuery` in
their order. A query is taken as the calls that make it; what Qt makes of the texts that
it is given is a parameter.
-/

namespace SrcLink

set_option autoImplicit false

inductive QUrlQuery where
  | ofText (text : String)
  | addQueryItem (query : QUrlQuery) (key value : String)
  /-- removes the first item with the key -/
  | removeQueryItem (query : QUrlQuery) (key : String)
  deriving DecidableEq

/-- What Qt makes of the texts. -/
structure UrlSyntax where
  /-- the host of a `QUrl` after `setHost` -/
  setHost : String → String
  /-- its port after `setPort` -/
  setPort : Int → Int
  /-- the host of a `QUrl` made from a text -/
  host : String → String
  /-- the items of a `QUrlQuery` made from a text; a value may be null -/
  queryItems : String → List (String × Option String)
  /-- the value of an item that is added with a text -/
  itemValue : String → String

namespace QUrlQuery

def items (urls : UrlSyntax) : QUrlQuery → List (String × Option String)
  | ofText text => urls.queryItems text
  | addQueryItem query key value => items urls query ++ [(key, some (urls.itemValue value))]
  | removeQueryItem query key => (items urls query).eraseP fun item => item.1 = key

variable (urls : UrlSyntax) (query : QUrlQuery)

@[simp] theorem items_ofText (text : String) :
    (ofText text).items urls = urls.queryItems text := rfl

@[simp] theorem items_addQueryItem (key value : String) :
    (query.addQueryItem key value).items urls =
      query.items urls ++ [(key, some (urls.itemValue value))] := rfl

@[simp] theorem items_removeQueryItem (key : String) :
    (query.removeQueryItem key).items urls =
      (query.items urls).eraseP fun item => item.1 = key := rfl

end QUrlQuery

/-- An item of a query without percent signs. -/
def plainItem (text : List Char) : String × Option String :=
  match text.span (· ≠ '=') with
  | (key, []) => (.ofList key, none)
  | (key, _ :: value) => (.ofList key, some (.ofList value))

/-- The syntax of plain texts, where the authority of a URL is a host and a port. -/
def plainUrls : UrlSyntax where
  setHost address := address
  setPort port := if -1 ≤ port ∧ port ≤ 65535 then port else -1
  host url := .ofList (((url.toList.dropWhile (· ≠ '/')).drop 2).takeWhile fun c =>
    c ≠ ':' && c ≠ '/')
  queryItems text := ((text.toList.splitOn '&').filter (· ≠ [])).map plainItem
  itemValue text := text

end SrcLink
