import ParamBinding.Fault
import ParamBinding.Request.Cookie
import ParamBinding.Request.Urlencoded
import ParamBinding.Text.Case

/-!
# Requests

The parts of a request that parameters are taken from. Names of headers are compared without regard
to case, and have to have a Latin-1 form. How a query, cookies and the address are read is the matter
of the server that has taken the request (`RequestReader`); `RequestReader.standard` is how it is
usually done.
-/

namespace ParamBinding

open ParamBinding.Text

/-- A character of the path as it stands in the address of a request. -/
def pathChar (c : Char) : List Char :=
  if c = '?' then "%3F".toList
  else if c = '#' then "%23".toList
  else if c = '\\' then "%5C".toList
  else if c = '\t' || c = '\n' || c = '\r' then []
  else [c]

/-- A path that is not empty starts with a slash. -/
def rooted (cs : List Char) : List Char :=
  if cs.isEmpty || cs.head? = some '/' then cs else '/' :: cs

/-- How a server reads what it is sent. -/
structure RequestReader where
  /-- The pairs of a query. -/
  queryPairs : Bytes → List (String × String)
  /-- The cookies of some headers, in order. -/
  cookies : List String → List (String × String)
  /-- The path in the address that a path, a query and headers make, if they make one. -/
  addressPath : String → Bytes → List (String × String) → Except Fault String

/-- Queries are urlencoded data whose bytes are characters, and an address is UTF-8 as a whole. -/
def RequestReader.standard : RequestReader where
  queryPairs query := Urlencoded.parse (latin1 query)
  cookies headers := headers.flatMap Cookie.parse
  addressPath path query _ := match decodeUtf8List query with
    | .error e => .error (.notUtf8 e)
    | .ok _ => .ok (String.ofList ((rooted path.toList).flatMap pathChar))

/-- A request, apart from its body. -/
structure Request where
  path : String := "/x"
  query : Bytes := []
  headers : List (String × String) := []
  pathParams : List (String × Value) := []
  reader : RequestReader := .standard

/-- The media type of simple forms. -/
def formContentType : String := "application/x-www-form-urlencoded"

/-- The characters at the start of a text that have no Latin-1 form. -/
def beyondLatin1 (cs : List Char) : List Char := cs.takeWhile (0x100 ≤ ·.toNat)

/-- The first characters of a text that have no Latin-1 form. -/
def latin1Error? (cs : List Char) : Option Latin1Error :=
  let before := cs.takeWhile (·.toNat < 0x100)
  match beyondLatin1 (cs.drop before.length) with
  | [] => none
  | bad => some ⟨bad, before.length⟩

namespace Request

/-- The values of all headers of a name, in order. -/
def headersNamed (r : Request) (name : String) : List String :=
  (r.headers.filter fun h => lower h.1 = lower name).map (·.2)

/-- The values of all headers of a name that a field asks for. -/
def headerValues (r : Request) (name : String) : Except Fault (List String) :=
  match latin1Error? (lower name).toList with
  | some e => .error (.headerName e)
  | none => .ok (r.headersNamed name)

/-- The content type, empty when there is none. -/
def contentType (r : Request) : String := (r.headersNamed "content-type").headD ""

/-- The pairs of the query. -/
def queryPairs (r : Request) : List (String × String) := r.reader.queryPairs r.query

/-- The cookies of all headers, in order. -/
def cookies (r : Request) : List (String × String) :=
  r.reader.cookies (r.headersNamed "cookie")

/-- The path in the address of the request. -/
def addressPath (r : Request) : Except Fault String :=
  r.reader.addressPath r.path r.query r.headers

/-- The query is read as urlencoded data. -/
def ReadsPairs (r : Request) : Prop := r.queryPairs = Urlencoded.parse (latin1 r.query)

/-- The address is read when the query is UTF-8, and only then. -/
def ReadsAddress (r : Request) : Prop :=
  ∀ f, r.addressPath = .error f ↔ ∃ e, decodeUtf8List r.query = .error e ∧ f = .notUtf8 e

theorem readsPairs_standard {r : Request} (h : r.reader = .standard) : r.ReadsPairs := by
  rw [ReadsPairs, queryPairs, h]
  rfl

theorem readsAddress_standard {r : Request} (h : r.reader = .standard) : r.ReadsAddress := by
  intro f
  have haddress : r.addressPath = RequestReader.standard.addressPath r.path r.query r.headers := by
    rw [addressPath, h]
  rw [haddress]
  unfold RequestReader.standard
  cases hquery : decodeUtf8List r.query <;> simp [hquery, eq_comm]

theorem ReadsAddress.exists_path {r : Request} (h : r.ReadsAddress) {cs : List Char}
    (hquery : decodeUtf8List r.query = .ok cs) : ∃ path, r.addressPath = .ok path := by
  cases haddress : r.addressPath with
  | ok path => exact ⟨path, rfl⟩
  | error f =>
    obtain ⟨e, he, -⟩ := (h f).mp haddress
    rw [hquery] at he
    cases he

end Request

end ParamBinding
