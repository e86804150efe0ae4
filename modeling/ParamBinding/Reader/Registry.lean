import ParamBinding.Reader.Standard

/-!
# The registry of readers

A class is read from texts by a reader of its own, or else by the reader that is registered for it;
enumerations without either have the standard one. Types that are not one class have none.
-/

namespace ParamBinding

/-- Readers by the path of their class. -/
abbrev Registry := List (String × TextReader)

namespace Registry

/-- The classes whose readers are always registered. -/
def standard : Registry :=
  [("uuid.UUID", .uuid), ("decimal.Decimal", .decimal), ("datetime.datetime", .dateTime),
    ("datetime.date", .date), ("datetime.time", .time), ("datetime.timedelta", .duration)]

/-- A registry with one more reader, which takes the place of an older one. -/
def register (r : Registry) (path : String) (reader : TextReader) : Registry :=
  (path, reader) :: r

end Registry

namespace Ty

/-- The reader that a class brings along. -/
def ownReader? : Ty → Option TextReader
  | .scalar s => s.reader
  | .plain _ r => r
  | .model h _ => h.reader
  | _ => none

/-- The reader that a type without notes is read by. -/
def bareReader? (r : Registry) (t : Ty) : Option TextReader :=
  match t.ownReader? with
  | some reader => some reader
  | none =>
    match t.class?.bind fun c => r.lookup c.path with
    | some reader => some reader
    | none => match t with
      | .enum e => some (.enum e)
      | _ => none

/-- The reader that values of a type are read by, if texts can be read at all. -/
def reader? (r : Registry) (t : Ty) : Option TextReader := bareReader? r t.bare

end Ty

end ParamBinding
