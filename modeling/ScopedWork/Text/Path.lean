/-! # The last segment of a path

The segments of a path are separated by two colons, as in `script::Tagged<script::Marker>`. What stands after the last
two colons is taken as it is, whatever the path means.
-/

namespace ScopedWork.Text

/-- What comes before the nearest two colons. -/
def beforeColons : List Char → List Char
  | [] => []
  | ':' :: ':' :: _ => []
  | c :: rest => c :: beforeColons rest

/-- What comes after the last two colons of a path, or all of it if there are none. -/
def lastSegment (path : String) : String :=
  String.ofList (beforeColons path.toList.reverse).reverse

example : lastSegment "script::Tagged<script::Marker>" = "Marker>" := by decide

end ScopedWork.Text
