/-! JSON values. -/
namespace SeriesQuery

/-- Fields keep the order in which they are written. -/
inductive Json where
  | null
  | bool (value : Bool)
  | integer (value : Int)
  | real (value : Float)
  | string (content : String)
  | array (items : List Json)
  | object (fields : List (String × Json))

end SeriesQuery
